import NxTutors.MatchAgent.TurnService
import NxTutors.Effect.Steps

/-!
# What is remembered, and what was said

A value that is recalled from memory is overlaid on what a message says, and the two are merged
into what is stored, by trust. A memory is trusted more than what a model has read off a message, so
it does more than to fill gaps: `gaps_only_iff` says when it does no more.
-/

namespace NxTutors.MatchAgent

open Effect

/-! ## Fields that may be recalled -/

/-- What memory may say something about. -/
inductive Recallable
  | subject | board | studentClass | languagePreference | preferredTeachingStyle
  deriving DecidableEq, Repr

/-- Under which key. -/
def Recallable.key : Recallable → String
  | .subject => "subject"
  | .board => "board"
  | .studentClass => "student_class"
  | .languagePreference => "language_preference"
  | .preferredTeachingStyle => "teaching_style"

/-- The value of a requirement. -/
def MatchRequirement.recallable (r : MatchRequirement) : Recallable → Option (Tracked String)
  | .subject => r.subject
  | .board => r.board
  | .studentClass => r.studentClass
  | .languagePreference => r.languagePreference
  | .preferredTeachingStyle => r.preferredTeachingStyle

/-- What is recalled. -/
def remembered (recalled : List (String × String)) (now : Time) (k : Recallable) :
    Option (Tracked String) :=
  ((recalled.lookup k.key).filter (· ≠ "")).map fun value =>
    { value, confidence := 7 / 10, provenance := .memory, observedAt := some now }

/-- Trusted more than a memory is. -/
def Tracked.trusted (v : Tracked String) : Prop := Provenance.memory.rank < v.provenance.rank

instance (v : Tracked String) : Decidable v.trusted := inferInstanceAs (Decidable (_ < _))

namespace Tracked

variable {α : Type} {v w : Tracked α} {old new : Option (Tracked α)}

theorem fold_none_left : fold none new = new := by
  cases new <;> rfl

/-- The value that is trusted more wins. -/
theorem fold_of_rank_lt (h : w.provenance.rank < v.provenance.rank) :
    fold (some w) (some v) = some v := by
  have hbeats : v.beats (some w) = true := by
    unfold beats
    dsimp only
    rw [if_pos h.ne', decide_eq_true h]
  exact if_pos hbeats

theorem fold_of_rank_gt (h : v.provenance.rank < w.provenance.rank) :
    fold (some w) (some v) = some w := by
  have hbeats : v.beats (some w) = false := by
    unfold beats
    dsimp only
    rw [if_pos h.ne, decide_eq_false (Nat.lt_asymm h)]
  exact if_neg (by rw [hbeats]; decide)

/-- What two values come to is one of them. -/
theorem fold_eq_or : fold old new = old ∨ fold old new = new := by
  unfold fold
  cases new with
  | none => exact .inl rfl
  | some v =>
    dsimp only
    split
    · exact .inr rfl
    · exact .inl rfl

end Tracked

section Overlay

variable {q : MatchRequirement} {stored : Option MatchRequirement}
  {recalled : List (String × String)} {now : Time} {k : Recallable}

theorem provenance_remembered {v : Tracked String} (h : remembered recalled now k = some v) :
    v.provenance = .memory := by
  obtain ⟨value, -, rfl⟩ := Option.map_eq_some_iff.mp h
  rfl

theorem recallable_mergedWith {r : MatchRequirement} :
    (r.mergedWith q).recallable k = Tracked.fold (r.recallable k) (q.recallable k) := by
  cases k <;> rfl

theorem recallable_applyMemory : (applyMemory q recalled now).recallable k =
    Tracked.fold (remembered recalled now k) (q.recallable k) := by
  unfold applyMemory
  split
  · rename_i hnone
    rw [hnone]
    exact Tracked.fold_none_left.symm
  · dsimp only
    rw [recallable_mergedWith]
    cases k <;> rfl

theorem recallable_merge : (TurnService.merge stored q).recallable k =
    Tracked.fold (stored.bind (·.recallable k)) (q.recallable k) := by
  cases stored with
  | none => exact Tracked.fold_none_left.symm
  | some r => exact recallable_mergedWith

end Overlay

/-! ## Filling gaps -/

/-- Two requirements say the same about a field. -/
def SameField (r r' : MatchRequirement) : Field → Prop
  | .parentRef => r'.parentRef = r.parentRef
  | .studentRef => r'.studentRef = r.studentRef
  | .leadId => r'.leadId = r.leadId
  | .subject => r'.subject = r.subject
  | .additionalSubject s => s ∈ r'.additionalSubjects ↔ s ∈ r.additionalSubjects
  | .topic s => s ∈ r'.topics ↔ s ∈ r.topics
  | .weakTopic s => s ∈ r'.weakTopics ↔ s ∈ r.weakTopics
  | .board => r'.board = r.board
  | .studentClass => r'.studentClass = r.studentClass
  | .exam => r'.exam = r.exam
  | .learningGoal => r'.learningGoal = r.learningGoal
  | .preferredTeachingStyle => r'.preferredTeachingStyle = r.preferredTeachingStyle
  | .languagePreference => r'.languagePreference = r.languagePreference
  | .tutorGenderPreference => r'.tutorGenderPreference = r.tutorGenderPreference
  | .explicitTutorRef => r'.explicitTutorRef = r.explicitTutorRef
  | .mode => r'.mode = r.mode
  | .location => r'.location = r.location
  | .preferredSchedule => r'.preferredSchedule = r.preferredSchedule
  | .timezone => r'.timezone = r.timezone
  | .sessionsPerWeek => r'.sessionsPerWeek = r.sessionsPerWeek
  | .sessionMinutes => r'.sessionMinutes = r.sessionMinutes
  | .startBy => r'.startBy = r.startBy
  | .budget => r'.budget = r.budget
  | .urgency => r'.urgency = r.urgency
  | .demoRequested => r'.demoRequested = r.demoRequested
  | .capturedAt => r'.capturedAt = r.capturedAt
  | .turnCount => r'.turnCount = r.turnCount

/-- What a message says, which nobody remembers, and what is recalled beside it. -/
structure Extraction where
  incoming : MatchRequirement
  recalled : List (String × String)
  now : Time
  said : ∀ k v, incoming.recallable k = some v → v.provenance ≠ .memory

/-- What is recalled about a field. -/
def Extraction.memory (m : Extraction) (k : Recallable) : Option (Tracked String) :=
  remembered m.recalled m.now k

/-- What the message says about it. -/
def Extraction.told (m : Extraction) (k : Recallable) : Option (Tracked String) :=
  m.incoming.recallable k

/-- What is stored in the course of a conversation, and which fields its messages have said
something about. -/
structure Collected where
  stored : Option MatchRequirement := none
  established : Recallable → Bool := fun _ => false

/-- The value that is stored. -/
def Collected.value (c : Collected) (k : Recallable) : Option (Tracked String) :=
  c.stored.bind (·.recallable k)

/-- One more message. -/
def Collected.collect (c : Collected) (m : Extraction) : Collected where
  stored := some (TurnService.merge c.stored (applyMemory m.incoming m.recalled m.now))
  established k := c.established k || (m.told k).isSome

/-- The overlay leaves every field alone that the message has set. -/
def Extraction.Unchanged (m : Extraction) : Prop :=
  ∀ f, m.incoming.captures f = true →
    SameField m.incoming (applyMemory m.incoming m.recalled m.now) f

/-- No field that a message has established holds a recalled value. -/
def Collected.Own (c : Collected) : Prop :=
  ∀ k, c.established k = true → ∃ v, c.value k = some v ∧ v.provenance ≠ .memory

/-- **Memory fills gaps only**: of the message, and of what is stored then. -/
def GapsOnly (c : Collected) (m : Extraction) : Prop := m.Unchanged ∧ (c.collect m).Own

/-- Where something is recalled, the message says something that is trusted more, or it says nothing
and nothing that is trusted less is stored; elsewhere it does not say something that is trusted less
than a memory that is stored. -/
def Outranked (c : Collected) (m : Extraction) : Prop :=
  ∀ k,
    if (m.memory k).isSome then
      (∀ v, m.told k = some v → v.trusted) ∧
        (m.told k = none → ∀ w, c.value k = some w → w.provenance = .memory ∨ w.trusted)
    else ∀ v, m.told k = some v → v.trusted ∨ ∀ w, c.value k = some w → w.provenance ≠ .memory

/-! ## When it does no more -/

theorem Provenance.rank_ne {p : Provenance} (h : p ≠ .memory) : p.rank ≠ Provenance.memory.rank := by
  cases p <;> first | decide | exact absurd rfl h

/-- What was not remembered is trusted more than a memory, or less. -/
theorem Tracked.rank_lt_of_not_trusted {v : Tracked String} (hv : v.provenance ≠ .memory)
    (h : ¬ v.trusted) : v.provenance.rank < Provenance.memory.rank :=
  lt_of_le_of_ne (Nat.not_lt.mp h) (Provenance.rank_ne hv)

section OneField

variable {stored memory told : Option (Tracked String)}

/-- A field of the message is left alone exactly if it is trusted more than what is recalled. -/
theorem unchanged_iff (hmemory : ∀ v, memory = some v → v.provenance = .memory)
    {v : Tracked String} (hv : v.provenance ≠ .memory) :
    Tracked.fold memory (some v) = some v ↔ (memory.isSome = true → v.trusted) := by
  cases memory with
  | none => exact iff_of_true Tracked.fold_none_left nofun
  | some m =>
    have hm := hmemory m rfl
    by_cases htrusted : v.trusted
    · refine iff_of_true (Tracked.fold_of_rank_lt ?_) fun _ => htrusted
      rw [hm]
      exact htrusted
    · refine iff_of_false ?_ fun h => htrusted (h rfl)
      rw [Tracked.fold_of_rank_gt (by rw [hm]; exact Tracked.rank_lt_of_not_trusted hv htrusted)]
      intro heq
      exact hv (Option.some.inj heq ▸ hm)

/-- **What a field comes to** is not recalled, exactly if it is outranked. -/
theorem own_iff (hmemory : ∀ v, memory = some v → v.provenance = .memory)
    (htold : ∀ v, told = some v → v.provenance ≠ .memory)
    (hunchanged : ∀ v, told = some v → memory.isSome = true → v.trusted) :
    ((∃ w, stored = some w ∧ w.provenance ≠ .memory) ∨ told.isSome = true →
        ∃ v, Tracked.fold stored (Tracked.fold memory told) = some v ∧ v.provenance ≠ .memory) ↔
      if memory.isSome then told = none → ∀ w, stored = some w → w.provenance = .memory ∨ w.trusted
      else ∀ v, told = some v → v.trusted ∨ ∀ w, stored = some w → w.provenance ≠ .memory := by
  cases told with
  | some v =>
    have hv := htold v rfl
    have hfold : Tracked.fold memory (some v) = some v := (unchanged_iff hmemory hv).mpr
      (hunchanged v rfl)
    rw [hfold]
    cases stored with
    | none =>
      rw [Tracked.fold_none_left]
      refine iff_of_true (fun _ => ⟨v, rfl, hv⟩) ?_
      split
      · nofun
      · exact fun _ _ => .inr nofun
    | some w =>
      by_cases hw : w.provenance = .memory
      · by_cases htrusted : v.trusted
        · refine iff_of_true (fun _ => ⟨v, Tracked.fold_of_rank_lt (by rw [hw]; exact htrusted),
            hv⟩) ?_
          split
          · nofun
          · exact fun x hx => .inl (Option.some.inj hx ▸ htrusted)
        · have hnone : memory.isSome = false := by
            cases hisSome : memory.isSome with
            | false => rfl
            | true => exact absurd (hunchanged v rfl hisSome) htrusted
          have hlow := Tracked.rank_lt_of_not_trusted hv htrusted
          rw [Tracked.fold_of_rank_gt (by rw [hw]; exact hlow), hnone, if_neg (by decide)]
          refine iff_of_false (fun h => ?_) (fun h => ?_)
          · obtain ⟨x, hx, hown⟩ := h (.inr rfl)
            exact hown (Option.some.inj hx ▸ hw)
          · rcases h v rfl with htrue | hown
            · exact htrusted htrue
            · exact hown w rfl hw
      · refine iff_of_true (fun _ => ?_) ?_
        · rcases @Tracked.fold_eq_or _ (some w) (some v) with heq | heq
          · exact ⟨w, heq, hw⟩
          · exact ⟨v, heq, hv⟩
        · split
          · nofun
          · exact fun _ _ => .inr fun x hx => Option.some.inj hx ▸ hw
  | none =>
    change (_ → ∃ v, Tracked.fold stored memory = some v ∧ _) ↔ _
    cases memory with
    | none =>
      refine iff_of_true (fun h => ?_) nofun
      rcases h with ⟨w, hstored, hw⟩ | hsaid
      · exact ⟨w, hstored, hw⟩
      · cases hsaid
    | some m =>
      have hm := hmemory m rfl
      rw [if_pos Option.isSome_some]
      cases stored with
      | none =>
        refine iff_of_true (fun h => ?_) fun _ _ hw => nomatch hw
        rcases h with ⟨w, hstored, -⟩ | hsaid
        · cases hstored
        · cases hsaid
      | some w =>
        by_cases hw : w.provenance = .memory
        · refine iff_of_true (fun h => ?_) fun _ x hx => .inl (Option.some.inj hx ▸ hw)
          rcases h with ⟨x, hx, hown⟩ | hsaid
          · exact absurd (Option.some.inj hx ▸ hw) hown
          · cases hsaid
        · by_cases htrusted : w.trusted
          · refine iff_of_true (fun _ => ⟨w, Tracked.fold_of_rank_gt (by rw [hm]; exact htrusted),
              hw⟩) fun _ x hx => .inr (Option.some.inj hx ▸ htrusted)
          · rw [Tracked.fold_of_rank_lt (by
              rw [hm]; exact Tracked.rank_lt_of_not_trusted hw htrusted)]
            refine iff_of_false (fun h => ?_) (fun h => ?_)
            · obtain ⟨x, hx, hown⟩ := h (.inl ⟨w, rfl, hw⟩)
              exact hown (Option.some.inj hx ▸ hm)
            · rcases h rfl w rfl with hmem | htrue
              · exact hw hmem
              · exact htrusted htrue

end OneField

section Conversation

variable {c : Collected} {m : Extraction}

/-- The field of a requirement that may be recalled. -/
def Recallable.field : Recallable → Field
  | .subject => .subject
  | .board => .board
  | .studentClass => .studentClass
  | .languagePreference => .languagePreference
  | .preferredTeachingStyle => .preferredTeachingStyle

theorem sameField_recallable {r r' : MatchRequirement} {k : Recallable} :
    SameField r r' k.field ↔ r'.recallable k = r.recallable k := by
  cases k <;> exact Iff.rfl

theorem captures_recallable {r : MatchRequirement} {k : Recallable} :
    r.captures k.field = (r.recallable k).isSome := by
  cases k <;> rfl

/-- A field that is not recalled is always left alone. -/
theorem sameField_applyMemory {q : MatchRequirement} {recalled : List (String × String)}
    {now : Time} {f : Field} (hf : q.captures f = true) (hnot : ∀ k : Recallable, f ≠ k.field) :
    SameField q (applyMemory q recalled now) f := by
  unfold applyMemory
  split
  · cases f <;> rfl
  · cases f with
    | subject => exact absurd rfl (hnot .subject)
    | board => exact absurd rfl (hnot .board)
    | studentClass => exact absurd rfl (hnot .studentClass)
    | languagePreference => exact absurd rfl (hnot .languagePreference)
    | preferredTeachingStyle => exact absurd rfl (hnot .preferredTeachingStyle)
    | exam | learningGoal | tutorGenderPreference | mode => exact Tracked.fold_none_left
    | additionalSubject s | topic s | weakTopic s => simp [SameField, MatchRequirement.mergedWith,
        MatchRequirement.mem_joined]
    | parentRef | studentRef | leadId | explicitTutorRef | location | preferredSchedule
    | sessionsPerWeek | sessionMinutes | startBy | budget | capturedAt => exact if_pos hf
    | timezone => exact if_pos (of_decide_eq_true hf)
    | urgency =>
      have hpos : q.urgency.rank ≠ 0 := of_decide_eq_true hf
      exact if_pos (Nat.pos_of_ne_zero hpos)
    | demoRequested => exact Bool.false_or _
    | turnCount => exact Nat.zero_max _

/-- The overlay changes nothing that is set, exactly if that is trusted more than what is recalled
about it. -/
theorem Extraction.unchanged_iff : m.Unchanged ↔
    ∀ k v, m.told k = some v → (m.memory k).isSome = true → v.trusted := by
  have hfield : ∀ k v, m.told k = some v →
      (SameField m.incoming (applyMemory m.incoming m.recalled m.now) k.field ↔
        ((m.memory k).isSome = true → v.trusted)) := by
    intro k v hv
    have hincoming : m.incoming.recallable k = some v := hv
    rw [sameField_recallable, recallable_applyMemory, hincoming]
    exact NxTutors.MatchAgent.unchanged_iff (fun _ => provenance_remembered) (m.said k v hv)
  constructor
  · intro h k v hv
    refine (hfield k v hv).mp (h k.field ?_)
    have hincoming : m.incoming.recallable k = some v := hv
    rw [captures_recallable, hincoming]
    rfl
  · intro h f hf
    by_cases hk : ∃ k : Recallable, f = k.field
    · obtain ⟨k, rfl⟩ := hk
      rw [captures_recallable] at hf
      obtain ⟨v, hv⟩ := Option.isSome_iff_exists.mp hf
      exact (hfield k v hv).mpr (h k v hv)
    · exact sameField_applyMemory hf fun k heq => hk ⟨k, heq⟩

/-- What is stored after one more message. -/
theorem value_collect {k : Recallable} : (c.collect m).value k =
    Tracked.fold (c.value k) (Tracked.fold (m.memory k) (m.told k)) := by
  change (TurnService.merge c.stored _).recallable k = _
  rw [recallable_merge, recallable_applyMemory]
  rfl

/-- What has been said is what is stored and was not recalled. -/
def Collected.Known (c : Collected) : Prop :=
  ∀ k, c.established k = true ↔ ∃ w, c.value k = some w ∧ w.provenance ≠ .memory

theorem gapsOnly_iff_outranked (hknown : c.Known) : GapsOnly c m ↔ Outranked c m := by
  have hown : ∀ k, (∀ v, m.told k = some v → (m.memory k).isSome = true → v.trusted) →
      (((c.collect m).established k = true →
          ∃ v, (c.collect m).value k = some v ∧ v.provenance ≠ .memory) ↔
        if (m.memory k).isSome then
          m.told k = none → ∀ w, c.value k = some w → w.provenance = .memory ∨ w.trusted
        else ∀ v, m.told k = some v →
          v.trusted ∨ ∀ w, c.value k = some w → w.provenance ≠ .memory) := by
    intro k hunchanged
    have hestablished : (c.collect m).established k = true ↔
        (∃ w, c.value k = some w ∧ w.provenance ≠ .memory) ∨ (m.told k).isSome = true := by
      rw [← hknown k, ← Bool.or_eq_true]
      exact Iff.rfl
    rw [hestablished, value_collect]
    exact own_iff (fun _ => provenance_remembered) (m.said k) hunchanged
  constructor
  · rintro ⟨hunchanged, hafter⟩ k
    have htrusted := Extraction.unchanged_iff.mp hunchanged k
    have hfield := (hown k htrusted).mp (hafter k)
    split
    · rename_i hmemory
      rw [if_pos hmemory] at hfield
      exact ⟨fun v hv => htrusted v hv hmemory, hfield⟩
    · rename_i hmemory
      rwa [if_neg hmemory] at hfield
  · intro h
    have htrusted : ∀ k v, m.told k = some v → (m.memory k).isSome = true → v.trusted := by
      intro k v hv hmemory
      have hk := h k
      rw [if_pos hmemory] at hk
      exact hk.1 v hv
    refine ⟨Extraction.unchanged_iff.mpr htrusted, fun k => (hown k (htrusted k)).mpr ?_⟩
    have hk := h k
    split
    · rename_i hmemory
      rw [if_pos hmemory] at hk
      exact hk.2
    · rename_i hmemory
      rwa [if_neg hmemory] at hk

theorem known_collect (hknown : c.Known) (h : GapsOnly c m) : (c.collect m).Known := by
  intro k
  refine ⟨h.2 k, ?_⟩
  rintro ⟨w, hw, hown⟩
  have hestablished : (c.collect m).established k = (c.established k || (m.told k).isSome) := rfl
  rw [hestablished]
  rw [value_collect] at hw
  rcases @Tracked.fold_eq_or _ (c.value k) (Tracked.fold (m.memory k) (m.told k)) with heq | heq
  · rw [heq] at hw
    rw [(hknown k).mpr ⟨w, hw, hown⟩, Bool.true_or]
  · rw [heq] at hw
    rcases @Tracked.fold_eq_or _ (m.memory k) (m.told k) with heq | heq
    · rw [heq] at hw
      exact absurd (provenance_remembered hw) hown
    · rw [heq] at hw
      rw [hw, Option.isSome_some, Bool.or_true]

end Conversation

/-- **When memory fills gaps only**: in every conversation, exactly if each of its messages outranks
what is recalled beside it and what had been recalled before. -/
theorem gaps_only_iff (messages : List Extraction) :
    Along Collected.collect GapsOnly {} messages ↔ Along Collected.collect Outranked {} messages := by
  refine Along.iff_of_invariant (I := Collected.Known) (fun k => ?_)
    (fun _ _ hknown => gapsOnly_iff_outranked hknown) fun _ _ hknown h => known_collect hknown h
  exact iff_of_false (fun h => nomatch h) (fun ⟨_, hw, _⟩ => nomatch hw)

/-! ### A guess that is overwritten -/

/-- A model has read "ICSE" off the message, and "CBSE" is remembered. -/
def guessesIcse : Extraction where
  incoming := { conversationId := "wa:1",
                board := some { value := "ICSE", confidence := 9 / 10, provenance := .llm } }
  recalled := [("board", "CBSE")]
  now := 0
  said k v hv := by
    cases k with
    | board =>
      cases hv
      decide
    | _ => cases hv

/-- **A memory replaces what was said.** -/
theorem guess_overwritten : ¬ ∀ messages : List Extraction,
    Along Collected.collect GapsOnly {} messages := by
  intro hall
  have hboard : (applyMemory guessesIcse.incoming guessesIcse.recalled 0).board =
      guessesIcse.incoming.board := (hall [guessesIcse]).1.1 .board rfl
  exact absurd hboard (by decide)

end NxTutors.MatchAgent
