import NxTutors.DemoAgent.World
import NxTutors.Effect.Path
import NxTutors.Effect.Pool

/-!
# The audit log is a lawful path

Decisions are taken on snapshots that other writers may have made stale. What saves the audit
log is the optimistic lock: a snapshot names the length of the log it was read with, and a
write is refused when the log has grown since.

The abstract system is the transition table read as a labelled graph, `Lawful`. The invariant
`Logged` says that the log of a conversation is a path of that graph, numbered from one, that
leads to the stored state. A snapshot is `Known` when the log it was read with is a prefix of
the log as it is now; that stays true whatever others append, and it is all a decision needs.
-/

namespace NxTutors.DemoAgent

open Effect

/-! ## The graph, and the invariant -/

/-- An audit row is a move of the table, from `s` to `s'`. -/
structure Lawful (s : DemoState) (entry : HistoryEntry) (s' : DemoState) : Prop where
  source : entry.fromState = s
  target : entry.toState = s'
  row : ∃ row ∈ TRANSITIONS, s ∈ row.sources ∧ row.trigger = entry.trigger ∧
    entry.actor ∈ row.actors ∧ row.target = s'

/-- The log of one conversation is a numbered path to the stored state. -/
structure Logged (c : InMemoryConversations) (ref : String) : Prop where
  path : Path Lawful .new (c.history ref) (c.load ref).state
  version : (c.load ref).version = (c.history ref).length
  versions : (c.history ref).map HistoryEntry.version =
    List.range' 1 (c.history ref).length
  sameRef : (c.load ref).conversationRef = ref

/-- The logs of one store are continued by those of another. -/
def Grows (c c' : InMemoryConversations) : Prop := ∀ ref, c.history ref <+: c'.history ref

theorem Grows.refl (c : InMemoryConversations) : Grows c c := fun _ => List.prefix_refl _

theorem Grows.trans {a b c : InMemoryConversations} (h : Grows a b) (h' : Grows b c) :
    Grows a c := fun ref => (h ref).trans (h' ref)

/-- A snapshot that was the stored one at some time: the log it was read with is a beginning
of the log now. -/
structure Known (c : InMemoryConversations) (ref : String) (s : StateSnapshot) : Prop where
  sameRef : s.conversationRef = ref
  le : s.version ≤ (c.history ref).length
  path : Path Lawful .new ((c.history ref).take s.version) s.state

/-- What was known stays known. -/
theorem Known.mono {c c' : InMemoryConversations} {ref : String} {s : StateSnapshot}
    (h : Known c ref s) (hg : Grows c c') : Known c' ref s where
  sameRef := h.sameRef
  le := h.le.trans (hg ref).length_le
  path := by
    obtain ⟨more, hmore⟩ := hg ref
    rw [← hmore, List.take_append_of_le_length h.le]
    exact h.path

/-- The stored snapshot is known. -/
theorem Logged.known {c : InMemoryConversations} {ref : String} (h : Logged c ref) :
    Known c ref (c.load ref) where
  sameRef := h.sameRef
  le := h.version.le
  path := by rw [h.version, List.take_length]; exact h.path

/-- A conversation nobody wrote to is new. -/
theorem logged_empty (ref : String) : Logged {} ref := ⟨.nil, rfl, rfl, rfl⟩

/-- Only states and logs matter. -/
theorem Logged.congr {c c' : InMemoryConversations} {ref : String} (h : Logged c ref)
    (hs : c'.states = c.states) (hh : c'.history = c.history) : Logged c' ref := by
  have hload : c'.load ref = c.load ref := by
    rw [InMemoryConversations.load, InMemoryConversations.load, hs]
  exact ⟨by rw [hh, hload]; exact h.path, by rw [hh, hload]; exact h.version,
    by rw [hh]; exact h.versions, by rw [hload]; exact h.sameRef⟩

/-! ## One write -/

section Write

variable {c : InMemoryConversations} {s : StateSnapshot} {result : TransitionResult}
  {now : Time} {facts : Facts}

theorem load_write_self (c : InMemoryConversations) (result : TransitionResult) (now : Time)
    (facts : Facts) : (c.write result now facts).load result.conversationRef =
      InMemoryConversations.updated (c.load result.conversationRef) result now facts := by
  simp [InMemoryConversations.load, InMemoryConversations.write]

theorem load_write_of_ne {ref : String} (h : ref ≠ result.conversationRef) :
    (c.write result now facts).load ref = c.load ref := by
  simp [InMemoryConversations.load, InMemoryConversations.write, Function.update_of_ne h]

theorem history_write_self (c : InMemoryConversations) (result : TransitionResult)
    (now : Time) (facts : Facts) : (c.write result now facts).history result.conversationRef =
      c.history result.conversationRef ++
        [result.entry ((c.load result.conversationRef).version + 1) now] := by
  simp [InMemoryConversations.write, InMemoryConversations.updated]

theorem history_write_of_ne {ref : String} (h : ref ≠ result.conversationRef) :
    (c.write result now facts).history ref = c.history ref := by
  simp [InMemoryConversations.write, Function.update_of_ne h]

theorem grows_write : Grows c (c.write result now facts) := by
  intro ref
  by_cases h : ref = result.conversationRef
  · subst h
    rw [history_write_self]
    exact List.prefix_append _ _
  · rw [history_write_of_ne h]

/-- **The write step.** A move granted on a known snapshot, written at the version it was
decided on, continues the path. -/
theorem Logged.write {ref : String} {trigger : Trigger} {actor : Actor} {decided : Facts}
    (hlog : ∀ ref, Logged c ref) (hs : Known c ref s)
    (hfire : fire s trigger actor decided = .ok result)
    (hversion : (c.load ref).version = result.expectedVersion) :
    ∀ ref', Logged (c.write result now facts) ref' := by
  obtain ⟨row, hrow, hsrc, htrig, hactor, rfl⟩ := fire_lawful hfire
  have href : (row.result s trigger actor).conversationRef = ref := hs.sameRef
  -- the version matches, so the log is the one the snapshot was read with
  have hstate : Path Lawful .new (c.history ref) s.state := by
    have hfull : (c.history ref).take s.version = c.history ref :=
      List.take_of_length_le (by rw [← (hlog ref).version, hversion]; exact le_refl _)
    rw [← hfull]
    exact hs.path
  intro ref'
  by_cases h : ref' = ref
  · subst h
    have hold := hlog ref'
    have hload := load_write_self c (row.result s trigger actor) now facts
    have hhist := history_write_self c (row.result s trigger actor) now facts
    rw [href] at hload hhist
    refine ⟨?_, ?_, ?_, ?_⟩
    · rw [hload, hhist]
      exact .snoc hstate ⟨rfl, rfl, row, hrow, hsrc, htrig, hactor, rfl⟩
    · rw [hload, hhist, List.length_append, ← hold.version]
      rfl
    · rw [hhist, List.map_append, List.length_append, hold.versions, hold.version,
        List.length_singleton, List.range'_1_concat]
      simp [TransitionResult.entry, Nat.add_comm]
    · rw [hload]
      exact href
  · have hne : ref' ≠ (row.result s trigger actor).conversationRef := by rwa [href]
    have hold := hlog ref'
    refine ⟨?_, ?_, ?_, ?_⟩
    · rw [load_write_of_ne hne, history_write_of_ne hne]; exact hold.path
    · rw [load_write_of_ne hne, history_write_of_ne hne]; exact hold.version
    · rw [history_write_of_ne hne]; exact hold.versions
    · rw [load_write_of_ne hne]; exact hold.sameRef

end Write

/-! ## One event among others -/

/-- What one turn does to the others, and they to it: logs are continued, lawfully. -/
structure Continues (w w' : World InMemoryConversations) : Prop where
  logged : ∀ ref, Logged w'.conversations ref
  grows : Grows w.conversations w'.conversations

/-- What a phase of a turn knows of the log. -/
def Phase.knows (ref : String) (c : InMemoryConversations) : Phase → Prop
  | .decided _ s => Known c ref s
  | .following _ _ s => Known c ref s
  | _ => True

theorem Phase.knows_mono {ref : String} {c c' : InMemoryConversations} {ph : Phase}
    (h : ph.knows ref c) (hg : Grows c c') : ph.knows ref c' := by
  cases ph with
  | decided n s => exact Known.mono h hg
  | following n result s => exact Known.mono h hg
  | _ => trivial

theorem Calm.grows {w w' : World InMemoryConversations} (h : Calm w w') :
    Grows w.conversations w'.conversations := fun ref => by
  rw [h.history]

theorem Calm.continues {w w' : World InMemoryConversations} (h : Calm w w')
    (hlog : ∀ ref, Logged w.conversations ref) : Continues w w' :=
  ⟨fun ref => (hlog ref).congr h.states h.history, h.grows⟩

/-- A save of a granted move continues the log, or changes nothing. -/
theorem Answers.save_continues {w w' : World InMemoryConversations} {ref : String}
    {s : StateSnapshot} {trigger : Trigger} {actor : Actor} {decided facts : Facts}
    {result : TransitionResult} {now : Time} {r : Except Exn StateSnapshot}
    (h : Answers (.saveTransition result now facts) w r w')
    (hlog : ∀ ref, Logged w.conversations ref) (hs : Known w.conversations ref s)
    (hfire : fire s trigger actor decided = .ok result) : Continues w w' := by
  have href : result.conversationRef = ref := by
    obtain ⟨row, _, _, _, _, rfl⟩ := fire_lawful hfire
    exact hs.sameRef
  rcases h.of_save with ⟨rfl, _, _⟩ | ⟨hv, rfl, _⟩
  · exact ⟨hlog, Grows.refl _⟩
  · rw [href] at hv
    exact ⟨Logged.write hlog hs hfire hv, grows_write⟩

/-- **The invariant of a turn.** All logs are lawful, and what a decision was taken on is
known. -/
def logTurn (cfg : Config) (e : Event) :
    TurnInvariant ⟨Answers, Continues⟩ Continues (fun _ _ => True) cfg e where
  holds ph w := (∀ ref, Logged w.conversations ref) ∧ ph.knows e.conversationRef w.conversations
  move ph a b h hm := ⟨hm.logged, Phase.knows_mono h.2 hm.grows⟩
  quiet ph o a r b hq h ha :=
    have hcalm := Answers.calm hq ha
    have hcont := hcalm.continues h.1
    ⟨hcont, ⟨hcont.logged, Phase.knows_mono h.2 hcont.grows⟩, ha.final hq⟩
  clock a r b h ha := by
    have hcont := (Answers.calm (o := .now) rfl ha).continues h.1
    refine ⟨hcont, ?_⟩
    cases r with
    | ok now => exact ⟨hcont.logged, trivial⟩
    | error exn => trivial
  claim now a r b h ha := by
    have hcont : Continues a b := by
      have hconv : b.conversations = a.conversations := by
        rcases ha.of_claim with ⟨_, rfl, _⟩ | ⟨_, _, ⟨rfl, _⟩ | rfl⟩
        · rfl
        · rfl
        · rfl
      exact ⟨fun ref => hconv ▸ h.1 ref, hconv ▸ Grows.refl _⟩
    refine ⟨hcont, ?_⟩
    rcases r with exn | taken
    · trivial
    · cases taken <;> exact ⟨hcont.logged, trivial⟩
  load n a r b h ha := by
    obtain ⟨rfl, rfl | ⟨name, rfl⟩⟩ := ha.of_load
    · exact ⟨⟨h.1, Grows.refl _⟩, h.1, (h.1 _).known⟩
    · exact ⟨⟨h.1, Grows.refl _⟩, trivial, trivial⟩
  save n s now facts result a r b h hfire ha := by
    have hcont := ha.save_continues h.1 h.2 hfire
    refine ⟨hcont, ?_⟩
    rcases r with exn | s'
    · cases exn with
      | conflict c => exact ⟨hcont.logged, trivial⟩
      | _ => trivial
    · exact ⟨hcont.logged, trivial⟩
  execute n result ctx payload a r b h hcmd ha :=
    have hcont := ha.calm_execute.continues h.1
    ⟨hcont, ⟨hcont.logged, trivial⟩, ⟨hcont.logged, trivial⟩⟩
  send result m a r b h hm ha :=
    have hneutral := ha.neutral rfl
    have hcont := hneutral.1.calm.continues h.1
    ⟨hcont, ⟨hcont.logged, trivial⟩, hneutral.2⟩
  noCommand n result a hnone h := ⟨h.1, trivial⟩
  compensate n result ctx payload a r b h hcomp ha :=
    have hcont := ha.calm_execute.continues h.1
    ⟨hcont, hcont.logged, trivial⟩
  loadFollow n result a r b h ha := by
    obtain ⟨rfl, rfl | ⟨name, rfl⟩⟩ := ha.of_load
    · exact ⟨⟨h.1, Grows.refl _⟩, h.1, (h.1 _).known⟩
    · exact ⟨⟨h.1, Grows.refl _⟩, trivial, trivial⟩
  skipFollow n result s facts a refusal h hfire := ⟨h.1, trivial⟩
  saveFollow n result s now facts follow a r b h hfire ha := by
    have hcont := ha.save_continues h.1 h.2 hfire
    refine ⟨hcont, ?_⟩
    rcases r with exn | s'
    · cases exn with
      | conflict c => exact ⟨hcont.logged, trivial⟩
      | _ => trivial
    · exact ⟨hcont.logged, trivial⟩
  lastLoad ph a r b hph h ha := by
    obtain ⟨rfl, _⟩ := ha.of_load
    exact ⟨⟨h.1, Grows.refl _⟩, h, fun _ _ => trivial⟩
  raised _ _ _ _ _ := trivial
  accepted _ _ _ _ _ _ := trivial
  rejected _ _ _ _ _ _ _ _ _ _ _ := trivial
  exhausted _ _ _ _ _ := trivial
  duplicate _ _ _ _ _ := trivial

/-! ## Every interleaving -/

/-- Any number of events, handled at once over the in-memory stores; in between, anything
neutral may happen. Each call of `handle` has a number and its event for a name. -/
def handling (cfg : Config) :
    Arena ports Exn TurnResult (World InMemoryConversations) (Nat × Event) where
  answers _ := Answers
  enters t p _ := p = handle cfg t.2
  outside := Neutral

/-- The events agree about the log. -/
theorem handling_agree (cfg : Config) :
    Pool.Agree (handling cfg) (fun _ => ⟨Answers, Continues⟩) (fun _ => Continues)
      (fun _ _ _ => True) (fun w => ∀ ref, Logged w.conversations ref) where
  answers _ := rfl
  enters t _ _ h hp := hp ▸ (logTurn cfg t.2).handle ⟨h, trivial⟩
  step _ _ _ _ _ hg := ⟨hg.logged, hg⟩
  outside _ _ h hn := (hn.calm.continues h).logged
  outside_moves _ _ _ h hn := hn.calm.continues h
  refl _ _ h := ⟨h, Grows.refl _⟩
  trans _ _ _ _ h h' := ⟨h'.logged, h.grows.trans h'.grows⟩
  stable _ _ _ _ _ _ := trivial

/-- **The audit log is a lawful path.** However calls of `handle` interleave over a fresh
store, the history of a conversation is numbered 1, 2, …, begins in `NEW`, each entry begins
where the one before it ended and is a row of the table by one of its actors, no entry leaves
a terminal state, and the stored snapshot is where the last entry led. -/
theorem audit_log_lawful (cfg : Config) (w₀ : World InMemoryConversations)
    (hfresh : w₀.conversations = {})
    (pool : Pool ports Exn TurnResult (World InMemoryConversations) (Nat × Event))
    (hreach : Pool.Reach (handling cfg) (Pool.start w₀) pool) (ref : String) :
    let c := pool.world.conversations
    let log := c.history ref
    log.map HistoryEntry.version = List.range' 1 log.length ∧
    (∀ entry, log.head? = some entry → entry.fromState = .new) ∧
    log.IsChain (fun entry next => next.fromState = entry.toState) ∧
    (∀ entry ∈ log, ∃ row ∈ TRANSITIONS, entry.fromState ∈ row.sources ∧
      row.trigger = entry.trigger ∧ entry.actor ∈ row.actors ∧ row.target = entry.toState) ∧
    (∀ entry ∈ log, isTerminal entry.fromState = false) ∧
    (c.load ref).version = log.length ∧
    (c.load ref).state = ((log.getLast?.map HistoryEntry.toState).getD .new) := by
  have hsound := Pool.Reach.inv (handling_agree cfg)
    (fun ref => hfresh ▸ logged_empty ref) hreach
  obtain ⟨hpath, hversion, hversions, _⟩ := hsound.inv ref
  have hsrc : ∀ a l b, Lawful a l b → l.fromState = a := fun _ _ _ h => h.source
  have hdst : ∀ a l b, Lawful a l b → l.toState = b := fun _ _ _ h => h.target
  have hrow : ∀ entry ∈ pool.world.conversations.history ref, ∃ row ∈ TRANSITIONS,
      entry.fromState ∈ row.sources ∧ row.trigger = entry.trigger ∧
      entry.actor ∈ row.actors ∧ row.target = entry.toState := by
    intro entry hentry
    obtain ⟨a, b, rfl, rfl, hrow⟩ := hpath.mem hentry
    exact hrow
  refine ⟨hversions, fun entry h => hpath.head_src hsrc h, hpath.chain hsrc hdst, hrow, ?_,
    hversion, (hpath.replay_eq hdst).symm⟩
  intro entry hentry
  obtain ⟨row, hmem, hs, _⟩ := hrow entry hentry
  exact source_not_terminal hmem hs

/-! ## Two events, one after the other -/

/-- Handled undisturbed, an event leaves an idle pool idle. -/
theorem smoothly_reach (n : Nat) (e : Event) (w : World InMemoryConversations)
    (fin : List ((Nat × Event) × Except Exn TurnResult)) (hfresh : (n, e) ∉ fin.map Prod.fst) :
    ∃ out, Pool.Reach (handling plainConfig) ⟨w, [], fin⟩
      ⟨smoothly e w, [], fin ++ [((n, e), out)]⟩ :=
  ⟨_, Pool.Reach.enter_run rfl hfresh (run_smooth (handle plainConfig e) w)
    (fun _ _ h => h) rfl⟩

/-- The store after both. -/
def handedOver : World InMemoryConversations :=
  smoothly acquired (smoothly handoff { conversations := {} })

theorem handedOver_log_lawful :
    let c := handedOver.conversations
    (c.history "c").length = 2 ∧
    (c.history "c").map HistoryEntry.version = List.range' 1 (c.history "c").length ∧
    (c.load "c").version = (c.history "c").length := by
  obtain ⟨out, h₁⟩ := smoothly_reach 0 handoff { conversations := {} } [] (by simp)
  obtain ⟨_, h₂⟩ := smoothly_reach 1 acquired (smoothly handoff { conversations := {} })
    [((0, handoff), out)] (by simp)
  obtain ⟨hversions, _, _, _, _, hversion, _⟩ :=
    audit_log_lawful plainConfig { conversations := {} } rfl _ (h₁.trans h₂) "c"
  exact ⟨by decide, hversions, hversion⟩

end NxTutors.DemoAgent
