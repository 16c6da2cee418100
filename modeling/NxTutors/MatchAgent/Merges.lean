import NxTutors.MatchAgent.Evaluation
import NxTutors.Effect.Answering

/-!
# Requirements of turns that interleave

A conversation is saved under a version check, its requirement is not: a turn loads it, merges into
it what the message says, and saves it over whatever is stored by then. So of two turns that have
loaded the same requirement the one that saves last undoes the other, and when its state is then
refused and the message comes again, what the other has heard is not there any more.

Nothing is lost while nobody else saves between a turn's load and its save (`kept_together`).
-/

namespace NxTutors.MatchAgent

open Effect Prog TurnService

/-! ## What a turn says -/

/-- The call saves a requirement. -/
def savesRequirement : Call ports Fault → Bool
  | ⟨.saveRequirement _, _⟩ => true
  | _ => false

/-- No requirement has been saved yet. -/
def Unmerged (h : History ports Fault) : Prop := ∀ c ∈ h, savesRequirement c = false

def clock? : Call ports Fault → Option Time
  | ⟨.now, .ok t⟩ => some t
  | _ => none

def extracted? : Call ports Fault → Option MatchRequirement
  | ⟨.extract _ _ _, .ok x⟩ => some x.1
  | _ => none

def recalled? : Call ports Fault → Option (List (String × String))
  | ⟨.recall _ _, .ok (x : Option (List (String × String)))⟩ => some (x.getD [])
  | _ => none

/-- What the message of an envelope says in a turn with these calls, over what is remembered. -/
def saidIn (e : InboundEnvelope) (h : History ports Fault) : MatchRequirement :=
  let now := (latest clock? h).getD 0
  match e.enrichment with
  | some enrichment => applyMemory enrichment.requirement enrichment.memoryFacts now
  | none =>
    applyMemory ((latest extracted? h).getD { conversationId := e.conversationId })
      ((latest recalled? h).getD []) now

/-- The turn that ended so has merged what the message says. -/
def InboundEnvelope.mergedBy (e : InboundEnvelope) (r : TurnResult) : Bool :=
  !e.isSelection && r.served && r.askedFor ≠ some "tutor_lookup"

/-- The calls that have nothing to do with requirements. -/
def Op.quiet : Op → Bool
  | .now => false
  | .extract _ _ _ => false
  | .recall _ _ => false
  | .loadRequirement _ => false
  | .saveRequirement _ => false
  | _ => true

/-- What a turn may call after which calls: it says all that it says before it saves, and it saves
that, merged into what it has loaded. -/
def Allows (e : InboundEnvelope) (h : History ports Fault) : Op → Prop
  | .now => Unmerged h
  | .recall _ _ => Unmerged h
  | .extract _ conversationId _ => Unmerged h ∧ conversationId = e.conversationId
  | .loadRequirement conversationId => conversationId = e.conversationId
  | .saveRequirement q => Unmerged h ∧ ∃ stored,
      (⟨.loadRequirement e.conversationId, .ok stored⟩ : Call ports Fault) ∈ h ∧
        q = merge stored (saidIn e h)
  | _ => True

section Said

variable {s : Service} {e : InboundEnvelope} {h rest : History ports Fault} {α : Type}

theorem allows_quiet {o : Op} (ho : o.quiet = true) : Allows e h o := by
  cases o <;> trivial

theorem quiet_reads {c : Call ports Fault} (hc : Op.quiet c.1 = true) :
    clock? c = none ∧ extracted? c = none ∧ recalled? c = none ∧ savesRequirement c = false := by
  obtain ⟨o, r⟩ := c
  cases o <;> first | exact ⟨rfl, rfl, rfl, rfl⟩ | cases hc

theorem unmerged_append (hh : Unmerged h) (hrest : ∀ c ∈ rest, savesRequirement c = false) :
    Unmerged (h ++ rest) := by
  intro c hc
  rcases List.mem_append.mp hc with hc | hc
  · exact hh c hc
  · exact hrest c hc

/-- Quiet calls, and saves, say nothing. -/
theorem saidIn_append (hrest : ∀ c ∈ rest, clock? c = none ∧ extracted? c = none ∧
    recalled? c = none) : saidIn e (h ++ rest) = saidIn e h := by
  unfold saidIn
  rw [latest_append_none fun c hc => (hrest c hc).1,
    latest_append_none fun c hc => (hrest c hc).2.1,
    latest_append_none fun c hc => (hrest c hc).2.2]

/-- What comes after a requirement has been saved is quiet. -/
theorem calls_answered {s : Service} {P : Op → Prop} {expected : Nat}
    {snapshot : ConversationSnapshot} {now : Time} {q : MatchRequirement} {degraded : List String}
    (hP : ∀ o : Op, o.quiet = true → P o) :
    Calls P (fun _ => True)
      (if (q.assess s.domain).readyToMatch then shortlist s e expected snapshot now q degraded
      else clarify s e expected snapshot now (q.assess s.domain) degraded) := by
  split
  · unfold shortlist
    refine calls_call_bind (hP _ rfl) fun run => calls_call_bind (hP _ rfl) fun _ => ?_
    exact calls_call_bind (hP _ rfl) fun _ =>
      calls_replied (fun _ => hP _ rfl) (fun _ => hP _ rfl) fun _ => trivial
  · unfold clarify
    exact calls_call_bind (hP _ rfl) fun _ =>
      calls_replied (fun _ => hP _ rfl) (fun _ => hP _ rfl) fun _ => trivial

/-- A part of a turn that is quiet. -/
theorem guardedTo_quiet {p : Turn α} {R : α → Prop} (hp : Calls (fun o => o.quiet = true) R p) :
    p.GuardedTo (S := ports) (Allows e)
      (fun a h' => R a ∧ ∃ rest, h' = h ++ rest ∧ ∀ c ∈ rest, Op.quiet c.1 = true) h :=
  hp.guardedTo_rest fun _ _ ho => allows_quiet ho

/-- What is known of a turn before it loads a requirement. -/
structure Reading (now : Time) (h : History ports Fault) : Prop where
  unsaved : Unmerged h
  clock : latest clock? h = some now

theorem Reading.quiet {now : Time} (hh : Reading now h)
    (hrest : ∀ c ∈ rest, Op.quiet c.1 = true) : Reading now (h ++ rest) where
  unsaved := unmerged_append hh.unsaved fun c hc => (quiet_reads (hrest c hc)).2.2.2
  clock := (latest_append_none fun c hc => (quiet_reads (hrest c hc)).1).trans hh.clock

/-- A requirement has been saved. -/
def RequirementSaved (h : History ports Fault) : Prop :=
  ∃ q, (⟨.saveRequirement q, .ok ()⟩ : Call ports Fault) ∈ h

/-- A turn ends so, and has saved a requirement if it has merged one. -/
abbrev Ends (e : InboundEnvelope) (p : Turn TurnResult) (h : History ports Fault) :
    Prop :=
  p.GuardedTo (S := ports) (Allows e) (fun r h' => e.mergedBy r = true → RequirementSaved h') h

theorem not_merged {r : TurnResult} (hr : r.served = false) : e.mergedBy r = false := by
  rw [InboundEnvelope.mergedBy, hr, Bool.and_false, Bool.false_and]

/-- A turn that only makes quiet calls and merges nothing. -/
theorem ends_quiet {p : Turn TurnResult}
    (hp : Calls (fun o => o.quiet = true) (fun r => e.mergedBy r = false) p) : Ends e p h := by
  refine (guardedTo_quiet hp).mono fun r h' hr hmerged => ?_
  rw [hr.1] at hmerged
  cases hmerged

theorem guardedTo_resolve {now : Time} (hh : Reading now h) :
    (resolve s e now).GuardedTo (S := ports) (Allows e)
      (fun x h' => Unmerged h' ∧ saidIn e h' = applyMemory x.1 x.2.1 now) h := by
  unfold resolve
  cases henrichment : e.enrichment with
  | some enrichment =>
    dsimp only
    split
    · refine ⟨hh.unsaved, ?_⟩
      simp only [saidIn, henrichment, hh.clock, Option.getD_some]
    · trivial
  | none =>
    have hnone : ∀ {o : Op} {r : Except Fault o.Res}, o.quiet = false →
        savesRequirement ⟨o, r⟩ = false → Unmerged (h ++ [⟨o, r⟩]) := by
      intro o r _ hsaves
      exact unmerged_append hh.unsaved fun c hc => by rwa [List.mem_singleton.mp hc]
    refine guardedTo_perform_bind (S := ports) ⟨hh.unsaved, rfl⟩ fun x => ?_
    refine guardedTo_perform_bind (S := ports) (hnone rfl rfl) fun y => ⟨?_, ?_⟩
    · exact unmerged_append (hnone rfl rfl) fun c hc => by rw [List.mem_singleton.mp hc]; rfl
    · have hclock : latest clock? (h ++ [⟨.extract e.payload e.conversationId now, .ok x⟩] ++
          [⟨.recall (s.conversationHash e.conversationId) e.traceId, .ok y⟩]) = some now := by
        rw [latest_concat_none rfl, latest_concat_none rfl, hh.clock]
      simp only [saidIn, henrichment, hclock]
      rw [latest_concat_none (f := extracted?) rfl, latest_concat_some (f := extracted?) rfl,
        latest_concat_some (f := recalled?) rfl]
      rfl

theorem ends_serve {expected : Nat} {snapshot : ConversationSnapshot} {now : Time}
    (hh : Reading now h) : Ends e (serve s e expected snapshot now) h := by
  unfold serve
  refine (guardedTo_resolve hh).bind fun x h₁ hx => ?_
  obtain ⟨hunsaved, hsaid⟩ := hx
  refine guardedTo_perform_bind (S := ports) rfl fun stored => ?_
  refine guardedTo_perform_bind (S := ports) ⟨?_, stored, by simp, ?_⟩ fun _ => ?_
  · exact unmerged_append hunsaved fun c hc => by rw [List.mem_singleton.mp hc]; rfl
  · rw [saidIn_append fun c hc => by rw [List.mem_singleton.mp hc]; exact ⟨rfl, rfl, rfl⟩, hsaid]
  · refine (guardedTo_quiet (calls_answered fun _ ho => ho)).mono fun r h' hr _ => ?_
    obtain ⟨-, rest, rfl, -⟩ := hr
    exact ⟨merge stored (applyMemory x.1 x.2.1 now),
      List.mem_append_left _ (List.mem_append_right _ (.head _))⟩

theorem ends_handleMessage {loaded : ConversationSnapshot} {now : Time} (hh : Reading now h) :
    Ends e (handleMessage s e loaded now) h := by
  unfold handleMessage
  refine (guardedTo_quiet (calls_assessAbuse fun _ _ => rfl)).bind fun assessment h₁ hx => ?_
  obtain ⟨-, rest, rfl, hrest⟩ := hx
  split
  · exact ends_quiet (calls_call_bind rfl fun _ => not_merged rfl)
  · refine (guardedTo_quiet (calls_answerTutorLookup fun _ => rfl)).bind fun lookup h₂ hy => ?_
    obtain ⟨-, rest', rfl, hrest'⟩ := hy
    cases lookup with
    | some reply =>
      refine ends_quiet (calls_call_bind rfl fun _ => ?_)
      refine (calls_enqueueReply (P := fun o => o.quiet = true) fun _ => rfl).bind fun _ _ => ?_
      simp [Within, InboundEnvelope.mergedBy]
    | none => exact ends_serve ((hh.quiet hrest).quiet hrest')

theorem ends_handleSelection {loaded : ConversationSnapshot} {now : Time} (hh : Reading now h)
    (he : e.isSelection = true) : Ends e (handleSelection s e loaded) h := by
  have hnone : ∀ r, e.mergedBy r = false := fun r => by simp [InboundEnvelope.mergedBy, he]
  unfold handleSelection
  refine guardedTo_perform_bind (S := ports) hh.unsaved fun t => ?_
  refine ends_quiet ?_
  dsimp only
  split
  · refine calls_call_bind rfl fun _ => ?_
    refine (calls_recordDeed (P := fun o => o.quiet = true) fun _ => rfl).bind fun _ _ => ?_
    exact (calls_enqueueReply (P := fun o => o.quiet = true) fun _ => rfl).bind fun _ _ => hnone _
  · exact hnone _

theorem ends_process (hh : Unmerged h) : Ends e (process s e) h := by
  unfold process
  refine guardedTo_perform_bind (S := ports) hh fun now => ?_
  have hnow : Reading now (h ++ [⟨.now, .ok now⟩]) :=
    ⟨unmerged_append hh fun c hc => by rw [List.mem_singleton.mp hc]; rfl, latest_concat_some rfl⟩
  refine guardedTo_perform_bind (S := ports) trivial fun loaded => ?_
  have hloading : ∀ c ∈ ([⟨.loadState e.conversationId, .ok loaded⟩] : History ports Fault),
      Op.quiet c.1 = true := fun c hc => by rw [List.mem_singleton.mp hc]; rfl
  have hread := hnow.quiet hloading
  cases hpayload : e.payload with
  | parentSelection selection =>
    exact ends_handleSelection hread (by rw [InboundEnvelope.isSelection, hpayload])
  | leadEvent event => exact ends_handleMessage hread
  | whatsappTurn turn => exact ends_handleMessage hread

/-- **What a turn does**: it saves what it says, merged into what it has loaded, and ends without
that only if it merges nothing. -/
theorem ends_handle : Ends e (handle s e) [] := by
  unfold handle
  refine (guardedTo_quiet (calls_paused rfl)).bind fun stopped h₁ hx => ?_
  obtain ⟨-, _, rfl, hrest⟩ := hx
  have hunsaved : Unmerged h₁ := fun c hc => (quiet_reads (hrest c hc)).2.2.2
  split
  · exact ends_quiet (calls_call_bind rfl fun _ => not_merged rfl)
  · refine guardedTo_perform_bind (S := ports) trivial fun ours => ?_
    split
    · refine (ends_process ?_).tryCatch fun f h' => ?_
      · exact unmerged_append hunsaved fun c hc => by rw [List.mem_singleton.mp hc]; rfl
      · exact guardedTo_perform_bind (S := ports) trivial fun _ => trivial
    · exact ends_quiet (calls_call_bind rfl fun _ => not_merged rfl)

end Said

/-! ## Turns in any order -/

/-- What was enriched was enriched for its conversation. -/
def InboundEnvelope.enrichedFor (e : InboundEnvelope) : Prop :=
  e.enrichment.all (fun x => x.requirement.conversationId = e.conversationId) = true

/-- What is extracted is of the conversation that was asked for. -/
def Extracts : (o : Op) → Except Fault o.Res → Prop
  | .extract _ conversationId _, .ok (x : MatchRequirement × Bool) =>
    x.1.conversationId = conversationId
  | _, _ => True

abbrev Log := List (Nat × Call ports Fault)

/-- The `n`th delivery is one of the envelope `mail n`, as often and in whatever order envelopes are
delivered. Any call may raise, and any turn may be cut off. -/
def deliveries (s : Service) (mail : Nat → InboundEnvelope) :
    Arena ports Fault TurnResult World Nat where
  answers _ o w r w' := (stores fun _ => True).answers o w r w' ∧ Extracts o r
  enters n p _ := p = handle s (mail n)
  outside w w' := w'.requirements = w.requirements

/-- Who has saved the requirement of a conversation by this call. -/
def saver? (c : String) : Nat × Call ports Fault → Option Nat
  | (n, ⟨.saveRequirement q, .ok _⟩) => if q.conversationId = c then some n else none
  | _ => none

def savers (c : String) (log : Log) : List Nat := log.filterMap (saver? c)

/-- **Nobody comes between**: a turn that saves after it has loaded is the first to save since. -/
def Undisturbed (c : String) (log : Log) : Prop :=
  ∀ before n r after, log = before ++ (n, ⟨.loadRequirement c, r⟩) :: after →
    n ∈ savers c after → (savers c after).head? = some n

/-- Requirements, merged one after the other. -/
def serial (stored : Option MatchRequirement) (said : List MatchRequirement) :
    Option MatchRequirement :=
  said.foldl (fun stored q => some (merge stored q)) stored

/-- Something of the field is stored. -/
def World.holds (w : World) (c : String) (f : Field) : Bool :=
  (w.requirements.find c).any (·.captures f)

section Serial

variable {stored : Option MatchRequirement} {q : MatchRequirement} {f : Field}

theorem captures_merge :
    (merge stored q).captures f = (stored.any (·.captures f) || q.captures f) := by
  cases stored with
  | none => rfl
  | some r => exact MatchRequirement.captures_mergedWith r q f

/-- What is merged one after the other captures what each of them does. -/
theorem captures_serial {said : List MatchRequirement} :
    (serial stored said).any (·.captures f) =
      (stored.any (·.captures f) || said.any (·.captures f)) := by
  induction said generalizing stored with
  | nil => simp [serial]
  | cons q rest ih =>
    change (serial (some (merge stored q)) rest).any _ = _
    rw [ih, Option.any_some, captures_merge, List.any_cons, Bool.or_assoc]

theorem merge_conversationId {c : String} (hstored : ∀ r, stored = some r → r.conversationId = c)
    (hq : q.conversationId = c) : (merge stored q).conversationId = c := by
  cases stored with
  | none => exact hq
  | some r =>
    change (if q.conversationId ≠ "" then q.conversationId else r.conversationId) = c
    rw [hq, hstored r rfl, ite_self]

theorem applyMemory_conversationId {recalled : List (String × String)} {now : Time} :
    (applyMemory q recalled now).conversationId = q.conversationId := by
  unfold applyMemory
  split
  · rfl
  · exact ite_self _

end Serial

section Steps

variable {s : Service} {mail : Nat → InboundEnvelope} {c : String} {w₀ w w' : World} {log : Log}
  {n : Nat} {o : Op} {r : Except Fault o.Res}

/-- What is extracted, found and saved is of the conversation of the delivery. -/
structure Proper (mail : Nat → InboundEnvelope) (log : Log) : Prop where
  extracted : ∀ n p d t x, (n, ⟨.extract p d t, .ok x⟩) ∈ log →
    x.1.conversationId = (mail n).conversationId
  found : ∀ n q, (n, ⟨.loadRequirement (mail n).conversationId, .ok (some q)⟩) ∈ log →
    q.conversationId = (mail n).conversationId
  saved : ∀ n q x, (n, ⟨.saveRequirement q, x⟩) ∈ log → q.conversationId = (mail n).conversationId

theorem saidIn_conversationId {e : InboundEnvelope} {h : History ports Fault} (he : e.enrichedFor)
    (hh : ∀ p d t x, (⟨.extract p d t, .ok x⟩ : Call ports Fault) ∈ h →
      x.1.conversationId = e.conversationId) : (saidIn e h).conversationId = e.conversationId := by
  unfold saidIn
  unfold InboundEnvelope.enrichedFor at he
  cases henrichment : e.enrichment with
  | some enrichment =>
    rw [henrichment] at he
    exact applyMemory_conversationId.trans (of_decide_eq_true he)
  | none =>
    refine applyMemory_conversationId.trans ?_
    cases hlatest : latest extracted? h with
    | none => rfl
    | some q =>
      obtain ⟨⟨o, r⟩, hmem, hq⟩ := exists_of_latest hlatest
      cases o <;> cases r <;> cases hq
      exact hh _ _ _ _ hmem

theorem Proper.start : Proper mail [] where
  extracted _ _ _ _ _ h := absurd h List.not_mem_nil
  found _ _ h := absurd h List.not_mem_nil
  saved _ _ _ h := absurd h List.not_mem_nil

theorem Proper.step (hproper : Proper mail log) (hmail : ∀ n, (mail n).enrichedFor)
    (hallows : Allows (mail n) (own n log) o) (hserved : (stores fun _ => True).answers o w r w')
    (hextracts : Extracts o r) : Proper mail (log ++ [(n, ⟨o, r⟩)]) where
  extracted m p d t x hmem := by
    rcases List.mem_append.mp hmem with hmem | hmem
    · exact hproper.extracted m p d t x hmem
    · cases List.mem_singleton.mp hmem
      exact hextracts.trans hallows.2
  found m q hmem := by
    rcases List.mem_append.mp hmem with hmem | hmem
    · exact hproper.found m q hmem
    · cases List.mem_singleton.mp hmem
      rcases hserved with ⟨hfound, -⟩ | ⟨-, ⟨f, hf⟩, -⟩
      · exact (Store.Table.find_eq_some_iff.mp (Except.ok.inj hfound).symm).2
      · cases hf
  saved m q x hmem := by
    rcases List.mem_append.mp hmem with hmem | hmem
    · exact hproper.saved m q x hmem
    · cases List.mem_singleton.mp hmem
      obtain ⟨-, stored, hloaded, rfl⟩ := hallows
      refine merge_conversationId (fun r hr => ?_) (saidIn_conversationId (hmail n) ?_)
      · rw [hr] at hloaded
        exact hproper.found n r (mem_own.mp hloaded)
      · exact fun p d t x hx => hproper.extracted n p d t x (mem_own.mp hx)

/-! ### Nothing is lost -/

theorem savers_append (log more : Log) : savers c (log ++ more) = savers c log ++ savers c more :=
  List.filterMap_append

theorem mem_savers {n : Nat} (h : n ∈ savers c log) :
    ∃ q x, (n, ⟨.saveRequirement q, .ok x⟩) ∈ log ∧ q.conversationId = c := by
  obtain ⟨⟨m, o, r⟩, hmem, hsaver⟩ := List.mem_filterMap.mp h
  cases o <;> cases r <;> first | cases hsaver | skip
  rename_i q x
  unfold saver? at hsaver
  dsimp only at hsaver
  split at hsaver
  · cases hsaver
    exact ⟨q, x, hmem, ‹_›⟩
  · cases hsaver

theorem mem_savers_of {q : MatchRequirement} {x : Unit}
    (h : (n, ⟨.saveRequirement q, .ok x⟩) ∈ log) (hq : q.conversationId = c) :
    n ∈ savers c log :=
  List.mem_filterMap.mpr ⟨_, h, if_pos hq⟩

/-- Who has saved is no longer unsaved. -/
theorem not_mem_savers (h : Unmerged (own n log)) : n ∉ savers c log := by
  intro hmem
  obtain ⟨q, x, hsaved, -⟩ := mem_savers hmem
  exact Bool.noConfusion (h _ (mem_own.mpr hsaved))

theorem Undisturbed.of_append {more : Log} (h : Undisturbed c (log ++ more)) :
    Undisturbed c log := by
  rintro before n r after rfl hmem
  have hhead := h before n r (after ++ more) (by simp)
    (by rw [savers_append]; exact List.mem_append_left _ hmem)
  rw [savers_append] at hhead
  cases hsavers : savers c after with
  | nil =>
    rw [hsavers] at hmem
    cases hmem
  | cons m rest =>
    rw [hsavers] at hhead
    exact hhead

/-- A call that saves no requirement of the conversation leaves it as it is. -/
theorem find_of_not_saver (hserved : (stores fun _ => True).answers o w r w')
    (hsaver : saver? c (n, ⟨o, r⟩) = none) :
    w'.requirements.find c = w.requirements.find c := by
  rcases hserved with hserved | ⟨-, -, rfl⟩
  · cases o with
    | saveRequirement q =>
      obtain ⟨rfl, rfl⟩ := hserved
      unfold saver? at hsaver
      dsimp only at hsaver
      split at hsaver
      · cases hsaver
      · rw [World.saveRequirement, Store.Table.find_put, if_neg]
        assumption
    | claim key =>
      obtain ⟨now, hclaim⟩ := hserved
      unfold World.claim at hclaim
      split at hclaim <;> cases hclaim <;> rfl
    | saveState snapshot expected =>
      change w.saveState snapshot expected = (r, w') at hserved
      unfold World.saveState at hserved
      split at hserved <;> cases hserved <;> rfl
    | _ =>
      obtain ⟨-, rfl⟩ := hserved
      rfl
  · rfl

/-- What has been said and saved is still stored, and who has loaded what and was not disturbed has
loaded what is stored. -/
structure Kept (mail : Nat → InboundEnvelope) (c : String) (w₀ w : World) (log : Log) : Prop where
  loaded : ∀ before n q after, log = before ++ (n, ⟨.loadRequirement c, .ok q⟩) :: after →
    savers c after = [] → w.requirements.find c = q
  started : ∀ f, w₀.holds c f = true → w.holds c f = true
  said : ∀ n ∈ savers c log, ∀ f, (saidIn (mail n) (own n log)).captures f = true →
    w.holds c f = true

theorem Kept.start : Kept mail c w₀ w₀ [] where
  loaded before _ _ _ h := absurd h.symm
    (List.append_ne_nil_of_right_ne_nil before (List.cons_ne_nil _ _))
  started _ hf := hf
  said _ hn := absurd hn List.not_mem_nil

/-- What leaves the requirements alone. -/
theorem Kept.outside (hkept : Kept mail c w₀ w log) (h : w'.requirements = w.requirements) :
    Kept mail c w₀ w' log := by
  have hholds : ∀ f, w'.holds c f = w.holds c f := fun f => by rw [World.holds, h]; rfl
  refine ⟨fun l n q r heq hr => ?_, fun f hf => ?_, fun n hn f hf => ?_⟩
  · rw [h]
    exact hkept.loaded l n q r heq hr
  · rw [hholds]
    exact hkept.started f hf
  · rw [hholds]
    exact hkept.said n hn f hf

/-- Once a turn has saved, it says nothing more. -/
theorem saidIn_concat {m : Nat} (hmem : m ∈ savers c log)
    (hallows : Allows (mail n) (own n log) o) :
    saidIn (mail m) (own m (log ++ [(n, ⟨o, r⟩)])) = saidIn (mail m) (own m log) := by
  by_cases hne : n = m
  · subst hne
    rw [own_concat_self]
    refine saidIn_append fun x hx => ?_
    rw [List.mem_singleton.mp hx]
    have hsaved : ¬ Unmerged (own n log) := fun hunsaved => not_mem_savers hunsaved hmem
    cases o with
    | now => exact absurd hallows hsaved
    | «recall» ref trace => exact absurd hallows hsaved
    | extract p d t => exact absurd hallows.1 hsaved
    | _ => exact ⟨rfl, rfl, rfl⟩
  · rw [own_concat_of_ne hne]

/-- Nor by saving. -/
theorem saidIn_saved {q : MatchRequirement} {r : Except Fault Unit} :
    saidIn (mail n) (own n (log ++ [(n, ⟨.saveRequirement q, r⟩)])) =
      saidIn (mail n) (own n log) := by
  rw [own_concat_self]
  exact saidIn_append fun x hx => by rw [List.mem_singleton.mp hx]; exact ⟨rfl, rfl, rfl⟩

theorem Kept.quiet_step (hkept : Kept mail c w₀ w log) (hallows : Allows (mail n) (own n log) o)
    (hserved : (stores fun _ => True).answers o w r w')
    (hsaver : saver? c (n, ⟨o, r⟩) = none) : Kept mail c w₀ w' (log ++ [(n, ⟨o, r⟩)]) := by
  have hfind := find_of_not_saver hserved hsaver
  have hnone : savers c [(n, ⟨o, r⟩)] = [] := List.filterMap_eq_nil_iff.mpr fun x hx => by
    rwa [List.mem_singleton.mp hx]
  have hholds : ∀ f, w'.holds c f = w.holds c f := fun f => by rw [World.holds, hfind]; rfl
  refine ⟨fun before m q after heq hafter => ?_, fun f hf => ?_, fun m hm f hf => ?_⟩
  · rcases Pool.split_concat heq with ⟨rfl, hx, -⟩ | ⟨rest, hbefore, rfl⟩
    · cases hx
      rcases hserved with ⟨hfound, rfl⟩ | ⟨-, ⟨f, hf⟩, -⟩
      · exact (Except.ok.inj hfound).symm
      · cases hf
    · rw [savers_append, hnone, List.append_nil] at hafter
      rw [hfind]
      exact hkept.loaded before m q rest hbefore hafter
  · rw [hholds]
    exact hkept.started f hf
  · rw [savers_append, hnone, List.append_nil] at hm
    rw [hholds]
    refine hkept.said m hm f ?_
    rwa [saidIn_concat hm hallows] at hf

/-- **Saving over what was loaded** keeps all that was there, if nobody came between. -/
theorem Kept.saving_step {q : MatchRequirement} {x : Unit} (hkept : Kept mail c w₀ w log)
    (hproper : Proper mail (log ++ [(n, ⟨.saveRequirement q, .ok x⟩)])) (hq : q.conversationId = c)
    (hallows : Allows (mail n) (own n log) (.saveRequirement q))
    (hquiet : Undisturbed c (log ++ [(n, ⟨.saveRequirement q, .ok x⟩)])) :
    Kept mail c w₀ (w.saveRequirement q) (log ++ [(n, ⟨.saveRequirement q, .ok x⟩)]) := by
  obtain ⟨hunsaved, stored, hloaded, hmerged⟩ := id hallows
  have hsaver : savers c [(n, (⟨.saveRequirement q, .ok x⟩ : Call ports Fault))] = [n] := by
    simp [savers, saver?, hq]
  have hc : (mail n).conversationId = c := by
    rw [← hq, hproper.saved n q (.ok x) (by simp)]
  rw [hc] at hloaded
  -- the turn is the first to save since it has loaded, so what it has loaded is stored
  have hfind : w.requirements.find c = stored := by
    obtain ⟨before, after, rfl⟩ := List.append_of_mem (mem_own.mp hloaded)
    refine hkept.loaded before n stored after rfl ?_
    have hhead := hquiet before n (.ok stored) (after ++ [(n, ⟨.saveRequirement q, .ok x⟩)])
      (by simp) (by rw [savers_append, hsaver]; simp)
    rw [savers_append] at hhead
    cases hsavers : savers c after with
    | nil => rfl
    | cons m rest =>
      rw [hsavers] at hhead
      obtain rfl : m = n := Option.some.inj hhead
      refine absurd ?_ (not_mem_savers (c := c) hunsaved)
      rw [savers_append]
      have hskip : savers c ((m, (⟨.loadRequirement c, .ok stored⟩ : Call ports Fault)) :: after) =
          savers c after := List.filterMap_cons_none rfl
      exact List.mem_append_right _ (by rw [hskip, hsavers]; exact .head _)
  have hholds : ∀ f, (w.saveRequirement q).holds c f =
      (w.holds c f || (saidIn (mail n) (own n log)).captures f) := by
    intro f
    rw [World.holds, World.holds, World.saveRequirement, Store.Table.find_put, if_pos hq, hfind,
      Option.any_some, hmerged]
    exact captures_merge
  refine ⟨fun before m p after heq hafter => ?_, fun f hf => ?_, fun m hm f hf => ?_⟩
  · rcases Pool.split_concat heq with ⟨-, hx, -⟩ | ⟨rest, -, rfl⟩
    · cases hx
    · rw [savers_append, hsaver] at hafter
      exact absurd hafter (by simp)
  · rw [hholds, hkept.started f hf, Bool.true_or]
  · rw [savers_append, hsaver] at hm
    by_cases hsaved : m ∈ savers c log
    · have heq := congrArg (·.captures f) (saidIn_concat (c := c) (r := .ok x)
        (o := .saveRequirement q) hsaved hallows)
      rw [hholds, hkept.said m hsaved f (heq.symm.trans hf), Bool.true_or]
    · obtain rfl : m = n := by simpa [hsaved] using hm
      have heq := congrArg (·.captures f) (@saidIn_saved mail log m q (.ok x))
      rw [hholds, heq.symm.trans hf, Bool.or_true]

/-- **One call** keeps what is said of a log. -/
theorem kept_step (hmail : ∀ n, (mail n).enrichedFor)
    (hallows : Allows (mail n) (own n log) o)
    (h : Proper mail log ∧ (Undisturbed c log → Kept mail c w₀ w log))
    (hans : (deliveries s mail).answers n o w r w') :
    Proper mail (log ++ [(n, ⟨o, r⟩)]) ∧
      (Undisturbed c (log ++ [(n, ⟨o, r⟩)]) → Kept mail c w₀ w' (log ++ [(n, ⟨o, r⟩)])) := by
  have hproper := h.1.step hmail hallows hans.1 hans.2
  refine ⟨hproper, fun hquiet => ?_⟩
  have hkept := h.2 hquiet.of_append
  cases hsaver : saver? c (n, ⟨o, r⟩) with
  | none => exact hkept.quiet_step hallows hans.1 hsaver
  | some m =>
    obtain ⟨q, x, hsaved, hq⟩ := @mem_savers c [(n, ⟨o, r⟩)] m
      (List.mem_filterMap.mpr ⟨_, .head _, hsaver⟩)
    cases List.mem_singleton.mp hsaved
    rcases hans.1 with ⟨-, rfl⟩ | ⟨-, ⟨f, hf⟩, -⟩
    · exact hkept.saving_step hproper hq hallows hquiet
    · cases hf

variable {ts : List Nat} {p : Pool ports Fault TurnResult (World × Log) Nat}

/-- The delivery was of the conversation, and has merged what its message says. -/
def Merged (mail : Nat → InboundEnvelope) (c : String)
    (p : Pool ports Fault TurnResult (World × Log) Nat) (n : Nat) : Prop :=
  (mail n).conversationId = c ∧
    ∃ r, (n, Except.ok r) ∈ p.finished ∧ (mail n).mergedBy r = true

/-- **Nothing that was heard is lost**: while nobody else saves between a turn's load of the
requirement and its save, what is stored captures every field that it would capture had all the
messages been merged one after the other, in any order. -/
theorem kept_together (hmail : ∀ n, (mail n).enrichedFor)
    (hreach : Pool.Reach (deliveries s mail).traced (Pool.start (w₀, [])) p)
    (hquiet : Undisturbed c p.world.2) (hdone : ∀ n ∈ ts, Merged mail c p n) (f : Field)
    (hf : (serial (w₀.requirements.find c)
      (ts.map fun n => saidIn (mail n) (own n p.world.2))).any (·.captures f) = true) :
    p.world.1.holds c f = true := by
  have hwatched := Pool.Reach.guarded (P := fun n => Allows (mail n))
    (I := fun a => Proper mail a.2 ∧ (Undisturbed c a.2 → Kept mail c w₀ a.1 a.2))
    (by rintro n q w rfl; exact ends_handle.guarded) ?_
    (fun n o a r b log hallows hI hans => kept_step hmail hallows hI hans) ?_ hreach
  · have hrecounted := Pool.Reach.recounted (P := fun _ _ => True)
      (R := fun n out h => ∀ r, out = .ok r → (mail n).mergedBy r = true → RequirementSaved h)
      (I := fun _ => True) (fun _ _ _ _ _ _ => trivial)
      (by rintro n q w rfl; exact ends_handle.meets_answering) trivial
      (fun _ _ _ _ _ _ _ _ => trivial) (fun _ _ _ _ _ => trivial) hreach
    obtain ⟨hproper, hkept⟩ := hwatched.inv
    have hkept := hkept hquiet
    rw [captures_serial, Bool.or_eq_true] at hf
    rcases hf with hstored | hsaid
    · exact hkept.started f hstored
    · obtain ⟨q, hq, hcaptures⟩ := List.any_eq_true.mp hsaid
      obtain ⟨n, hn, rfl⟩ := List.mem_map.mp hq
      obtain ⟨hc, r, hfinished, hmerged⟩ := hdone n hn
      obtain ⟨q, hsaved⟩ := hrecounted.finished (n, .ok r) hfinished r rfl hmerged
      have hlog := mem_own.mp hsaved
      have hto : q.conversationId = c := (hproper.saved n q _ hlog).trans hc
      exact hkept.said n (mem_savers_of hlog hto) f hcaptures
  · exact ⟨.start, fun _ => .start⟩
  · rintro a b log ⟨hproper, hkept⟩ hsame
    exact ⟨hproper, fun hquiet => (hkept hquiet).outside hsame⟩

end Steps

/-! ### Two messages, of which one is lost -/

/-- "Maths". -/
def maths : MatchRequirement := { conversationId := "wa:1", subject := some { value := "Maths" } }

/-- "CBSE". -/
def cbse : MatchRequirement := { conversationId := "wa:1", board := some { value := "CBSE" } }

def mathsEnvelope : InboundEnvelope := messageOf "a" "Maths" maths none (by decide) none_le

def cbseEnvelope : InboundEnvelope := messageOf "b" "CBSE" cbse none (by decide) none_le

/-- The first is delivered once, the second until it is taken. -/
def mathsThenCbse : Nat → InboundEnvelope
  | 0 => mathsEnvelope
  | _ => cbseEnvelope

/-- Nothing is switched off, and what is extracted is of the conversation. -/
def honest : (o : Op) → World → Except Fault o.Res × World
  | .extract _ conversationId _, w => (.ok ({ conversationId }, false), w)
  | o, w => ({} : Outside).answer o w

theorem honest_answers {s : Service} {mail : Nat → InboundEnvelope} (n : Nat) (o : Op) (w : World) :
    (deliveries s mail).answers n o w (honest o w).1 (honest o w).2 := by
  refine ⟨.inl ?_, ?_⟩
  · cases o with
    | extract p c t => exact ⟨⟨_, rfl⟩, rfl⟩
    | _ => exact ({} : Outside).served _ w
  · cases o <;> trivial

/-- A turn that has loaded the conversation and is about to save its requirement. -/
def resumed (e : InboundEnvelope) (loaded : ConversationSnapshot) (q : MatchRequirement) :
    Turn TurnResult :=
  (do
    let _ ← call (.saveRequirement q)
    let snapshot := loaded.fired .messageReceived 0 e.traceId
    let readiness := q.assess smallService.domain
    if readiness.readyToMatch then
      shortlist smallService e loaded.lockVersion snapshot 0 q []
    else clarify smallService e loaded.lockVersion snapshot 0 readiness [] : Turn TurnResult).tryCatch
      fun fault => do
        let _ ← call (.release e.dedupKey)
        .throw fault

/-- The state it saves when something is missing. -/
def askedAfter (e : InboundEnvelope) (loaded : ConversationSnapshot) : ConversationSnapshot :=
  (loaded.fired .messageReceived 0 e.traceId).fired .requirementsIncomplete 0 e.traceId

section Resumed

variable (e : InboundEnvelope) (loaded : ConversationSnapshot) (q : MatchRequirement) (w : World)

theorem eval_honest : (resumed e loaded q).eval (S := ports) honest w =
    ({} : Outside).eval (resumed e loaded q) w := by
  refine Within.eval_congr (S := ports)
    (C := fun o : Op => o.quiet = true ∨ o = .saveRequirement q) (R := fun _ => True) ?_
    (fun o w ho => ?_) w
  · refine Within.tryCatch (calls_call_bind (.inr rfl) fun _ => ?_) fun _ _ =>
      calls_call_bind (.inl rfl) fun _ => trivial
    exact calls_answered fun _ ho => .inl ho
  · rcases ho with ho | rfl
    · cases o <;> first | rfl | cases ho
    · rfl

/-- What it leaves. -/
theorem eval_resumed (hready : (q.assess smallService.domain).readyToMatch = false)
    (haddress : Addressable smallService e)
    (hversion : w.version (askedAfter e loaded).conversationId = loaded.lockVersion) :
    (resumed e loaded q).eval (S := ports) honest w =
      (.ok (Outside.clarified smallService e (askedAfter e loaded)
          (q.assess smallService.domain) []),
        ((w.saveRequirement q).saved (askedAfter e loaded)).enqueue
          (replyMessage smallService e
            (Outside.clarification smallService (q.assess smallService.domain)))) := by
  refine (eval_honest e loaded q w).trans (Outside.eval_tryCatch_ok _
    (((Outside.eval_bind_ok _ (Outside.eval_call _ _))).trans ?_))
  dsimp only
  rw [if_neg (by rw [hready]; decide)]
  exact Outside.eval_clarify _ rfl hversion haddress

/-- It is refused if somebody else has saved the state. -/
theorem eval_resumed_refused (hready : (q.assess smallService.domain).readyToMatch = false)
    (hversion : w.version (askedAfter e loaded).conversationId ≠ loaded.lockVersion) :
    (resumed e loaded q).eval (S := ports) honest w =
      (.error .optimisticLock, (w.saveRequirement q).release e.dedupKey) := by
  have hrefused : ({} : Outside).eval (do
      let _ ← call (.saveRequirement q)
      let snapshot := loaded.fired .messageReceived 0 e.traceId
      let readiness := q.assess smallService.domain
      if readiness.readyToMatch then
        shortlist smallService e loaded.lockVersion snapshot 0 q []
      else clarify smallService e loaded.lockVersion snapshot 0 readiness []) w =
        (.error .optimisticLock, w.saveRequirement q) := by
    refine (Outside.eval_bind_ok _ (Outside.eval_call _ _)).trans ?_
    dsimp only
    rw [if_neg (by rw [hready]; decide)]
    exact Outside.eval_bind_error _ ((Outside.eval_call _ _).trans (if_neg hversion))
  refine (eval_honest e loaded q w).trans ((Outside.eval_tryCatch_error _ hrefused).trans ?_)
  exact Outside.eval_bind_ok _ (Outside.eval_call _ _)

end Resumed

/-- The new conversation. -/
def newConversation : ConversationSnapshot := { conversationId := "wa:1" }

/-- When both turns have loaded nothing. -/
def bothLoaded : World := (World.fresh.claimed "a" 0).claimed "b" 0

/-- When the first has ended. -/
def firstEnded : World :=
  ((bothLoaded.saveRequirement maths).saved (askedAfter mathsEnvelope newConversation)).enqueue
    (replyMessage smallService mathsEnvelope
      (Outside.clarification smallService (maths.assess smallService.domain)))

/-- When the second has been refused. -/
def secondRefused : World := (firstEnded.saveRequirement cbse).release "b"

theorem advance_first : Prog.advance (S := ports) honest 4 (handle smallService mathsEnvelope)
    .fresh = (resumed mathsEnvelope newConversation maths, World.fresh.claimed "a" 0) := rfl

theorem advance_second : Prog.advance (S := ports) honest 4 (handle smallService cbseEnvelope)
    (World.fresh.claimed "a" 0) = (resumed cbseEnvelope newConversation cbse, bothLoaded) := rfl

theorem advance_again : Prog.advance (S := ports) honest 4 (handle smallService cbseEnvelope)
    secondRefused = (resumed cbseEnvelope (askedAfter mathsEnvelope newConversation)
      (cbse.mergedWith cbse), secondRefused.claimed "b" 0) := rfl

theorem enrichedFor_mathsThenCbse (n : Nat) : (mathsThenCbse n).enrichedFor := by
  cases n <;> rfl

/-- When the second has come again. -/
def secondEnded : World :=
  (((secondRefused.claimed "b" 0).saveRequirement (cbse.mergedWith cbse)).saved
    (askedAfter cbseEnvelope (askedAfter mathsEnvelope newConversation))).enqueue
      (replyMessage smallService cbseEnvelope
        (Outside.clarification smallService ((cbse.mergedWith cbse).assess smallService.domain)))

/-- What the first returns. -/
def firstResult : TurnResult :=
  Outside.clarified smallService mathsEnvelope (askedAfter mathsEnvelope newConversation)
    (maths.assess smallService.domain) []

/-- What the second returns when it has come again. -/
def secondResult : TurnResult :=
  Outside.clarified smallService cbseEnvelope
    (askedAfter cbseEnvelope (askedAfter mathsEnvelope newConversation))
    ((cbse.mergedWith cbse).assess smallService.domain) []

/-- Both have loaded before either saves: the first ends, the second is refused and comes again. -/
theorem reach_lost : ∃ log, Pool.Reach (deliveries smallService mathsThenCbse).traced
    (Pool.start (.fresh, [])) ⟨(secondEnded, log), [],
      [(0, .ok firstResult), (1, .error .optimisticLock), (2, .ok secondResult)]⟩ := by
  have hg : ∀ n o w, (deliveries smallService mathsThenCbse).answers n o w (honest o w).1
      (honest o w).2 := honest_answers
  have hfirst := eval_resumed mathsEnvelope newConversation maths bothLoaded (by decide)
    (by decide) rfl
  have hsecond := eval_resumed_refused cbseEnvelope newConversation cbse firstEnded
    (by decide) (by decide)
  have hagain := eval_resumed cbseEnvelope (askedAfter mathsEnvelope newConversation)
    (cbse.mergedWith cbse) (secondRefused.claimed "b" 0) (by decide) (by decide) rfl
  obtain ⟨c₁, h₁⟩ := Pool.Reach.traced_advance (hg 0) 4 (handle smallService mathsEnvelope) .fresh
    [] [] [(1, handle smallService cbseEnvelope)] []
  rw [advance_first] at h₁
  obtain ⟨c₂, h₂⟩ := Pool.Reach.traced_advance (hg 1) 4 (handle smallService cbseEnvelope)
    (World.fresh.claimed "a" 0) ([] ++ c₁.map fun c => (0, c))
    [(0, resumed mathsEnvelope newConversation maths)] [] []
  rw [advance_second] at h₂
  obtain ⟨c₃, h₃⟩ := Pool.Reach.traced_eval (hg 0) hfirst
    (([] ++ c₁.map fun c => (0, c)) ++ c₂.map fun c => (1, c)) []
    [(1, resumed cbseEnvelope newConversation cbse)] []
  obtain ⟨c₄, h₄⟩ := Pool.Reach.traced_eval (hg 1) hsecond
    ((([] ++ c₁.map fun c => (0, c)) ++ c₂.map fun c => (1, c)) ++ c₃.map fun c => (0, c)) [] []
    [(0, .ok firstResult)]
  obtain ⟨c₅, h₅⟩ := Pool.Reach.traced_advance (hg 2) 4 (handle smallService cbseEnvelope)
    secondRefused
    (((([] ++ c₁.map fun c => (0, c)) ++ c₂.map fun c => (1, c)) ++ c₃.map fun c => (0, c)) ++
      c₄.map fun c => (1, c)) [] [] [(0, .ok firstResult), (1, .error .optimisticLock)]
  rw [advance_again] at h₅
  obtain ⟨c₆, h₆⟩ := Pool.Reach.traced_eval (hg 2) hagain
    ((((([] ++ c₁.map fun c => (0, c)) ++ c₂.map fun c => (1, c)) ++ c₃.map fun c => (0, c)) ++
      c₄.map fun c => (1, c)) ++ c₅.map fun c => (2, c)) [] []
    [(0, .ok firstResult), (1, .error .optimisticLock)]
  have henter₀ : Pool.Step (deliveries smallService mathsThenCbse).traced
      (Pool.start (.fresh, [])) ⟨(.fresh, []), [(0, handle smallService mathsEnvelope)], []⟩ :=
    .enter ⟨rfl, rfl⟩ List.not_mem_nil
  have henter₁ : Pool.Step (deliveries smallService mathsThenCbse).traced
      ⟨(.fresh, []), [(0, handle smallService mathsEnvelope)], []⟩
      ⟨(.fresh, []), [(0, handle smallService mathsEnvelope),
        (1, handle smallService cbseEnvelope)], []⟩ :=
    .enter ⟨rfl, rfl⟩ (by decide)
  have henter₂ : Pool.Step (deliveries smallService mathsThenCbse).traced
      ⟨(secondRefused, (((([] ++ c₁.map fun c => (0, c)) ++ c₂.map fun c => (1, c)) ++
        c₃.map fun c => (0, c)) ++ c₄.map fun c => (1, c))), [],
        [(0, .ok firstResult), (1, .error .optimisticLock)]⟩
      ⟨(secondRefused, (((([] ++ c₁.map fun c => (0, c)) ++ c₂.map fun c => (1, c)) ++
        c₃.map fun c => (0, c)) ++ c₄.map fun c => (1, c))),
        [(2, handle smallService cbseEnvelope)],
        [(0, .ok firstResult), (1, .error .optimisticLock)]⟩ := by
    refine .enter ⟨rfl, ?_⟩ (by simp [Pool.names])
    simp only [own_append, own_map_of_ne (show 0 ≠ 2 by decide),
      own_map_of_ne (show 1 ≠ 2 by decide), own_nil, List.append_nil]
  exact ⟨_, .head henter₀ (.head henter₁ (h₁.trans (h₂.trans (h₃.trans (h₄.trans
    (.head henter₂ (h₅.trans h₆)))))))⟩

/-- **A requirement is lost**: both messages were taken, and the subject that the first has named
is not stored. -/
theorem subject_lost : ¬ ∀ (s : Service) (mail : Nat → InboundEnvelope)
    (p : Pool ports Fault TurnResult (World × Log) Nat) (c : String) (ts : List Nat) (f : Field),
    (∀ n, (mail n).enrichedFor) →
    Pool.Reach (deliveries s mail).traced (Pool.start (.fresh, [])) p → p.running = [] →
    (∀ n ∈ ts, Merged mail c p n) →
    (serial none (ts.map fun n => saidIn (mail n) (own n p.world.2))).any (·.captures f) = true →
    p.world.1.holds c f = true := by
  intro hall
  obtain ⟨log, hreach⟩ := reach_lost
  have hmerged : ∀ n ∈ [0, 2], Merged mathsThenCbse "wa:1" ⟨(secondEnded, log), [],
      [(0, .ok firstResult), (1, .error .optimisticLock), (2, .ok secondResult)]⟩ n := by
    intro n hn
    simp only [List.mem_cons, List.not_mem_nil, or_false] at hn
    rcases hn with rfl | rfl
    · exact ⟨rfl, firstResult, .head _, by decide⟩
    · exact ⟨rfl, secondResult, .tail _ (.tail _ (.head _)), by decide⟩
  have hholds := hall smallService mathsThenCbse _ "wa:1" [0, 2] .subject
    enrichedFor_mathsThenCbse hreach rfl hmerged (by rw [captures_serial]; rfl)
  have hlost : secondEnded.holds "wa:1" .subject = false := by decide
  rw [hlost] at hholds
  cases hholds

/-- Calls of one turn disturb nobody. -/
theorem undisturbed_one {c : String} {n : Nat} {calls : History ports Fault} :
    Undisturbed c (calls.map fun x => (n, x)) := by
  intro before m r after heq hmem
  have hall : ∀ y ∈ before ++ (m, (⟨.loadRequirement c, r⟩ : Call ports Fault)) :: after,
      y.1 = n := by
    intro y hy
    rw [← heq] at hy
    obtain ⟨x, -, rfl⟩ := List.mem_map.mp hy
    rfl
  have hm : m = n := hall _ (List.mem_append_right _ (.head _))
  have hsavers : ∀ k ∈ savers c after, k = n := by
    intro k hk
    obtain ⟨q, x, hx, -⟩ := mem_savers hk
    exact hall _ (List.mem_append_right _ (.tail _ hx))
  cases hafter : savers c after with
  | nil =>
    rw [hafter] at hmem
    cases hmem
  | cons k rest =>
    rw [List.head?_cons, hsavers k (hafter ▸ .head _), hm]

/-- "Maths" is stored. -/
def mathsStored : World := World.fresh.saveRequirement maths

theorem advance_stored : Prog.advance (S := ports) honest 4 (handle smallService cbseEnvelope)
    mathsStored = (resumed cbseEnvelope newConversation (maths.mergedWith cbse),
      mathsStored.claimed "b" 0) := rfl

/-- One message after the other: the subject is stored still, and now the board is, too. -/
theorem both_kept : ∃ p, Pool.Reach (deliveries smallService mathsThenCbse).traced
    (Pool.start (mathsStored, [])) p ∧ p.running = [] ∧ Merged mathsThenCbse "wa:1" p 1 ∧
    ∀ f, f = .subject ∨ f = .board → p.world.1.holds "wa:1" f = true := by
  have hg : ∀ o w, (deliveries smallService mathsThenCbse).answers 1 o w (honest o w).1
      (honest o w).2 := honest_answers 1
  have heval := eval_resumed cbseEnvelope newConversation (maths.mergedWith cbse)
    (mathsStored.claimed "b" 0) (by decide) (by decide) rfl
  obtain ⟨c₁, h₁⟩ := Pool.Reach.traced_advance hg 4 (handle smallService cbseEnvelope)
    mathsStored [] [] [] []
  rw [advance_stored] at h₁
  obtain ⟨c₂, h₂⟩ := Pool.Reach.traced_eval hg heval ([] ++ c₁.map fun c => (1, c)) [] [] []
  have henter : Pool.Step (deliveries smallService mathsThenCbse).traced
      (Pool.start (mathsStored, [])) ⟨(mathsStored, []), [(1, handle smallService cbseEnvelope)],
        []⟩ := .enter ⟨rfl, rfl⟩ List.not_mem_nil
  have hreach := Relation.ReflTransGen.head henter (h₁.trans h₂)
  have hby : cbseEnvelope.mergedBy (Outside.clarified smallService cbseEnvelope
      (askedAfter cbseEnvelope newConversation)
      ((maths.mergedWith cbse).assess smallService.domain) []) = true := by decide
  have hquiet : Undisturbed "wa:1" (([] ++ c₁.map fun c => (1, c)) ++ c₂.map fun c => (1, c)) := by
    rw [List.nil_append, ← List.map_append]
    exact undisturbed_one
  refine ⟨_, hreach, rfl, ⟨rfl, _, .head _, hby⟩, fun f hf => ?_⟩
  refine @kept_together _ _ _ _ [1] _ enrichedFor_mathsThenCbse hreach hquiet
    (fun n hn => by rw [List.mem_singleton.mp hn]; exact ⟨rfl, _, .head _, hby⟩) f ?_
  rw [captures_serial]
  rcases hf with rfl | rfl <;> rfl

end NxTutors.MatchAgent
