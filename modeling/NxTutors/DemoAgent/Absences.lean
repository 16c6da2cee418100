import NxTutors.DemoAgent.PaymentFreshness

/-!
# What a no-show rests on

A no-show is meant to rest on evidence about the demo at hand: its grace period has elapsed, and
attendance was established by a signal that may be trusted. The guard of the two absences asks
for two facts, that one of them is truthy and that the other is not one of three values. Neither
is compared with the demo, and either may be left from an earlier turn.

So a no-show rests on evidence whenever the turn that records it has the evidence with it, or has
facts that the guard refuses; `absences_evidenced` says that of whole runs, decision by decision.
-/

namespace NxTutors.DemoAgent

open Effect

/-- The two ways not to turn up. -/
def ABSENCES : List Trigger := [.studentAbsent, .tutorAbsent]

/-! ## Evidence -/

/-- A source of evidence was captured for the demo as it is: the demo has it on record, and the
conversation's outcome was captured while the demo was at this revision. -/
def Captured (log : List (Nat × Call ports Exn)) (ref : String) (demo : Demo) (source : Value) :
    Prop :=
  source = .str demo.outcome.evidenceSource.value ∧
    ∃ earlier n ctx payload r rest,
      log = earlier ++ (n, ⟨.execute .captureOutcome ctx payload, r⟩) :: rest ∧
      ctx.conversationRef = ref ∧ ∃ demo' : Demo,
        latest demoFound (own n earlier) = some (some demo') ∧
        demo'.demoId = demo.demoId ∧ demo'.revision = demo.revision

/-- **Evidence of an absence**: the grace period of the demo has elapsed, and the source is one
that may be trusted and comes with the event or was captured for the demo as it is. -/
structure Evidence (log : List (Nat × Call ports Exn)) (e : Event) (now : Time) (demo : Option Demo)
    (source : Value) : Prop where
  due : ∃ d, demo = some d ∧ d.outcomeDue now = true
  authoritative : ∃ signal ∈ AUTHORITATIVE_ABSENCE, source = .str signal.value
  current : e.payload "evidence_source" = some source ∨
    ∃ d, demo = some d ∧ Captured log e.conversationRef d source

/-- The guard has something against the facts. -/
def Refused (facts : Facts) : Prop :=
  (facts.get "grace_period_elapsed").truthy = false ∨
    facts.get "evidence_source" ∈ [Value.none, .str "", .str "llm"]

/-- The guard lets through exactly what is not refused. -/
theorem outcomeIsEvidenced_eq_none_iff {ctx : GuardContext} :
    outcomeIsEvidenced ctx = none ↔ ¬ Refused ctx.facts := by
  unfold outcomeIsEvidenced Refused GuardContext.fact
  cases (ctx.facts.get "grace_period_elapsed").truthy with
  | false => simp
  | true =>
    by_cases hsource : ctx.facts.get "evidence_source" ∈ [Value.none, .str "", .str "llm"]
    · rw [if_neg (by simp), if_pos hsource]
      exact ⟨nofun, fun h => absurd (.inr hsource) h⟩
    · rw [if_neg (by simp), if_neg hsource]
      exact ⟨fun _ h => h.elim nofun hsource, fun _ => rfl⟩

/-- What the machine has seen of an absence it grants. -/
theorem granted_absence {s : StateSnapshot} {trigger : Trigger} {actor : Actor} {facts : Facts}
    {result : TransitionResult} (h : fire s trigger actor facts = .ok result)
    (habsence : trigger ∈ ABSENCES) : ¬ Refused (s.facts.merge facts) := by
  obtain ⟨row, hrow, htrigger, hguard⟩ : ∃ row ∈ TRANSITIONS, row.trigger = trigger ∧
      row.guard = some outcomeIsEvidenced := by
    simp only [ABSENCES, List.mem_cons, List.not_mem_nil, or_false] at habsence
    rcases habsence with rfl | rfl <;> simp [TRANSITIONS]
  have hnone := (fire_guard h hrow htrigger).1
  rw [Transition.refusal, hguard] at hnone
  exact outcomeIsEvidenced_eq_none_iff.mp hnone

/-! ## Decisions -/

/-- The `n`-th turn is about to decide: it has just found the demo, and what it has read before
is the time and the snapshot. -/
def Decides (log before : List (Nat × Call ports Exn)) (n : Nat) (now : Time) (s : StateSnapshot)
    (demo : Option Demo) : Prop :=
  ∃ ref after, log = before ++ (n, ⟨.demoForConversation ref, .ok demo⟩) :: after ∧
    Opening (own n before) now s

/-- What a turn has read, it has read at some place of the log. -/
theorem HasRead.decides {log : List (Nat × Call ports Exn)} {n : Nat} {now : Time}
    {s : StateSnapshot} {demo : Option Demo} (h : HasRead (own n log) now s demo)
    (rest : List (Nat × Call ports Exn)) :
    ∃ before, before <+: log ∧ Decides (log ++ rest) before n now s demo := by
  obtain ⟨opening, ref, more, hown, hopening, _⟩ := h
  obtain ⟨l, r, rfl, rfl, -⟩ := own_split hown
  exact ⟨l, List.prefix_append _ _, ref, r ++ rest, by simp, hopening⟩

theorem Captured.mono {log log' : List (Nat × Call ports Exn)} {ref : String} {demo : Demo}
    {source : Value} (h : Captured log ref demo source) (hlog : log <+: log') :
    Captured log' ref demo source := by
  obtain ⟨hsource, earlier, n, ctx, payload, r, rest, rfl, href, hdemo⟩ := h
  obtain ⟨more, rfl⟩ := hlog
  exact ⟨hsource, earlier, n, ctx, payload, r, rest ++ more, by simp, href, hdemo⟩

theorem Evidence.mono {log log' : List (Nat × Call ports Exn)} {e : Event} {now : Time}
    {demo : Option Demo} {source : Value} (h : Evidence log e now demo source)
    (hlog : log <+: log') : Evidence log' e now demo source :=
  ⟨h.due, h.authoritative, h.current.imp id fun ⟨d, hd, hcaptured⟩ => ⟨d, hd, hcaptured.mono hlog⟩⟩

/-- A decision on an absence is sound: what the stored facts and the payload say together is
refused, or there is evidence of it. -/
def SoundDecision (before : List (Nat × Call ports Exn)) (e : Event) (now : Time)
    (s : StateSnapshot) (demo : Option Demo) : Prop :=
  Refused (s.facts.merge e.payload) ∨
    Evidence before e now demo ((s.facts.merge e.payload).get "evidence_source")

/-- **No-shows rest on evidence.** In every run in which each decision on an absence finds facts
that are refused or evidence, each absence that is stored rests on evidence about the demo and at
the time of the turn that stores it. -/
theorem absences_evidenced {C : Type} [ConversationRepository C] (cfg : Config)
    (events : Nat → Event) (w : World C)
    {p : Pool ports Exn TurnResult (World C × List (Nat × Call ports Exn)) Nat}
    (h : Pool.Reach (turns cfg events).traced (Pool.start (w, [])) p)
    (hsound : ∀ before n now s demo, Decides p.world.2 before n now s demo →
      (events n).trigger ∈ ABSENCES → SoundDecision before (events n) now s demo)
    {before after : List (Nat × Call ports Exn)} {n : Nat} {c : Call ports Exn}
    {result : TransitionResult} (hlog : p.world.2 = before ++ (n, c) :: after)
    (hstored : stored c = some result) (habsence : result.trigger ∈ ABSENCES) :
    ∃ now s demo, HasRead (own n before) now s demo ∧
      Evidence before (events n) now demo
        ((s.facts.merge (events n).payload).get "evidence_source") := by
  rcases stored_own_move h hlog hstored with ⟨now, s, demo, facts, hown⟩ | hfollow
  · have htrigger : (events n).trigger ∈ ABSENCES := by
      obtain ⟨row, _, _, _, _, rfl⟩ := fire_eq_ok hown.granted
      exact habsence
    obtain ⟨start, hprefix, hdecides⟩ := hown.read.decides ((n, c) :: after)
    refine ⟨now, s, demo, hown.read, ?_⟩
    rcases hsound start n now s demo (hlog ▸ hdecides) htrigger with hrefused | hevidence
    · -- the machine saw the same two facts, and granted the move
      refine absurd ?_ (granted_absence hown.granted htrigger)
      have hgrace := hown.seen "grace_period_elapsed" (by decide) (by decide)
      have hsource := hown.seen "evidence_source" (by decide) (by decide)
      rw [Refused, hgrace, hsource]
      exact hrefused
    · exact hevidence.mono hprefix
  · rw [hfollow] at habsence
    exact absurd habsence (by decide)

/-! ## Absences -/

/-- The call stores an absence, and is answered. -/
def storesAbsence (c : Call ports Exn) : Bool :=
  match c with
  | ⟨.saveTransition result _ _, .ok _⟩ => result.trigger ∈ ABSENCES
  | _ => false

theorem stored_of_storesAbsence {c : Call ports Exn} (h : storesAbsence c = true) :
    ∃ result, stored c = some result ∧ result.trigger ∈ ABSENCES := by
  obtain ⟨o, r⟩ := c
  cases o with
  | saveTransition result now facts =>
    rcases r with exn | s
    · cases h
    · exact ⟨result, rfl, of_decide_eq_true h⟩
  | _ => cases h

/-- An entry of a log that passes a check, which may look at what came before. -/
theorem exists_entry {γ : Type} (log : List γ) (check : List γ → γ → Bool)
    (h : (List.range log.length).any (fun i => log[i]?.any (check (log.take i))) = true) :
    ∃ before x after, log = before ++ x :: after ∧ check before x = true := by
  obtain ⟨i, _, hi⟩ := List.any_eq_true.mp h
  cases hx : log[i]? with
  | none =>
    rw [hx] at hi
    cases hi
  | some x =>
    rw [hx] at hi
    obtain ⟨hlt, rfl⟩ := List.getElem?_eq_some_iff.mp hx
    refine ⟨log.take i, log[i], log.drop (i + 1), ?_, hi⟩
    rw [← List.drop_eq_getElem_cons hlt, List.take_append_drop]

/-- What the provider of the conference says about who was there. -/
def absencePayload : Facts :=
  Facts.ofList [("grace_period_elapsed", .bool true),
    ("evidence_source", .str "meet_participation")]

/-- A demo that was over nine hours ago, in a conversation in which nobody has said how it went. -/
def overdue : World InMemoryConversations where
  clock := 10 * hour
  conversations := { states := fun _ => some { conversationRef := "c", state := .demoReady } }
  demos := [{ demoId := "d", conversationRef := "c", slot := some { startsAt := 0 } }]

/-- The student did not turn up. -/
def absent : List Event := [event "1" .studentAbsent .system absencePayload]

/-- Whoever calls, it is the one event; the clock says when it is; the demo that is found is
due. -/
def dueEntry (x : Nat × Call ports Exn) : Bool :=
  x.1 = 0 && (clockRead x.2).all (· = 10 * hour) &&
    (demoFound x.2).all fun demo => demo.any fun d => d.outcomeDue (10 * hour)

/-- It applies to an absence that comes with its evidence, for a demo that is due. -/
theorem absent_evidenced :
    ∃ before n c after, (traceOf overdue absent).2 = before ++ (n, c) :: after ∧
      storesAbsence c = true ∧ ∃ now s demo, HasRead (own n before) now s demo ∧
        Evidence before (nth absent n) now demo
          ((s.facts.merge (nth absent n).payload).get "evidence_source") := by
  obtain ⟨fin, hreach⟩ := traceOf_reached overdue absent
  obtain ⟨before, ⟨n, c⟩, after, hlog, hstores⟩ :=
    exists_entry (traceOf overdue absent).2 (fun _ x => storesAbsence x.2) (by decide)
  obtain ⟨result, hstored, habsence⟩ := stored_of_storesAbsence hstores
  refine ⟨before, n, c, after, hlog, hstores,
    absences_evidenced plainConfig _ _ hreach ?_ hlog hstored habsence⟩
  intro before n now s demo hdecides _
  have hentries : ∀ x ∈ (traceOf overdue absent).2, dueEntry x = true :=
    List.all_eq_true.mp (by decide)
  obtain ⟨ref, after, hsplit, hopening⟩ := hdecides
  have hfound := hentries (n, ⟨.demoForConversation ref, .ok demo⟩) (by
    rw [hsplit]
    exact List.mem_append_right _ List.mem_cons_self)
  obtain ⟨call, hcall, hclock⟩ := exists_of_latest hopening.clock
  have hnow := hentries (n, call) (by
    rw [hsplit]
    exact List.mem_append_left _ (mem_own.mp hcall))
  simp only [dueEntry, hclock, demoFound, Option.all_some, Bool.and_eq_true, decide_eq_true_eq]
    at hfound hnow
  obtain ⟨⟨rfl, rfl⟩, -⟩ := hnow
  cases demo with
  | none => exact absurd hfound.2 Bool.false_ne_true
  | some d => exact .inr ⟨⟨d, rfl, hfound.2⟩, ⟨.meetParticipation, by decide, rfl⟩, .inl rfl⟩

/-- The student does not turn up, which is on evidence; the demo is booked again; and then, on no
evidence, the tutor does not turn up. -/
def absentAfterRebooking : List Event :=
  paying.take 12 ++
    [event "13" .studentAbsent .system absencePayload, event "14" .noShowResolved .system,
      event "15" .slotAgreed .user, event "16" .holdPlaced .system,
      event "17" .tutorAccepted .tutor, event "18" .calendarCreated .system,
      event "19" .demoWindowOpen .scheduler, event "20" .tutorAbsent .system]

/-- The absence is stored on behalf of an event that names no source, for a demo that has no slot
and so is never due. -/
def inherited (before : List (Nat × Call ports Exn)) (x : Nat × Call ports Exn) : Bool :=
  storesAbsence x.2 && ((nth absentAfterRebooking x.1).payload "evidence_source").isNone &&
    (latest demoFound (own x.1 before)).any fun demo => demo.all fun d => d.slot.isNone

/-- The second absence is stored on what the first has left behind. -/
theorem absence_inherited :
    ∃ p, Pool.Reach (turns plainConfig (nth absentAfterRebooking)).traced
        (Pool.start (freshWorld, [])) p ∧
      ∃ before n c after result, p.world.2 = before ++ (n, c) :: after ∧
        storesAbsence c = true ∧ stored c = some result ∧ result.trigger ∈ ABSENCES ∧
        (nth absentAfterRebooking n).payload "evidence_source" = none ∧
        ¬ ∃ now s demo, HasRead (own n before) now s demo ∧
          Evidence before (nth absentAfterRebooking n) now demo
            ((s.facts.merge (nth absentAfterRebooking n).payload).get "evidence_source") := by
  obtain ⟨fin, hreach⟩ := traceOf_reached freshWorld absentAfterRebooking
  obtain ⟨before, ⟨n, c⟩, after, hlog, hcheck⟩ :=
    exists_entry (traceOf freshWorld absentAfterRebooking).2 inherited (by decide +kernel)
  rw [inherited, Bool.and_eq_true, Bool.and_eq_true, Option.isNone_iff_eq_none] at hcheck
  obtain ⟨⟨hstores, hnone⟩, hundue⟩ := hcheck
  obtain ⟨result, hstored, habsence⟩ := stored_of_storesAbsence hstores
  refine ⟨_, hreach, before, n, c, after, result, hlog, hstores, hstored, habsence, hnone, ?_⟩
  rintro ⟨now, s, demo, hread, hevidence⟩
  obtain ⟨d, rfl, hdue⟩ := hevidence.due
  rw [hread.found, Option.any_some, Option.all_some, Option.isNone_iff_eq_none] at hundue
  rw [Demo.outcomeDue, hundue] at hdue
  cases hdue

end NxTutors.DemoAgent
