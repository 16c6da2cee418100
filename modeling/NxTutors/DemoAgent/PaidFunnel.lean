import NxTutors.DemoAgent.AuditLog

/-!
# Money in the funnel

Once a payment has been committed, a conversation must not be dropped unless an operator has
taken part. The table keeps the two dead ends away from the states of a settled payment: there
is no `CANCELLED_BY_USER` from `PAYMENT_CONFIRMED`, and `FAILED_TERMINAL` is entered from
`FAILED_RECOVERABLE` only. But the states a failure or an escalation leads to are shared with
the rest of the funnel, and from those the table lets a user cancel and the system give up.

`GivesUp` names these calls. In every run without them the log is `KeptMoney`; the module ends
with a run that has one.
-/

namespace NxTutors.DemoAgent

open Effect

/-! ## What a log keeps -/

/-- The two ways out of the funnel that leave a payment behind. -/
def DROPPED : List DemoState := [.cancelled, .failedTerminal]

/-- After each payment, the conversation enters a dropped state only if some later transition
was an operator's. -/
def KeptMoney (log : List HistoryEntry) : Prop :=
  ∀ before paid after, log = before ++ paid :: after → paid.trigger = .paymentPaid →
    (∃ entry ∈ after, entry.toState ∈ DROPPED) → ∃ entry ∈ after, entry.actor = .operator

/-- There was a payment, and no operator has acted since. -/
def HeldPaid (log : List HistoryEntry) : Prop :=
  ∃ before paid after, log = before ++ paid :: after ∧ paid.trigger = .paymentPaid ∧
    ∀ entry ∈ after, entry.actor ≠ .operator

theorem keptMoney_nil : KeptMoney [] := by
  intro before paid after h
  simp at h

/-- **One more entry.** While a payment is held, only an operator may drop the conversation. -/
theorem KeptMoney.append {log : List HistoryEntry} {entry : HistoryEntry} (h : KeptMoney log)
    (hentry : HeldPaid log → entry.toState ∈ DROPPED → entry.actor = .operator) :
    KeptMoney (log ++ [entry]) := by
  intro before paid after hlog hpaid hdropped
  rcases List.eq_nil_or_concat after with rfl | ⟨rest, last, rfl⟩
  · obtain ⟨x, hx, _⟩ := hdropped
    cases hx
  · rw [List.concat_eq_append, ← List.cons_append, ← List.append_assoc] at hlog
    obtain ⟨rfl, hlast⟩ := List.append_inj' hlog rfl
    obtain rfl : entry = last := by simpa using hlast
    rw [List.concat_eq_append] at hdropped ⊢
    obtain ⟨x, hx, hstate⟩ := hdropped
    by_cases hop : ∃ y ∈ rest, y.actor = .operator
    · obtain ⟨y, hy, hactor⟩ := hop
      exact ⟨y, List.mem_append_left _ hy, hactor⟩
    · rcases List.mem_append.mp hx with hx | hx
      · -- it was dropped before, so there was an operator before
        exact absurd (h before paid rest rfl hpaid ⟨x, hx, hstate⟩) hop
      · obtain rfl := List.mem_singleton.mp hx
        have hheld : HeldPaid (before ++ paid :: rest) :=
          ⟨before, paid, rest, rfl, hpaid, fun y hy hactor => hop ⟨y, hy, hactor⟩⟩
        exact ⟨x, List.mem_append_right _ hx, hentry hheld hstate⟩

/-! ## The calls that give up -/

/-- The calls the table lets through to a dropped state without an operator. -/
structure Drops (state : DemoState) (trigger : Trigger) (actor : Actor) : Prop where
  drops : (trigger = .cancelledByUser ∧ actor = .user ∧ state ∈ CANCELLABLE) ∨
    (trigger = .abandon ∧ actor = .system ∧ state = .failedRecoverable)

/-- **The ways into a dropped state.** A row into one is a cancellation by a user, a surrender
of the system, or an operator's. -/
theorem drops_of_row {row : Transition} (hrow : row ∈ TRANSITIONS)
    (htarget : row.target ∈ DROPPED) {state : DemoState} (hstate : state ∈ row.sources)
    {actor : Actor} (hactor : actor ∈ row.actors) (hop : actor ≠ .operator) :
    Drops state row.trigger actor := by
  have hall : ∀ row ∈ TRANSITIONS, row.target ∈ DROPPED →
      (row.trigger = .cancelledByUser ∧ row.actors = ANY_HUMAN ∧ row.sources = CANCELLABLE) ∨
      (row.trigger = .abandon ∧ row.actors = [.operator, .system] ∧
        row.sources = [.failedRecoverable]) := by decide
  rcases hall row hrow htarget with ⟨ht, ha, hs⟩ | ⟨ht, ha, hs⟩
  · rw [ha, ANY_HUMAN] at hactor
    rw [hs] at hstate
    have huser : actor = .user := by simpa [hop] using hactor
    exact ⟨.inl ⟨ht, huser, hstate⟩⟩
  · rw [ha] at hactor
    rw [hs] at hstate
    have hsystem : actor = .system := by simpa [hop] using hactor
    exact ⟨.inr ⟨ht, hsystem, List.mem_singleton.mp hstate⟩⟩

/-- The call of `e` finds the conversation with a payment that is held, and the table lets it
drop the conversation without an operator. -/
structure GivesUp (ref : String) (w : World InMemoryConversations) (e : Event) : Prop where
  held : HeldPaid (w.conversations.history ref)
  drops : Drops (w.conversations.load ref).state e.trigger e.actor

/-! ## One call -/

/-- The conversation is as it was. -/
structure Stands (ref : String) (w w' : World InMemoryConversations) : Prop where
  load : w'.conversations.load ref = w.conversations.load ref
  history : w'.conversations.history ref = w.conversations.history ref

theorem Stands.refl (ref : String) (w : World InMemoryConversations) : Stands ref w w :=
  ⟨rfl, rfl⟩

theorem Stands.trans {ref : String} {a b c : World InMemoryConversations}
    (h : Stands ref a b) (h' : Stands ref b c) : Stands ref a c :=
  ⟨h'.load.trans h.load, h'.history.trans h.history⟩

theorem Calm.stands {ref : String} {w w' : World InMemoryConversations} (h : Calm w w') :
    Stands ref w w' :=
  ⟨by rw [InMemoryConversations.load, InMemoryConversations.load, h.states], by rw [h.history]⟩

/-- The money of the conversation is kept, and its snapshot is its own. -/
structure Kept (ref : String) (w : World InMemoryConversations) : Prop where
  kept : KeptMoney (w.conversations.history ref)
  sameRef : (w.conversations.load ref).conversationRef = ref

theorem Kept.stands {ref : String} {w w' : World InMemoryConversations} (h : Kept ref w)
    (hs : Stands ref w w') : Kept ref w' :=
  ⟨hs.history ▸ h.kept, hs.load ▸ h.sameRef⟩

/-- **The write step.** A move granted on the stored snapshot that does not give up keeps the
money. -/
theorem Kept.write {ref : String} {w : World InMemoryConversations} {trigger : Trigger}
    {actor : Actor} {decided facts : Facts} {result : TransitionResult} {now : Time}
    (h : Kept ref w) (hfire : fire (w.conversations.load ref) trigger actor decided = .ok result)
    (hcareful : HeldPaid (w.conversations.history ref) →
      ¬ Drops (w.conversations.load ref).state trigger actor) :
    Kept ref { w with conversations := w.conversations.write result now facts } := by
  obtain ⟨row, hrow, hstate, rfl, hactor, rfl⟩ := fire_lawful hfire
  have href : (row.result (w.conversations.load ref) row.trigger actor).conversationRef = ref :=
    h.sameRef
  constructor
  · have hhist := history_write_self w.conversations
      (row.result (w.conversations.load ref) row.trigger actor) now facts
    rw [href] at hhist
    rw [hhist]
    refine h.kept.append fun hheld hdropped => ?_
    by_contra hop
    exact hcareful hheld (drops_of_row hrow hdropped hstate hactor hop)
  · have hload := load_write_self w.conversations
      (row.result (w.conversations.load ref) row.trigger actor) now facts
    rw [href] at hload
    rw [hload]
    exact href

/-- A follow-on drops nothing. -/
theorem not_drops_recoverableFailure (state : DemoState) (actor : Actor) :
    ¬ Drops state .recoverableFailure actor := by
  rintro ⟨⟨h, _⟩ | ⟨h, _⟩⟩ <;> cases h

/-- The setting in which others leave this conversation alone. -/
def undisturbed (ref : String) : Setting ports Exn (World InMemoryConversations) :=
  ⟨Answers, Stands ref⟩

/-- What is known of the conversation in each phase of a call that found it in `w`. -/
def funnelPhase (ref : String) (w : World InMemoryConversations) :
    Phase → World InMemoryConversations → Prop
  | .start, w' | .claiming _, w' | .idle _, w' | .duplicate, w' => Stands ref w w'
  | .decided _ s, w' => Stands ref w w' ∧ s = w.conversations.load ref
  | .following _ _ s, w' => Kept ref w' ∧ s = w'.conversations.load ref
  | .saved .., w' | .failed .., w' | .done _, w' => Kept ref w'

section Phases

variable {ref : String} {w a b : World InMemoryConversations} {ph : Phase}

theorem funnelPhase_stands (h : funnelPhase ref w ph a) (hs : Stands ref a b) :
    funnelPhase ref w ph b := by
  cases ph with
  | start | claiming | idle | duplicate => exact Stands.trans h hs
  | decided n s => exact ⟨h.1.trans hs, h.2⟩
  | following n result s => exact ⟨h.1.stands hs, h.2.trans hs.load.symm⟩
  | saved | failed | done => exact Kept.stands h hs

theorem funnelPhase_kept (hw : Kept ref w) (h : funnelPhase ref w ph a) : Kept ref a := by
  cases ph with
  | start | claiming | idle | duplicate => exact hw.stands h
  | decided n s => exact hw.stands h.1
  | following n result s => exact h.1
  | saved | failed | done => exact h

end Phases

/-- A write decided on the stored snapshot meets no conflict. -/
theorem Answers.save_no_conflict {a b : World InMemoryConversations} {ref : String}
    {trigger : Trigger} {actor : Actor} {decided facts : Facts} {result : TransitionResult}
    {now : Time} {c : ConcurrencyConflict}
    (h : Answers (.saveTransition result now facts) a (.error (.conflict c)) b)
    (hself : (a.conversations.load ref).conversationRef = ref)
    (hfire : fire (a.conversations.load ref) trigger actor decided = .ok result) : False := by
  obtain ⟨row, _, _, _, _, rfl⟩ := fire_lawful hfire
  rcases h.of_save with ⟨_, _, hversion⟩ | ⟨_, _, hc⟩
  · refine hversion ⟨c, rfl⟩ ?_
    show (a.conversations.load (a.conversations.load ref).conversationRef).version = _
    rw [hself]
    rfl
  · exact hc c rfl

/-- **The invariant of a turn** that does not give up. -/
def funnelTurn (cfg : Config) (e : Event) (w : World InMemoryConversations)
    (hw : Kept e.conversationRef w) (hcareful : ¬ GivesUp e.conversationRef w e) :
    TurnInvariant (undisturbed e.conversationRef) (fun _ _ => True)
      (fun _ w' => Kept e.conversationRef w') cfg e where
  holds := funnelPhase e.conversationRef w
  move ph a b h hm := funnelPhase_stands h hm
  quiet ph o a r b hq h ha :=
    ⟨trivial, funnelPhase_stands h (Answers.calm hq ha).stands, ha.final hq⟩
  clock a r b h ha := by
    have hb := funnelPhase_stands h (Answers.calm (o := .now) rfl ha).stands
    refine ⟨trivial, ?_⟩
    cases r with
    | ok now => exact hb
    | error exn => exact funnelPhase_kept hw hb
  claim now a r b h ha := by
    have hconv : b.conversations = a.conversations := by
      rcases ha.of_claim with ⟨_, rfl, _⟩ | ⟨_, _, ⟨rfl, _⟩ | rfl⟩ <;> rfl
    have hb : Stands e.conversationRef w b := h.trans ⟨by rw [hconv], by rw [hconv]⟩
    refine ⟨trivial, ?_⟩
    rcases r with exn | taken
    · exact hw.stands hb
    · cases taken <;> exact hb
  load n a r b h ha := by
    obtain ⟨rfl, rfl | ⟨name, rfl⟩⟩ := ha.of_load
    · exact ⟨trivial, h, h.load⟩
    · exact ⟨trivial, trivial, hw.stands h⟩
  save n s now facts result a r b h hfire ha := by
    obtain ⟨hstands, rfl⟩ := h
    have ha' := hw.stands hstands
    rw [← hstands.load] at hfire
    refine ⟨trivial, ?_⟩
    have hb : Kept e.conversationRef b := by
      rcases ha.of_save with ⟨rfl, _, _⟩ | ⟨_, rfl, _⟩
      · exact ha'
      · refine ha'.write hfire fun hheld hdrops => hcareful ⟨?_, ?_⟩
        · rwa [hstands.history] at hheld
        · rwa [hstands.load] at hdrops
    rcases r with exn | s'
    · cases exn with
      | conflict c => exact absurd (ha.save_no_conflict ha'.sameRef hfire) id
      | ownership err => exact hb
      | other name => exact hb
    · exact hb
  execute n result ctx payload a r b h hcmd ha :=
    have hb := Kept.stands h ha.calm_execute.stands
    ⟨trivial, hb, hb⟩
  send result m a r b h hm ha :=
    have hneutral := ha.neutral rfl
    ⟨trivial, Kept.stands h hneutral.1.calm.stands, hneutral.2⟩
  noCommand n result a hnone h := h
  compensate n result ctx payload a r b h hcomp ha :=
    ⟨trivial, Kept.stands h ha.calm_execute.stands⟩
  loadFollow n result a r b h ha := by
    obtain ⟨rfl, rfl | ⟨name, rfl⟩⟩ := ha.of_load
    · exact ⟨trivial, h, rfl⟩
    · exact ⟨trivial, trivial, h⟩
  skipFollow n result s facts a refusal h hfire := h.1
  saveFollow n result s now facts follow a r b h hfire ha := by
    obtain ⟨hkept, rfl⟩ := h
    refine ⟨trivial, ?_⟩
    have hb : Kept e.conversationRef b := by
      rcases ha.of_save with ⟨rfl, _, _⟩ | ⟨_, rfl, _⟩
      · exact hkept
      · exact hkept.write hfire fun _ => not_drops_recoverableFailure _ _
    rcases r with exn | s'
    · cases exn with
      | conflict c => exact absurd (ha.save_no_conflict hkept.sameRef hfire) id
      | ownership err => exact hb
      | other name => exact hb
    · exact hb
  lastLoad ph a r b hph h ha := by
    obtain ⟨rfl, _⟩ := ha.of_load
    exact ⟨trivial, h, fun _ _ => funnelPhase_kept hw h⟩
  raised ph exn a h hx := funnelPhase_kept hw h
  accepted result tr a h hacc hdup := h
  rejected n s facts refusal tr a h hfire hacc hdup hreason := hw.stands h.1
  exhausted tr a h hacc hdup := hw.stands h
  duplicate tr a h hacc hdup := hw.stands h

/-- The call that took the conversation from one world to another. Commands succeed, report a
failure or raise, and any other call may raise. -/
def Handled (cfg : Config) (ref : String) (w : World InMemoryConversations) (e : Event)
    (w' : World InMemoryConversations) : Prop :=
  e.conversationRef = ref ∧ ∃ out, Run (undisturbed ref) (handle cfg e) w out w'

/-- A call that does not give up keeps the money. -/
theorem Handled.kept {cfg : Config} {ref : String} {w w' : World InMemoryConversations}
    {e : Event} (h : Handled cfg ref w e w') (hcareful : ¬ GivesUp ref w e) (hw : Kept ref w) :
    Kept ref w' := by
  obtain ⟨rfl, out, hrun⟩ := h
  exact ((funnelTurn cfg e w hw hcareful).handle (Stands.refl _ w)).run hrun

/-! ## Every run -/

/-- **Money is kept by every run that does not give up.** Whatever the calls of `handle` on a
conversation are, and however each of them ends: if none is a user's cancellation, or the
system's surrender, that finds a payment held in a state the table cancels or surrenders from,
then after a payment the conversation is dropped only if an operator has acted. -/
theorem money_kept (cfg : Config) (ref : String) {w₀ w : World InMemoryConversations}
    {events : List Event} (hfresh : w₀.conversations = {})
    (hrun : Path (fun w e w' => Handled cfg ref w e w' ∧ ¬ GivesUp ref w e) w₀ events w) :
    KeptMoney (w.conversations.history ref) := by
  have hw₀ : Kept ref w₀ := by
    constructor
    · rw [hfresh]
      exact keptMoney_nil
    · rw [hfresh]
      rfl
  exact (hrun.invariant hw₀ fun _ _ _ hw h => h.1.kept h.2 hw).kept

/-! ## A conversation from its handoff to its payment, and after

The commands of this run do what they are for, as far as the guards can see: rows appear
where the next guard looks for them. Only the activation of the subscription fails, as it does
when the order is not found. -/

/-- What a command that succeeds leaves behind. -/
def furnish (command : Command) (w : World InMemoryConversations) :
    World InMemoryConversations :=
  match command with
  | .askMissingRequirements =>
    let requirement : Requirement :=
      { service := some "tuition", board := some "CBSE", studentClass := some "10",
        subject := some "maths", mode := some .online }
    { w with requests := [{ requestId := "r", conversationRef := "c", requirement }] }
  | .requestTutorMatch =>
    { w with candidates := fun _ => [{ rank := 1, tutorRef := "t", name := "Asha" }] }
  | .placeSlotHold =>
    let hold : SlotHold :=
      { holdId := "h", conversationRef := "c", tutorRef := "t", slot := { startsAt := 2 * hour },
        mode := .online, createdAt := 0, expiresAt := hour, ordered := by decide }
    { w with slots := (w.slots.placeHold hold).2 }
  | .createCalendarEvent =>
    { w with demos := [{ demoId := "d", conversationRef := "c", tutorRef := some "t",
                         calendarEventId := some "e" }] }
  | .sendFollowup =>
    let decision : DiscountDecision :=
      { conversationRef := "c", demoId := "d", status := .approved, listPriceMinor := 1,
        payableMinor := 1, floorMinor := 1, policyStamp := "discount@v1", decidedAt := 0 }
    { w with decisions := fun _ => some decision }
  | _ => w

theorem neutral_furnish (command : Command) (w : World InMemoryConversations) :
    Neutral w (furnish command w) := by
  cases command <;> exact ⟨rfl, rfl, rfl, le_refl _, fun _ h => .inl h, fun _ h => .inl h⟩

/-- How a command ends: well, unless it activates the subscription. -/
def activationFails (command : Command) : CommandOutcome :=
  if command = .activateSubscription then
    { failed := true, failureReason := "order_not_found" }
  else {}

/-- The script of the run. -/
def untilActivation (_ : Nat) (o : Op) (w : World InMemoryConversations) :
    Except Exn o.Res × World InMemoryConversations :=
  match o with
  | .execute command ctx _ =>
    (.ok { outcome := .ok (activationFails command), facts := ctx.facts, outbox := ctx.outbox,
           degraded := ctx.degraded }, furnish command w)
  | o => w.smooth o

theorem answers_untilActivation (n : Nat) (o : Op) (w : World InMemoryConversations) :
    Answers o w (untilActivation n o w).1 (untilActivation n o w).2 := by
  cases o with
  | execute command ctx payload => exact .component _ rfl (neutral_furnish command w)
  | _ => exact answers_smooth _ w

/-- One event of the run. -/
def progress (w : World InMemoryConversations) (e : Event) : World InMemoryConversations :=
  (play untilActivation 0 (handle plainConfig e) w).2

theorem handled_progress {e : Event} (h : e.conversationRef = "c")
    (w : World InMemoryConversations) : Handled plainConfig "c" w e (progress w e) :=
  ⟨h, _, run_play (fun n o w => ⟨w, Stands.refl _ w, answers_untilActivation n o w⟩) 0 _ w⟩

/-- An event of the conversation `c`. -/
def event (eventId : String) (trigger : Trigger) (actor : Actor) (payload : Facts := Facts.empty) :
    Event :=
  { conversationRef := "c", trigger, actor, eventId, payload }

/-- From the handoff to the payment. -/
def paying : List Event :=
  [event "1" .handoffReceived .agent, event "2" .ownershipAcquired .system,
    event "3" .identityUnresolved .system, event "4" .requirementsComplete .system,
    event "5" .matchSucceeded .system, event "6" .optionsPresented .system,
    event "7" .tutorChosen .user (Facts.ofList [("button_id", .str "tutor:1")]),
    event "8" .slotAgreed .user, event "9" .holdPlaced .system,
    event "10" .tutorAccepted .tutor, event "11" .calendarCreated .system,
    event "12" .demoWindowOpen .scheduler, event "13" .demoCompleted .system,
    event "14" .analysisComplete .system, event "15" .paymentLinkIssued .system,
    event "16" .paymentPaid .paymentProvider (Facts.ofList
      [("signature_verified", .bool true), ("amount_matches_order", .bool true),
        ("order_belongs_to_conversation", .bool true)])]

/-- After `events`, handled one after the other. -/
def after (events : List Event) : World InMemoryConversations :=
  events.foldl progress { conversations := {} }

/-- Without a cancellation and a surrender, nothing gives up. -/
theorem not_givesUp {w : World InMemoryConversations} {e : Event}
    (h : e.trigger ≠ .cancelledByUser ∧ e.trigger ≠ .abandon) : ¬ GivesUp "c" w e := by
  rintro ⟨_, ⟨ht, _⟩ | ⟨ht, _⟩⟩
  · exact h.1 ht
  · exact h.2 ht

/-- A payment at a known place of the log. -/
theorem exists_paid {log : List HistoryEntry} {i : Nat}
    (h : log[i]?.map HistoryEntry.trigger = some .paymentPaid) :
    ∃ before paid, log = before ++ paid :: log.drop (i + 1) ∧ paid.trigger = .paymentPaid := by
  obtain ⟨paid, hpaid, htrigger⟩ := Option.map_eq_some_iff.mp h
  obtain ⟨hi, rfl⟩ := List.getElem?_eq_some_iff.mp hpaid
  refine ⟨log.take i, log[i], ?_, htrigger⟩
  rw [← List.drop_eq_getElem_cons hi, List.take_append_drop]

/-- Up to the payment, and through the failure of its activation, the money is kept. -/
theorem paying_keeps_money :
    let log := (after paying).conversations.history "c"
    KeptMoney log ∧ log.length = 17 ∧ log[15]?.map HistoryEntry.trigger = some .paymentPaid := by
  have hcalls : ∀ e ∈ paying, e.conversationRef = "c" ∧
      e.trigger ≠ .cancelledByUser ∧ e.trigger ≠ .abandon := by decide
  refine ⟨money_kept plainConfig "c" rfl (Path.foldl _ paying fun e he w =>
    ⟨handled_progress (hcalls e he).1 w, not_givesUp (hcalls e he).2⟩), ?_⟩
  decide +kernel

/-- Then the parent cancels. -/
def payingThenCancelling : List Event := paying ++ [event "17" .cancelledByUser .user]

/-- The payment was committed, its activation failed, the failure took the conversation to
`FAILED_RECOVERABLE`, and from there the parent's cancellation took it to `CANCELLED`. No
operator acted. -/
theorem paid_conversation_cancelled :
    ∃ w, Path (Handled plainConfig "c") { conversations := {} } payingThenCancelling w ∧
      (w.conversations.load "c").state = .cancelled ∧
      ¬ KeptMoney (w.conversations.history "c") := by
  have hrefs : ∀ e ∈ payingThenCancelling, e.conversationRef = "c" := by decide
  have hlog : ((after payingThenCancelling).conversations.load "c").state = .cancelled ∧
      let log := (after payingThenCancelling).conversations.history "c"
      log[15]?.map HistoryEntry.trigger = some .paymentPaid ∧
      (∃ entry ∈ log.drop 16, entry.toState ∈ DROPPED) ∧
      ∀ entry ∈ log.drop 16, entry.actor ≠ .operator := by decide +kernel
  obtain ⟨hstate, htrigger, hdropped, hnone⟩ := hlog
  refine ⟨after payingThenCancelling, Path.foldl _ _ fun e he w =>
    handled_progress (hrefs e he) w, hstate, fun hkept => ?_⟩
  obtain ⟨before, paid, hsplit, hpaid⟩ := exists_paid htrigger
  obtain ⟨entry, hentry, hactor⟩ := hkept before paid _ hsplit hpaid hdropped
  exact hnone entry hentry hactor

end NxTutors.DemoAgent
