import NxTutors.DemoAgent.Turn

/-!
# The world of the in-memory stores

`World C` is everything the repositories hold, over a conversation store `C`. `answer` is
what each repository call does, as the in-memory repositories do it. `Answers` adds what can
go wrong and what is not ours: a repository call may raise, before or after its effect;
a call to the outside answers anything; and a whole component, the command executor or the
outbound boundary, may do anything to the world that is `Neutral`, which is to say anything
but move a conversation or touch the keys events are claimed under.
-/

namespace NxTutors.DemoAgent

open Effect

/-- Everything the repositories hold. -/
structure World (C : Type) where
  clock : Time := 0
  conversations : C
  /-- when the claim of a key in a scope expires -/
  claims : String → String → Option Time := fun _ _ => none
  /-- the requests, in the order their identifiers were first saved; likewise below -/
  requests : List DemoRequest := []
  demos : List Demo := []
  candidates : String → List TutorCandidate := fun _ => []
  slots : InMemorySlots := {}
  reminders : ReminderRows := []
  decisions : String → Option DiscountDecision := fun _ => none
  orders : List PaymentOrder := []
  eventIds : List String := []
  activations : String → Option SubscriptionActivation := fun _ => none
  audits : List AuditRecord := []
  outbox : List OutboxRow := []
  /-- the bodies on the work queue; a body may be delivered more than once -/
  queue : List WorkBody := []
  /-- the payloads of the callbacks that are scheduled -/
  scheduled : List WorkBody := []
  /-- the keys of the messages that were claimed for sending -/
  messageLog : List String := []

/-- `d[key] = x` in a dictionary that keeps the order of insertion. -/
def upsert {α κ : Type} [DecidableEq κ] (key : α → κ) (x : α) : List α → List α
  | [] => [x]
  | y :: ys => if key y = key x then x :: ys else y :: upsert key x ys

/-- The entry inserted first among those with a key is the one that is found. -/
theorem find?_upsert_self {α κ : Type} [DecidableEq κ] (key : α → κ) (x : α) (l : List α) :
    (upsert key x l).find? (fun y => key y = key x) = some x := by
  induction l with
  | nil => simp [upsert]
  | cons y ys ih =>
    rw [upsert]
    split
    · simp
    · rename_i hne
      rw [List.find?_cons_of_neg (by simpa using hne), ih]

theorem find?_upsert_of_ne {α κ : Type} [DecidableEq κ] {key : α → κ} {x : α} {k : κ}
    (h : key x ≠ k) (l : List α) :
    (upsert key x l).find? (fun y => key y = k) = l.find? (fun y => key y = k) := by
  induction l with
  | nil => simp [upsert, h]
  | cons y ys ih =>
    rw [upsert]
    split
    · rename_i heq
      have hy : key y ≠ k := heq ▸ h
      rw [List.find?_cons_of_neg (by simpa using h), List.find?_cons_of_neg (by simpa using hy)]
    · by_cases hk : key y = k
      · rw [List.find?_cons_of_pos (by simpa using hk), List.find?_cons_of_pos (by simpa using hk)]
      · rw [List.find?_cons_of_neg (by simpa using hk),
          List.find?_cons_of_neg (by simpa using hk), ih]

/-! ## What a repository call does -/

namespace World

variable {C : Type} [ConversationRepository C]

/-- The order stored under a reference. -/
def order (w : World C) (ref : String) : Option PaymentOrder :=
  w.orders.find? fun o => o.orderRef = ref

/-- An earlier claim of the key has not expired. -/
def claimed (w : World C) (scope key : String) (now : Time) : Bool :=
  (w.claims scope key).any fun expiry => now < expiry

/-- The key is claimed until `expiry`. -/
def withClaim (w : World C) (scope key : String) (expiry : Time) : World C :=
  let keys := Function.update (w.claims scope) key (some expiry)
  { w with claims := Function.update w.claims scope keys }

/-- A row with this key has been written to the outbox. -/
def enqueued (w : World C) (row : OutboxRow) : Bool :=
  w.outbox.any fun x => x.idempotencyKey = row.idempotencyKey

/-- The outbox with a row, unless one with its key is there. -/
def outboxWith (w : World C) (row : OutboxRow) : List OutboxRow :=
  if w.enqueued row then w.outbox else w.outbox ++ [row]

/-- The answer of a repository call, and the world after it. Calls of the other kinds have
no answer of their own. -/
def answer (w : World C) : (o : Op) → Except Exn o.Res × World C
  | .now => (.ok w.clock, w)
  | .load ref => (.ok (ConversationRepository.load w.conversations ref), w)
  | .saveTransition result now facts =>
    let (r, c) := ConversationRepository.saveTransition w.conversations result now facts
    (r.mapError .conflict, { w with conversations := c })
  | .loadOwnership ref now =>
    (.ok (ConversationRepository.loadOwnership w.conversations ref now), w)
  | .saveOwnership o =>
    (.ok (), { w with conversations := ConversationRepository.saveOwnership w.conversations o })
  | .touchInbound ref moment =>
    let c := ConversationRepository.touchInbound w.conversations ref moment
    (.ok (), { w with conversations := c })
  | .lastInboundAt ref => (.ok (ConversationRepository.lastInboundAt w.conversations ref), w)
  | .claim key scope now ttlSeconds =>
    if w.claimed scope key now then (.ok false, w)
    else (.ok true, w.withClaim scope key (now + ttlSeconds * 1000000))
  | .demoForConversation ref =>
    (.ok (w.demos.reverse.find? fun d => d.conversationRef = ref && d.cancelledAt.isNone), w)
  | .requestForConversation ref =>
    (.ok (w.requests.reverse.find? fun r => r.conversationRef = ref), w)
  | .saveRequest request =>
    (.ok (), { w with requests := upsert DemoRequest.requestId request w.requests })
  | .loadCandidates ref => (.ok (w.candidates ref), w)
  | .saveCandidates ref _ candidates _ =>
    (.ok (), { w with candidates := Function.update w.candidates ref candidates })
  | .loadDemo demoId => (.ok (w.demos.find? fun d => d.demoId = demoId), w)
  | .saveDemo demo => (.ok (), { w with demos := upsert Demo.demoId demo w.demos })
  | .activeHoldFor ref now => (.ok (w.slots.activeHoldFor ref now), w)
  | .slots c => (.ok (w.slots.call c).1, { w with slots := (w.slots.call c).2 })
  | .replaceForDemo demoId _ reminders =>
    (.ok (), { w with reminders := w.reminders.replaceForDemo demoId reminders })
  | .cancelForDemo demoId =>
    let (cancelled, rows) := w.reminders.cancelForDemo demoId
    (.ok cancelled, { w with reminders := rows })
  | .dueReminders now limit => (.ok (w.reminders.due now limit), w)
  | .markReminder reminderId status now detail =>
    (.ok (), { w with reminders := w.reminders.mark reminderId status now detail })
  | .loadDecision demoId => (.ok (w.decisions demoId), w)
  | .orderForConversation ref =>
    (.ok (w.orders.reverse.find? fun o => o.conversationRef = ref), w)
  | .loadOrder orderRef => (.ok (w.order orderRef), w)
  | .saveOrder order =>
    (.ok (), { w with orders := upsert PaymentOrder.orderRef order w.orders })
  | .recordEvent event _ =>
    if event.providerEventId ∈ w.eventIds then (.ok false, w)
    else (.ok true, { w with eventIds := event.providerEventId :: w.eventIds })
  | .activationFor orderRef => (.ok (w.activations orderRef), w)
  | .saveActivation activation =>
    let activations := Function.update w.activations activation.orderRef (some activation)
    (.ok (), { w with activations })
  | .audit record => (.ok (), { w with audits := w.audits ++ [record] })
  | .unpublished limit =>
    (.ok ((w.outbox.filter fun row => row.publishedAt.isNone).take limit), w)
  | .markPublished outboxId now =>
    let rows := w.outbox.map fun row =>
      if row.outboxId = outboxId then { row with publishedAt := some now } else row
    (.ok (), { w with outbox := rows })
  | .enqueue row _ => (.ok (!w.enqueued row), { w with outbox := w.outboxWith row })
  | .schedule _ _ payload =>
    (.ok (), { w with scheduled := w.scheduled ++ [{ fields := payload }] })
  | .publish body _ _ => (.ok "", { w with queue := w.queue ++ [body] })
  | .claimSend message _ =>
    if message.idempotencyKey ∈ w.messageLog then (.ok false, w)
    else (.ok true, { w with messageLog := message.idempotencyKey :: w.messageLog })
  | .recordSendResult .. => (.ok (), w)
  | .dispatch .. | .optedOut _ | .checkOutput _ | .checkLimit .. | .resolveContact _
  | .deliver .. | .createEvent .. | .patchEvent .. | .cancelEvent _ | .getEvent _
  | .resolveIdentity .. | .tutorAvailability .. | .tutorEmail _ | .matchTutors _
  | .openHumanCase _ | .placeOrder .. | .activateSubscription .. | .newId _ | .analyse ..
  | .composeFollowup .. | .execute .. | .send _ => (.error (.other "not a repository"), w)

omit [ConversationRepository C] in
/-- What is in the outbox was there, or is the row. -/
theorem mem_outboxWith {w : World C} {row x : OutboxRow} (h : x ∈ w.outboxWith row) :
    x ∈ w.outbox ∨ x = row := by
  unfold outboxWith at h
  split at h
  · exact .inl h
  · exact (List.mem_append.mp h).imp id List.mem_singleton.mp

end World

/-- What kind of call a call is. -/
inductive OpKind
  /-- of a repository, which answers from what it holds and may raise -/
  | repository
  /-- of the clock, which never raises -/
  | clock
  /-- to the outside, which answers anything -/
  | outside
  /-- of a whole component -/
  | component
  deriving DecidableEq

def Op.kind : Op → OpKind
  | .now => .clock
  | .dispatch .. | .optedOut _ | .checkOutput _ | .checkLimit .. | .resolveContact _
  | .deliver .. | .createEvent .. | .patchEvent .. | .cancelEvent _ | .getEvent _
  | .resolveIdentity .. | .tutorAvailability .. | .tutorEmail _ | .matchTutors _
  | .openHumanCase _ | .placeOrder .. | .activateSubscription .. | .newId _ | .analyse ..
  | .composeFollowup .. => .outside
  | .execute .. | .send _ => .component
  | _ => .repository

/-- The callbacks commands schedule: the expiry of a request to a tutor, and reminders, which
name no trigger. -/
def CommandSchedules (body : WorkBody) : Prop :=
  body.fields "kind" = none ∧
    (body.fields "trigger" = none ∨
      body.fields "trigger" = some (.str Trigger.tutorRequestExpired.value))

/-- **What commands and sends leave alone**: conversations, the keys of events, the queue.
Commands have no access to any of them. What they schedule is of two kinds, and what they
write to the outbox is of a few. -/
structure Neutral {C : Type} (w w' : World C) : Prop where
  conversations : w'.conversations = w.conversations
  claims : w'.claims "inbound" = w.claims "inbound"
  queue : w'.queue = w.queue
  clock : w.clock ≤ w'.clock
  scheduled : ∀ body ∈ w'.scheduled, body ∈ w.scheduled ∨ CommandSchedules body
  outbox : ∀ row ∈ w'.outbox, row ∈ w.outbox ∨ ∃ event ∈ EMITTED, row.event = event.value

theorem Neutral.refl {C : Type} (w : World C) : Neutral w w :=
  ⟨rfl, rfl, rfl, le_refl _, fun _ h => .inl h, fun _ h => .inl h⟩

/-- What a call can be answered, and what it leaves. -/
inductive Answers {C : Type} [ConversationRepository C] :
    (o : Op) → World C → Except Exn o.Res → World C → Prop
  /-- a repository, or the clock, does what it does -/
  | stored {o : Op} {w : World C} (h : o.kind = .repository ∨ o.kind = .clock) :
      Answers o w (w.answer o).1 (w.answer o).2
  /-- a repository raises, and nothing happened -/
  | raisedBefore {o : Op} {w : World C} (name : String) (h : o.kind = .repository) :
      Answers o w (.error (.other name)) w
  /-- a repository raises, and its effect has taken place -/
  | raisedAfter {o : Op} {w : World C} (name : String) (h : o.kind = .repository) :
      Answers o w (.error (.other name)) (w.answer o).2
  /-- the outside answers something -/
  | outside {o : Op} {w : World C} (a : o.Res) (h : o.kind = .outside) :
      Answers o w (.ok a) w
  /-- the outside raises -/
  | outsideRaised {o : Op} {w : World C} (name : String) (h : o.kind = .outside) :
      Answers o w (.error (.other name)) w
  /-- a component answers something -/
  | component {o : Op} {w w' : World C} (a : o.Res) (h : o.kind = .component)
      (hn : Neutral w w') : Answers o w (.ok a) w'
  /-- a component raises -/
  | componentRaised {o : Op} {w w' : World C} (name : String) (h : o.kind = .component)
      (hn : Neutral w w') : Answers o w (.error (.other name)) w'

section Inversion

variable {C : Type} [ConversationRepository C] {w w' : World C}

/-- What a repository call does: what it does, or it raises, its effect having taken place
or not. -/
theorem Answers.repository {o : Op} {r : Except Exn o.Res} (h : Answers o w r w')
    (hk : o.kind = .repository) :
    (r = (w.answer o).1 ∧ w' = (w.answer o).2) ∨
      ((∃ name, r = .error (.other name)) ∧ (w' = w ∨ w' = (w.answer o).2)) := by
  cases h with
  | stored => exact .inl ⟨rfl, rfl⟩
  | raisedBefore name => exact .inr ⟨⟨name, rfl⟩, .inl rfl⟩
  | raisedAfter name => exact .inr ⟨⟨name, rfl⟩, .inr rfl⟩
  | outside a h => rw [hk] at h; cases h
  | outsideRaised name h => rw [hk] at h; cases h
  | component a h => rw [hk] at h; cases h
  | componentRaised name h => rw [hk] at h; cases h

/-- A repository call that only reads leaves the world alone. -/
theorem Answers.read {o : Op} {r : Except Exn o.Res} (h : Answers o w r w')
    (hk : o.kind = .repository) (hread : (w.answer o).2 = w) :
    w' = w ∧ (r = (w.answer o).1 ∨ ∃ name, r = .error (.other name)) := by
  rcases h.repository hk with ⟨hr, hw⟩ | ⟨hr, hw | hw⟩
  · exact ⟨hw.trans hread, .inl hr⟩
  · exact ⟨hw, .inr hr⟩
  · exact ⟨hw.trans hread, .inr hr⟩

/-- A component is neutral, and raises nothing that is retried. -/
theorem Answers.neutral {o : Op} {r : Except Exn o.Res} (h : Answers o w r w')
    (hk : o.kind = .component) : Neutral w w' ∧ ∀ exn, r = .error exn → exn.final := by
  cases h with
  | stored h => rcases h with h | h <;> (rw [hk] at h; cases h)
  | raisedBefore name h => rw [hk] at h; cases h
  | raisedAfter name h => rw [hk] at h; cases h
  | outside a h => rw [hk] at h; cases h
  | outsideRaised name h => rw [hk] at h; cases h
  | component a h hn => exact ⟨hn, fun _ he => by cases he⟩
  | componentRaised name h hn => exact ⟨hn, fun _ he => by cases he; trivial⟩

/-- The outside leaves the world alone. -/
theorem Answers.of_outside {o : Op} {r : Except Exn o.Res} (h : Answers o w r w')
    (hk : o.kind = .outside) : w' = w := by
  cases h with
  | stored h => rcases h with h | h <;> cases hk.symm.trans h
  | raisedBefore name h => cases hk.symm.trans h
  | raisedAfter name h => cases hk.symm.trans h
  | outside => rfl
  | outsideRaised => rfl
  | component a h => cases hk.symm.trans h
  | componentRaised name h => cases hk.symm.trans h

/-- The clock answers the time, and nothing happens. -/
theorem Answers.of_now {r : Except Exn (Op.Res .now)} (h : Answers Op.now w r w') :
    w' = w ∧ r = .ok w.clock := by
  cases h with
  | stored => exact ⟨rfl, rfl⟩
  | raisedBefore _ hk => cases hk
  | raisedAfter _ hk => cases hk
  | outside _ hk => cases hk
  | outsideRaised _ hk => cases hk
  | component _ hk => cases hk
  | componentRaised _ hk => cases hk

/-- A repository call that answers, raises nothing that is retried. -/
theorem Answers.final_of_answer {o : Op} {r : Except Exn o.Res} (h : Answers o w r w')
    (hk : o.kind = .repository) (hok : ∃ a, (w.answer o).1 = .ok a) :
    ∀ exn, r = .error exn → exn.final := by
  intro exn he
  subst he
  rcases h.repository hk with ⟨hr, _⟩ | ⟨⟨name, hr⟩, _⟩
  · obtain ⟨a, ha⟩ := hok
    rw [ha] at hr
    cases hr
  · cases hr
    trivial

/-- **A quiet call raises nothing that is retried.** -/
theorem Answers.final {o : Op} {r : Except Exn o.Res} (hq : Quiet o) (h : Answers o w r w') :
    ∀ exn, r = .error exn → exn.final := by
  cases o with
  | now => intro exn he; cases h.of_now.2.symm.trans he
  | saveOwnership ownership => exact h.final_of_answer rfl ⟨_, rfl⟩
  | audit record => exact h.final_of_answer rfl ⟨_, rfl⟩
  | loadOwnership ref now => exact h.final_of_answer rfl ⟨_, rfl⟩
  | demoForConversation ref => exact h.final_of_answer rfl ⟨_, rfl⟩
  | requestForConversation ref => exact h.final_of_answer rfl ⟨_, rfl⟩
  | activeHoldFor ref now => exact h.final_of_answer rfl ⟨_, rfl⟩
  | loadCandidates ref => exact h.final_of_answer rfl ⟨_, rfl⟩
  | loadDecision demoId => exact h.final_of_answer rfl ⟨_, rfl⟩
  | orderForConversation ref => exact h.final_of_answer rfl ⟨_, rfl⟩
  | activationFor orderRef => exact h.final_of_answer rfl ⟨_, rfl⟩
  | _ => exact absurd hq Bool.false_ne_true

/-- Whatever a call does, if both what it does to the world and what a neutral component does
keep `I`, it keeps `I`. -/
theorem Answers.keeps {I : World C → Prop} {o : Op} {r : Except Exn o.Res}
    (h : Answers o w r w') (hw : I w) (hanswer : I (w.answer o).2)
    (hneutral : o.kind = .component → ∀ w', Neutral w w' → I w') : I w' := by
  cases h with
  | stored => exact hanswer
  | raisedBefore => exact hw
  | raisedAfter => exact hanswer
  | outside => exact hw
  | outsideRaised => exact hw
  | component a hk hn => exact hneutral hk _ hn
  | componentRaised name hk hn => exact hneutral hk _ hn

/-- Only writing a transition comes back with anything but an exception of its own. -/
theorem Answers.other_of_ne {o : Op} {r : Except Exn o.Res} (h : Answers o w r w')
    (ho : ∀ result now facts, o ≠ .saveTransition result now facts) :
    ∀ exn, r = .error exn → ∃ name, exn = .other name := by
  intro exn he
  cases h with
  | stored =>
    cases o with
    | saveTransition result now facts => exact absurd rfl (ho result now facts)
    | claim key scope now ttl =>
      simp only [World.answer] at he
      split at he <;> cases he
    | recordEvent event now =>
      simp only [World.answer] at he
      split at he <;> cases he
    | claimSend message now =>
      simp only [World.answer] at he
      split at he <;> cases he
    | _ =>
      cases he
      try exact ⟨_, rfl⟩
  | outside => cases he
  | component => cases he
  | raisedBefore => cases he; exact ⟨_, rfl⟩
  | raisedAfter => cases he; exact ⟨_, rfl⟩
  | outsideRaised => cases he; exact ⟨_, rfl⟩
  | componentRaised => cases he; exact ⟨_, rfl⟩

/-- So nothing else comes back with a conflict. -/
theorem Answers.final_of_ne {o : Op} {r : Except Exn o.Res} (h : Answers o w r w')
    (ho : ∀ result now facts, o ≠ .saveTransition result now facts) :
    ∀ exn, r = .error exn → exn.final := by
  intro exn he
  obtain ⟨name, rfl⟩ := h.other_of_ne ho exn he
  trivial

/-- Only claiming touches the keys that are claimed. -/
theorem Answers.claims {o : Op} {r : Except Exn o.Res} (h : Answers o w r w')
    (ho : ∀ key now ttl, o ≠ .claim key "inbound" now ttl) :
    w'.claims "inbound" = w.claims "inbound" := by
  refine h.keeps (I := fun w' => w'.claims "inbound" = w.claims "inbound") rfl ?_
    fun _ _ hn => hn.claims
  cases o with
  | claim key scope now ttl =>
    have hscope : "inbound" ≠ scope := fun hs => ho key now ttl (by rw [hs])
    simp only [World.answer]
    split
    · rfl
    · exact Function.update_of_ne hscope _ _
  | recordEvent event now => simp only [World.answer]; split <;> rfl
  | claimSend message now => simp only [World.answer]; split <;> rfl
  | _ => rfl

/-- Loading answers the stored snapshot, or raises. -/
theorem Answers.of_load {ref : String} {r : Except Exn StateSnapshot}
    (h : Answers (.load ref) w r w') :
    w' = w ∧ (r = .ok (ConversationRepository.load w.conversations ref) ∨
      ∃ name, r = .error (.other name)) :=
  h.read rfl rfl

/-- **What claiming does.** While an earlier claim lasts, nothing, and it is not granted.
Otherwise it is not refused, and the key is claimed, unless the call raises before that. -/
theorem Answers.of_claim {key scope : String} {now : Time} {ttl : Int} {r : Except Exn Bool}
    (h : Answers (.claim key scope now ttl) w r w') :
    (w.claimed scope key now = true ∧ w' = w ∧ r ≠ .ok true) ∨
      (w.claimed scope key now = false ∧ r ≠ .ok false ∧
        ((w' = w ∧ r ≠ .ok true) ∨ w' = w.withClaim scope key (now + ttl * 1000000))) := by
  have hcases := h.repository rfl
  simp only [World.answer] at hcases
  cases hc : w.claimed scope key now with
  | true =>
    rw [hc, if_pos rfl] at hcases
    rcases hcases with ⟨rfl, rfl⟩ | ⟨⟨name, rfl⟩, rfl | rfl⟩
    · exact .inl ⟨rfl, rfl, nofun⟩
    · exact .inl ⟨rfl, rfl, nofun⟩
    · exact .inl ⟨rfl, rfl, nofun⟩
  | false =>
    rw [hc, if_neg Bool.false_ne_true] at hcases
    rcases hcases with ⟨rfl, rfl⟩ | ⟨⟨name, rfl⟩, rfl | rfl⟩
    · exact .inr ⟨rfl, nofun, .inr rfl⟩
    · exact .inr ⟨rfl, nofun, .inl ⟨rfl, nofun⟩⟩
    · exact .inr ⟨rfl, nofun, .inr rfl⟩

end Inversion

/-! ## A world in which everything works -/

/-- What a call is answered when nothing goes wrong: repositories do what they do, messages
are delivered, and commands succeed without doing anything. -/
def World.smooth {C : Type} [ConversationRepository C] (w : World C) :
    (o : Op) → Except Exn o.Res × World C
  | .dispatch .. => (.ok (), w)
  | .optedOut _ => (.ok false, w)
  | .checkOutput _ => (.ok [], w)
  | .checkLimit .. => (.ok { allowed := true }, w)
  | .resolveContact ref => (.ok (some ref), w)
  | .deliver message _ =>
    (.ok (.ok { outcome := .sent, idempotencyKey := message.idempotencyKey }), w)
  | .createEvent _ _ _ _ _ requestId _ => (.ok (.ok { eventId := requestId }), w)
  | .patchEvent .. => (.ok (.ok ()), w)
  | .cancelEvent _ => (.ok (.ok ()), w)
  | .getEvent _ => (.ok (.ok {}), w)
  | .resolveIdentity .. => (.ok (.ok none), w)
  | .tutorAvailability .. => (.ok (.ok []), w)
  | .tutorEmail _ => (.ok (.ok none), w)
  | .matchTutors request =>
    (.ok (.ok { matchSessionId := request.traceId, generatedAt := w.clock }), w)
  | .openHumanCase _ => (.ok "", w)
  | .placeOrder .. => (.ok (.ok ""), w)
  | .activateSubscription orderRef _ _ => (.ok (.ok orderRef), w)
  | .newId kind => (.ok kind, w)
  | .analyse .. => (.ok (), w)
  | .composeFollowup .. => (.ok "", w)
  | .execute _ ctx _ =>
    (.ok { outcome := .ok {}, facts := ctx.facts, outbox := ctx.outbox,
           degraded := ctx.degraded }, w)
  | .send message => (.ok { outcome := .sent, idempotencyKey := message.idempotencyKey }, w)
  | o => w.answer o

theorem answers_smooth {C : Type} [ConversationRepository C] (o : Op) (w : World C) :
    Answers o w (w.smooth o).1 (w.smooth o).2 := by
  cases o with
  | now => exact .stored (.inr rfl)
  | dispatch => exact .outside _ rfl
  | optedOut => exact .outside _ rfl
  | checkOutput => exact .outside _ rfl
  | checkLimit => exact .outside _ rfl
  | resolveContact => exact .outside _ rfl
  | deliver => exact .outside _ rfl
  | createEvent => exact .outside _ rfl
  | patchEvent => exact .outside _ rfl
  | cancelEvent => exact .outside _ rfl
  | getEvent => exact .outside _ rfl
  | resolveIdentity => exact .outside _ rfl
  | tutorAvailability => exact .outside _ rfl
  | tutorEmail => exact .outside _ rfl
  | matchTutors => exact .outside _ rfl
  | openHumanCase => exact .outside _ rfl
  | placeOrder => exact .outside _ rfl
  | activateSubscription => exact .outside _ rfl
  | newId => exact .outside _ rfl
  | analyse => exact .outside _ rfl
  | composeFollowup => exact .outside _ rfl
  | execute => exact .component _ rfl (Neutral.refl w)
  | send => exact .component _ rfl (Neutral.refl w)
  | _ => exact .stored (.inl rfl)

/-- The setting in which nobody else moves. -/
def alone {C : Type} [ConversationRepository C] : Setting ports Exn (World C) :=
  ⟨Answers, Eq⟩

/-- Played undisturbed in a world in which everything works, a program has a run. -/
theorem run_smooth {C : Type} [ConversationRepository C] {α : Type} (p : Act α)
    (w : World C) : Run alone p w (play (fun _ o w => w.smooth o) 0 p w).1
      (play (fun _ o w => w.smooth o) 0 p w).2 :=
  run_play (fun _ o w => ⟨w, rfl, answers_smooth o w⟩) 0 p w

/-- A configuration for concrete runs: ASCII text, and no hashing. -/
def plainConfig : Config where
  tables := Text.ascii
  sha256 s := s
  hmac s := s
  zones := ⟨fun _ t => t, fun _ t => t, fun _ _ => "UTC"⟩
  slotScore _ _ _ := 0
  meetLink link := some link
  paymentLink link := some link

/-- Somebody hands the conversation `c` over. -/
def handoff : Event :=
  { conversationRef := "c", trigger := .handoffReceived, actor := .agent, eventId := "1" }

/-- The conversation is ours. -/
def acquired : Event :=
  { conversationRef := "c", trigger := .ownershipAcquired, actor := .system, eventId := "2" }

/-- What is left when `e` is handled undisturbed and everything works. -/
def smoothly (e : Event) (w : World InMemoryConversations) : World InMemoryConversations :=
  (play (fun _ o w => w.smooth o) 0 (handle plainConfig e) w).2

/-- What a call is answered when everything works but the `k`-th call, if it is
one of a repository: it raises, and nothing happens. -/
def World.failingAt {C : Type} [ConversationRepository C] (k n : Nat) (o : Op) (w : World C) :
    Except Exn o.Res × World C :=
  if n = k ∧ o.kind = .repository then (.error (.other "OSError"), w) else w.smooth o

theorem run_failingAt {C : Type} [ConversationRepository C] {α : Type} (k : Nat) (p : Act α)
    (w : World C) : Run alone p w (play (World.failingAt k) 0 p w).1
      (play (World.failingAt k) 0 p w).2 := by
  refine run_play (fun n o w => ⟨w, rfl, ?_⟩) 0 p w
  unfold World.failingAt
  split
  · rename_i h
    exact .raisedBefore _ h.2
  · exact answers_smooth o w

/-- The same, but one command ends as it is told to. -/
def World.smoothBut {C : Type} [ConversationRepository C] (command : Command)
    (outcome : Except Exn CommandOutcome) (w : World C) : (o : Op) → Except Exn o.Res × World C
  | .execute c ctx payload =>
    if c = command then
      (.ok { outcome, facts := ctx.facts, outbox := ctx.outbox, degraded := ctx.degraded }, w)
    else w.smooth (.execute c ctx payload)
  | o => w.smooth o

theorem answers_smoothBut {C : Type} [ConversationRepository C] (command : Command)
    (outcome : Except Exn CommandOutcome) (o : Op) (w : World C) :
    Answers o w (w.smoothBut command outcome o).1 (w.smoothBut command outcome o).2 := by
  cases o with
  | execute c ctx payload =>
    simp only [World.smoothBut]
    split
    · exact .component _ rfl (Neutral.refl w)
    · exact answers_smooth _ w
  | _ => exact answers_smooth _ w

/-! ## Quiet calls

Over the in-memory store, the quiet calls of a turn change at most who owns a conversation,
and what is audited. -/

/-- Nothing of a conversation has changed but, perhaps, its owner. -/
structure Calm (w w' : World InMemoryConversations) : Prop where
  states : w'.conversations.states = w.conversations.states
  history : w'.conversations.history = w.conversations.history
  claims : w'.claims "inbound" = w.claims "inbound"

theorem Calm.refl (w : World InMemoryConversations) : Calm w w := ⟨rfl, rfl, rfl⟩

theorem Neutral.calm {w w' : World InMemoryConversations} (h : Neutral w w') : Calm w w' :=
  ⟨by rw [h.conversations], by rw [h.conversations], h.claims⟩

/-- **Quiet calls are calm.** -/
theorem Answers.calm {w w' : World InMemoryConversations} {o : Op} {r : Except Exn o.Res}
    (hq : Quiet o) (h : Answers o w r w') : Calm w w' := by
  refine h.keeps (Calm.refl w) ?_ fun _ _ hn => hn.calm
  cases o with
  | saveOwnership ownership => exact ⟨rfl, rfl, rfl⟩
  | audit record => exact ⟨rfl, rfl, rfl⟩
  | now | loadOwnership | demoForConversation | requestForConversation | activeHoldFor
  | loadCandidates | loadDecision | orderForConversation | activationFor => exact Calm.refl w
  | _ => exact absurd hq Bool.false_ne_true

/-- Executing a command is calm. -/
theorem Answers.calm_execute {w w' : World InMemoryConversations} {command : Command}
    {ctx : TurnContext} {payload : Facts} {r : Except Exn CommandEffect}
    (h : Answers (.execute command ctx payload) w r w') : Calm w w' :=
  (h.neutral rfl).1.calm

/-- **What saving does.** Nothing happens, and there is a conflict only if the version is
another one; or the version matches and the move is written. In both cases the call may have
raised. -/
theorem Answers.of_save {w w' : World InMemoryConversations} {result : TransitionResult}
    {now : Time} {facts : Facts} {r : Except Exn StateSnapshot}
    (h : Answers (.saveTransition result now facts) w r w') :
    (w' = w ∧ (∀ s, r ≠ .ok s) ∧ ((∃ c, r = .error (.conflict c)) →
      (w.conversations.load result.conversationRef).version ≠ result.expectedVersion)) ∨
      ((w.conversations.load result.conversationRef).version = result.expectedVersion ∧
        w' = { w with conversations := w.conversations.write result now facts } ∧
        ∀ c, r ≠ .error (.conflict c)) := by
  have hanswer : w.answer (.saveTransition result now facts) =
      if (w.conversations.load result.conversationRef).version ≠ result.expectedVersion then
        (.error (.conflict ⟨result.conversationRef, result.expectedVersion,
          (w.conversations.load result.conversationRef).version⟩), w)
      else
        (.ok (InMemoryConversations.updated (w.conversations.load result.conversationRef)
          result now facts), { w with conversations := w.conversations.write result now facts }) := by
    simp only [World.answer, ConversationRepository.saveTransition,
      InMemoryConversations.saveTransition]
    split <;> rfl
  have hcases := h.repository rfl
  rw [hanswer] at hcases
  by_cases hv : (w.conversations.load result.conversationRef).version = result.expectedVersion
  · rw [if_neg (not_not.mpr hv)] at hcases
    rcases hcases with ⟨rfl, rfl⟩ | ⟨⟨name, rfl⟩, rfl | rfl⟩
    · exact .inr ⟨hv, rfl, fun c hc => by cases hc⟩
    · exact .inl ⟨rfl, (fun s hs => by cases hs), (fun hex => by
        obtain ⟨c, hc⟩ := hex
        cases hc)⟩
    · exact .inr ⟨hv, rfl, fun c hc => by cases hc⟩
  · rw [if_pos hv] at hcases
    rcases hcases with ⟨rfl, rfl⟩ | ⟨⟨name, rfl⟩, rfl | rfl⟩
    · exact .inl ⟨rfl, (fun s hs => by cases hs), fun _ => hv⟩
    · exact .inl ⟨rfl, (fun s hs => by cases hs), fun _ => hv⟩
    · exact .inl ⟨rfl, (fun s hs => by cases hs), fun _ => hv⟩

end NxTutors.DemoAgent
