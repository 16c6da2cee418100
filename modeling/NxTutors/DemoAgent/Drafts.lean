import NxTutors.DemoAgent.Commands
import NxTutors.Effect.Guarded

/-!
# What commands have to say

A command queues what it has to say, and what it has to say depends on what it has read. A `Draft`
is a message before it is written: which of the messages it is, and the data it is about. `Drafted`
says what a command must have read to come up with a draft, and `execute_drafts`, by walking through
all commands, that whatever a command queues was written from a draft it came up with.
-/

namespace NxTutors.DemoAgent

open Effect

/-! ## What a part of a command does -/

/-- **A part of a command**, started on `ctx` after `h`: each of its calls is in `P`, and it ends in
`R`. Having raised is an ending like another. -/
def Cmd.Does {α : Type} (P : Op → Prop)
    (R : Except Exn α → TurnContext → History ports Exn → Prop) (h : History ports Exn)
    (ctx : TurnContext) (c : Cmd α) : Prop :=
  (c ctx).GuardedTo (fun _ o => P o) (fun x h' => R x.1 x.2 h') h

namespace Cmd

section Rules

variable {α β : Type} {P : Op → Prop} {R : Except Exn α → TurnContext → History ports Exn → Prop}
  {Q : Except Exn β → TurnContext → History ports Exn → Prop} {h : History ports Exn}
  {ctx : TurnContext}

theorem Does.pure {a : α} (hR : R (.ok a) ctx h) : Does P R h ctx (pure a) := hR

theorem Does.raise {name : String} (hR : R (.error (.other name)) ctx h) :
    Does P R h ctx (raise name) := hR

theorem Does.modify {f : TurnContext → TurnContext}
    {R : Except Exn Unit → TurnContext → History ports Exn → Prop} (hR : R (.ok ()) (f ctx) h) :
    Does P R h ctx (modify f) := hR

/-- The context is read. -/
theorem Does.context {f : TurnContext → Cmd β} (hf : Does P Q h ctx (f ctx)) :
    Does P Q h ctx (context >>= f) := hf

/-- One part after the other. -/
theorem Does.bind {c : Cmd α} {f : α → Cmd β} (hc : Does P R h ctx c)
    (hok : ∀ a ctx' h', R (.ok a) ctx' h' → Does P Q h' ctx' (f a))
    (herr : ∀ e ctx' h', R (.error e) ctx' h' → Q (.error e) ctx' h') :
    Does P Q h ctx (c >>= f) := by
  refine Prog.GuardedTo.bind hc fun x h' hx => ?_
  obtain ⟨r, ctx'⟩ := x
  cases r with
  | ok a => exact hok a ctx' h' hx
  | error e => exact herr e ctx' h' hx

/-- A call, and what comes after it. -/
theorem Does.call_bind {o : Op} {f : o.Res → Cmd β} (ho : P o)
    (hok : ∀ a, Does P Q (h ++ [⟨o, .ok a⟩]) ctx (f a))
    (herr : ∀ e, Q (.error e) ctx (h ++ [⟨o, .error e⟩])) :
    Does P Q h ctx (call o >>= f) := by
  refine ⟨ho, fun r => ?_⟩
  cases r with
  | ok a => exact hok a
  | error e => exact herr e

/-- A program that does not touch the context, and what comes after it. -/
theorem Does.lift_bind {p : Act α} {f : α → Cmd β} {R' : α → History ports Exn → Prop}
    (hp : p.GuardedTo (fun _ o => P o) R' h)
    (hok : ∀ a h', R' a h' → Does P Q h' ctx (f a)) (herr : ∀ e h', Q (.error e) ctx h') :
    Does P Q h ctx (lift p >>= f) := by
  have hlift : Does P (fun r ctx' h' => ctx' = ctx ∧ ∀ a, r = .ok a → R' a h') h ctx (lift p) :=
    hp.attempt.bind fun r h' hr => ⟨rfl, hr⟩
  refine hlift.bind (fun a ctx' h' hx => ?_) fun e ctx' h' hx => ?_
  · obtain ⟨rfl, hr⟩ := hx
    exact hok a h' (hr a rfl)
  · obtain ⟨rfl, -⟩ := hx
    exact herr e h'

/-- A message is queued, or it cannot be built. -/
theorem Does.queue_bind {cfg : Config} {m : OutboundMessage} {f : Unit → Cmd β}
    (hok : Does P Q h { ctx with outbox := ctx.outbox ++ [m] } (f ()))
    (herr : ∀ e, Q (.error e) ctx h) : Does P Q h ctx (queue cfg m >>= f) := by
  unfold queue
  split
  · exact hok
  · exact herr _

theorem Does.mono {R' : Except Exn α → TurnContext → History ports Exn → Prop} {c : Cmd α}
    (hc : Does P R h ctx c) (hR : ∀ r ctx' h', R r ctx' h' → R' r ctx' h') : Does P R' h ctx c :=
  Prog.GuardedTo.mono hc fun x h' hx => hR x.1 x.2 h' hx

end Rules

/-- The part raises only as a part does: it hands back how it ended. -/
def Returns {α : Type} (c : Cmd α) : Prop := ∀ ctx, (c ctx).Returns

theorem returns_lift {α : Type} (p : Act α) : Returns (lift p) :=
  fun _ => (Prog.returns_attempt p).bind fun _ => trivial

theorem Returns.bind {α β : Type} {c : Cmd α} {f : α → Cmd β} (hc : Returns c)
    (hf : ∀ a, Returns (f a)) : Returns (c >>= f) := by
  intro ctx
  refine (hc ctx).bind fun x => ?_
  obtain ⟨r, ctx'⟩ := x
  cases r with
  | ok a => exact hf a ctx'
  | error e => trivial

theorem returns_queue (cfg : Config) (m : OutboundMessage) : Returns (queue cfg m) := by
  intro ctx
  unfold queue
  split <;> trivial

/-! ## Saying nothing -/

section Silent

variable {α β : Type}

/-- The part queues nothing, wherever it ends, and writes no state. -/
def Silent (c : Cmd α) : Prop :=
  ∀ h ctx, Does (fun o : Op => o.leavesStates = true) (fun _ ctx' _ => ctx'.outbox = ctx.outbox)
    h ctx c

theorem silent_pure (a : α) : Silent (pure a) := fun _ _ => rfl

theorem silent_raise (name : String) : Silent (raise name : Cmd α) := fun _ _ => rfl

theorem silent_context : Silent context := fun _ _ => rfl

theorem silent_modify {f : TurnContext → TurnContext} (hf : ∀ ctx, (f ctx).outbox = ctx.outbox) :
    Silent (modify f) := fun _ ctx => hf ctx

theorem silent_merge (facts : List (String × Value)) : Silent (merge facts) := fun _ _ => rfl

theorem silent_degrade (note : String) : Silent (degrade note) := fun _ _ => rfl

/-- A program that does not touch the context says nothing. -/
theorem silent_lift {p : Act α} {R : α → Prop}
    (hp : p.Within (fun o : Op => o.leavesStates = true) (fun _ => True) R) : Silent (lift p) := by
  intro h ctx
  induction p generalizing h with
  | ret a => rfl
  | throw e => rfl
  | call o k ih => exact ⟨hp.1, fun r => ih r (hp.2 r fun _ _ => trivial) _⟩

theorem silent_call (o : Op) (ho : o.leavesStates = true) : Silent (call o) :=
  silent_lift (p := ask o) (Prog.within_perform ho)

theorem Silent.bind {c : Cmd α} {f : α → Cmd β} (hc : Silent c) (hf : ∀ a, Silent (f a)) :
    Silent (c >>= f) := fun h ctx =>
  (hc h ctx).bind (fun a ctx' h' heq => (hf a h' ctx').mono fun _ _ _ heq' => heq'.trans heq)
    fun _ _ _ heq => heq

theorem silent_ite {p : Prop} [Decidable p] {a b : Cmd α} (ha : Silent a) (hb : Silent b) :
    Silent (if p then a else b) := by
  split
  · exact ha
  · exact hb

end Silent

end Cmd

/-! ## Writing no state -/

section Leaves

/-- None of its calls writes the state of a conversation. -/
abbrev Leaves {α : Type} (p : Act α) : Prop :=
  p.Within (fun o : Op => o.leavesStates = true) (fun _ => True) fun _ => True

theorem leaves_ite {α : Type} {c : Prop} [Decidable c] {p q : Act α} (hp : Leaves p)
    (hq : Leaves q) : Leaves (if c then p else q) := by
  split
  · exact hp
  · exact hq

theorem hold_leaves (ref tutorRef : String) (slot : TimeSlot) (mode : DemoMode) :
    Leaves (hold ref tutorRef slot mode) := by
  refine Prog.within_perform_bind (S := ports) rfl fun (now : Time) => ?_
  refine Prog.within_perform_bind (S := ports) rfl fun (holdId : String) => ?_
  refine Prog.within_perform_bind (S := ports) rfl fun (answer : SlotAnswer) => ?_
  cases answer <;> trivial

theorem release_leaves (holdId : String) : Leaves (release holdId) := by
  refine Prog.within_perform_bind (S := ports) rfl fun (now : Time) => ?_
  exact Prog.within_perform_bind (S := ports) rfl fun _ => trivial

theorem revalidate_leaves (hold : SlotHold) : Leaves (revalidate hold) := by
  refine Prog.within_perform_bind (S := ports) rfl
    fun (answer : Except ProviderError (List TimeSlot)) => ?_
  cases answer <;> trivial

theorem book_leaves (cfg : Config) (demo : Demo) (hold : SlotHold)
    (tutorEmail studentEmail : Option String) (summary description : String) :
    Leaves (book cfg demo hold tutorEmail studentEmail summary description) := by
  refine Prog.within_perform_bind (S := ports) rfl fun (now : Time) => leaves_ite trivial ?_
  refine (revalidate_leaves hold).bind fun free _ => leaves_ite trivial ?_
  refine Prog.within_perform_bind (S := ports) rfl fun (requestId : String) => ?_
  refine Prog.within_perform_bind (S := ports) rfl
    fun (answer : Except ProviderError CreatedEvent) => ?_
  cases answer with
  | error e => trivial
  | ok created =>
    refine leaves_ite trivial (leaves_ite ?_ ?_)
    · refine Prog.within_perform_bind (S := ports) rfl
        fun (answer : Except ProviderError Unit) => ?_
      cases answer <;> trivial
    · refine Prog.within_perform_bind (S := ports) rfl fun _ => ?_
      exact Prog.within_perform_bind (S := ports) rfl fun _ => trivial

theorem reschedule_leaves (demo : Demo) (slot : TimeSlot) : Leaves (reschedule demo slot) := by
  refine Prog.within_perform_bind (S := ports) rfl fun _ => ?_
  split
  · trivial
  · split
    · trivial
    · refine Prog.within_perform_bind (S := ports) rfl
        fun (answer : Except ProviderError Unit) => ?_
      cases answer with
      | error e => trivial
      | ok => exact Prog.within_perform_bind (S := ports) rfl fun _ => trivial

theorem cancel_leaves (demo : Demo) : Leaves (cancel demo) := by
  refine Prog.within_perform_bind (S := ports) rfl fun (now : Time) => ?_
  have hsave : Leaves (ask (.saveDemo { demo with cancelledAt := some now })) :=
    Prog.within_perform (S := ports) (P := fun o : Op => o.leavesStates = true) rfl
  split
  · exact hsave
  · split
    · exact hsave
    · exact Prog.within_perform_bind (S := ports) rfl fun _ => hsave

theorem named_leaves (ladder : List (String → ScheduledReminder)) : Leaves (named ladder) := by
  induction ladder with
  | nil => trivial
  | cons reminder rest ih =>
    refine Prog.within_perform_bind (S := ports) rfl fun (reminderId : String) => ?_
    exact ih.bind fun _ _ => trivial

theorem plan_leaves (cfg : Config) (demo : Demo) : Leaves (plan cfg demo) := by
  refine Prog.within_perform_bind (S := ports) rfl fun (now : Time) => ?_
  exact (named_leaves _).bind fun _ _ => trivial

theorem scheduleAll_leaves (demoId : String) (reminders : List ScheduledReminder) :
    Leaves (scheduleAll demoId reminders) := by
  induction reminders with
  | nil => trivial
  | cons reminder rest ih => exact Prog.within_perform_bind (S := ports) rfl fun _ => ih

theorem activateOrder_leaves (cfg : Config) (order : PaymentOrder) :
    Leaves (activateOrder cfg order) := by
  refine Prog.within_perform_bind (S := ports) rfl fun _ => ?_
  refine Prog.within_perform_bind (S := ports) rfl
    fun (previous : Option SubscriptionActivation) => ?_
  split
  · trivial
  · refine Prog.within_perform_bind (S := ports) rfl
      fun (answer : Except ProviderError String) => ?_
    cases answer with
    | error e => exact Prog.within_perform_bind (S := ports) rfl fun _ => trivial
    | ok subscriptionRef =>
      dsimp only
      split <;> exact Prog.within_perform_bind (S := ports) rfl fun _ => trivial

end Leaves

open Cmd

section Commands

variable (cfg : Config) (payload : Facts)

theorem emit_silent (event : DomainEvent) (entries : List (String × Value)) :
    Silent (emit cfg event entries) := by
  refine silent_context.bind fun ctx => ?_
  refine (silent_call _ rfl).bind fun outboxId => ?_
  exact (silent_call _ rfl).bind fun _ => silent_pure ()

theorem resolveIdentity_silent : Silent (resolveIdentity payload) := by
  refine silent_context.bind fun ctx => ?_
  refine (silent_call _ rfl).bind fun (answer : Except ProviderError (Option String)) => ?_
  cases answer with
  | error e => exact (silent_degrade _).bind fun _ => silent_pure _
  | ok studentRef => exact Silent.bind (silent_modify fun _ => rfl) fun _ => silent_pure _

theorem requestMatch_silent (excludeSeen : Bool) : Silent (requestMatch excludeSeen) := by
  refine silent_context.bind fun ctx => ?_
  refine (silent_call _ rfl).bind fun (request : Option DemoRequest) => ?_
  cases request with
  | none => exact silent_pure _
  | some request =>
    refine silent_ite (silent_pure _) ?_
    refine (silent_call _ rfl).bind fun (seen : List TutorCandidate) => ?_
    refine silent_ite (silent_raise _) ?_
    refine (silent_call _ rfl).bind fun (answer : Except ProviderError TutorMatchResult) => ?_
    cases answer with
    | error e => exact (silent_degrade _).bind fun _ => silent_pure _
    | ok result =>
      refine silent_ite ?_ ?_
      · exact Silent.bind (silent_modify fun _ => rfl) fun _ => silent_pure _
      · refine (silent_call _ rfl).bind fun _ => ?_
        exact (silent_merge _).bind fun _ => silent_pure _

theorem ensureDemo_silent (tutorRef : String) (mode : DemoMode) :
    Silent (ensureDemo tutorRef mode) := by
  refine silent_context.bind fun ctx => ?_
  refine (silent_call _ rfl).bind fun (existing : Option Demo) => ?_
  refine (silent_call _ rfl).bind fun (request : Option DemoRequest) => ?_
  cases existing with
  | some demo => exact silent_call _ rfl
  | none =>
    refine (silent_call _ rfl).bind fun demoId => ?_
    exact (silent_call _ rfl).bind fun _ => silent_modify fun _ => rfl

theorem placeHold_silent : Silent (placeHold cfg payload) := by
  refine silent_context.bind fun ctx => ?_
  cases hslot : (payload.get "slot").slot? with
  | none => exact silent_pure _
  | some slot =>
    dsimp only
    refine silent_ite (silent_pure _) (silent_ite (silent_pure _) ?_)
    refine (silent_call _ rfl).bind fun (request : Option DemoRequest) => ?_
    refine (silent_lift (hold_leaves _ _ _ _)).bind fun (placed : Option SlotHold) => ?_
    cases placed with
    | none => exact silent_pure _
    | some placed =>
      refine (ensureDemo_silent _ _).bind fun _ => ?_
      refine (silent_merge _).bind fun _ => ?_
      exact (emit_silent _ _ _).bind fun _ => silent_pure _

theorem releaseHold_silent : Silent releaseHold := by
  refine silent_context.bind fun ctx => silent_ite (silent_pure _) ?_
  refine (silent_lift (release_leaves _)).bind fun _ => ?_
  exact (silent_merge _).bind fun _ => silent_pure _

theorem patchEvent_silent (demo : Demo) (hold : SlotHold) : Silent (patchEvent cfg demo hold) := by
  refine silent_context.bind fun ctx => ?_
  refine (silent_lift (reschedule_leaves _ _)).bind fun (result : BookingResult) => ?_
  obtain ⟨moved, eventId, meetUrl, failed, reason⟩ := result
  cases moved with
  | none => exact silent_pure _
  | some moved =>
    refine silent_ite (silent_pure _) ?_
    refine (silent_call _ rfl).bind fun _ => ?_
    refine (silent_merge _).bind fun _ => ?_
    exact (emit_silent _ _ _).bind fun _ => silent_pure _

theorem tutorAddress_silent (demo : Demo) : Silent (tutorAddress demo) := by
  unfold tutorAddress
  cases demo.tutorRef with
  | none => exact silent_pure _
  | some tutorRef =>
    refine silent_ite (silent_pure _) ?_
    refine (silent_call _ rfl).bind fun (answer : Except ProviderError (Option String)) => ?_
    cases answer with
    | error e => exact silent_pure _
    | ok email => exact silent_pure _

theorem inviteEmails_silent (demo : Demo) : Silent (inviteEmails demo) :=
  (tutorAddress_silent demo).bind fun _ => silent_pure _

theorem namedHold_silent (ctx : TurnContext) : Silent (namedHold ctx) := by
  refine silent_ite (silent_pure _) ?_
  refine (silent_call _ rfl).bind fun (answer : SlotAnswer) => ?_
  cases answer with
  | found hold => exact silent_pure _
  | placed | conflict | expired | done => exact silent_pure _

theorem createEvent_silent : Silent (createEvent cfg) := by
  refine silent_context.bind fun ctx => ?_
  refine (silent_call _ rfl).bind fun (demo : Option Demo) => ?_
  refine (namedHold_silent ctx).bind fun hold => ?_
  cases demo with
  | none => exact silent_pure _
  | some demo =>
    cases hold with
    | none => exact silent_pure _
    | some hold =>
      refine silent_ite (patchEvent_silent cfg demo hold) ?_
      refine (inviteEmails_silent demo).bind fun emails => ?_
      obtain ⟨tutorEmail, studentEmail⟩ := emails
      refine (silent_lift (book_leaves _ _ _ _ _ _ _)).bind fun (booking : BookingResult) => ?_
      obtain ⟨booked, eventId, meetUrl, failed, reason⟩ := booking
      cases booked with
      | none => exact silent_pure _
      | some booked =>
        refine silent_ite (silent_pure _) ?_
        refine (silent_merge _).bind fun _ => ?_
        exact (emit_silent _ _ _).bind fun _ => silent_pure _

theorem cancelEvent_silent : Silent cancelEvent := by
  refine silent_context.bind fun ctx => ?_
  refine (silent_call _ rfl).bind fun (demo : Option Demo) => ?_
  cases demo with
  | none => exact silent_pure _
  | some demo => exact (silent_lift (cancel_leaves _)).bind fun _ => silent_pure _

theorem scheduleReminders_silent : Silent (scheduleReminders cfg) := by
  refine silent_context.bind fun ctx => silent_ite (silent_pure _) ?_
  refine (silent_call _ rfl).bind fun (demo : Option Demo) => ?_
  cases demo with
  | none => exact silent_pure _
  | some demo =>
    refine (silent_lift (plan_leaves _ _)).bind fun planned => ?_
    refine (silent_call _ rfl).bind fun _ => ?_
    exact (silent_lift (scheduleAll_leaves _ _)).bind fun _ => silent_pure _

theorem cancelReminders_silent : Silent cancelReminders := by
  refine silent_context.bind fun ctx => silent_ite (silent_pure _) ?_
  exact (silent_call _ rfl).bind fun _ => silent_pure _

theorem captureOutcome_silent : Silent captureOutcome := by
  refine silent_context.bind fun ctx => ?_
  refine (silent_call _ rfl).bind fun (demo : Option Demo) => ?_
  cases demo with
  | none => exact silent_pure _
  | some demo =>
    refine silent_ite (silent_pure _) ?_
    refine (silent_call _ rfl).bind fun (answer : Except ProviderError CalendarEvent) => ?_
    cases answer with
    | error e => exact (silent_degrade _).bind fun _ => silent_pure _
    | ok event =>
      refine (silent_merge _).bind fun _ => ?_
      exact (silent_call _ rfl).bind fun _ => silent_pure _

theorem postDemoAnalysis_silent : Silent (postDemoAnalysis cfg payload) := by
  refine silent_context.bind fun ctx => ?_
  refine (silent_call _ rfl).bind fun (demo : Option Demo) => ?_
  cases demo with
  | none => exact silent_pure _
  | some demo =>
    refine (silent_call _ rfl).bind fun _ => ?_
    exact (emit_silent _ _ _).bind fun _ => silent_pure _

theorem namedOrder_silent (ctx : TurnContext) : Silent (namedOrder ctx payload) :=
  silent_ite (silent_pure _) (silent_call _ rfl)

theorem activate_silent : Silent (activate cfg payload) := by
  refine silent_context.bind fun ctx => ?_
  refine (namedOrder_silent payload ctx).bind fun order => ?_
  cases order with
  | none => exact silent_pure _
  | some order =>
    refine (silent_lift (activateOrder_leaves _ _)).bind fun result => ?_
    obtain ⟨activation, needsHuman⟩ := result
    refine silent_ite (silent_pure _) ?_
    refine Silent.bind (silent_modify fun _ => rfl) fun _ => ?_
    exact (emit_silent _ _ _).bind fun _ => silent_pure _

theorem handoffOnboarding_silent : Silent (handoffOnboarding cfg) := by
  refine silent_context.bind fun ctx => silent_ite (silent_pure _) ?_
  refine (silent_call _ rfl).bind fun (claimed : Bool) => silent_ite (silent_pure _) ?_
  exact (emit_silent _ _ _).bind fun _ => silent_pure _

theorem raiseHumanCase_silent : Silent (raiseHumanCase cfg payload) := by
  refine silent_context.bind fun ctx => ?_
  refine (silent_call _ rfl).bind fun (caseId : String) => ?_
  exact (emit_silent _ _ _).bind fun _ => silent_pure _

end Commands

/-! ## Drafts -/

/-- A message before it is written: which it is, and what it is about. -/
inductive Draft
  | question (first : String) (count : Nat)
  | tutorOptions (session : String) (candidates : List TutorCandidate)
  | slotProposal (tutorRef : String) (proposals : List SlotProposal)
  | tutorRequest (demo : Demo) (tutor : DemoAttendee)
  | tutorExpired (demo : Demo) (tutor : DemoAttendee)
  | confirmation (demo : Demo)
  | followup (demo : Demo) (body : String)
  | paymentLink (orderRef : String) (offer : ApprovedOffer) (link : String)
  | welcome (subscriptionRef : String)
  | cancellation (demo : Option Demo)

namespace Draft

def kind : Draft → MessageKind
  | question .. => .question
  | tutorOptions .. => .tutorOptions
  | slotProposal .. => .slotProposal
  | tutorRequest .. | tutorExpired .. => .tutorRequest
  | confirmation _ => .confirmation
  | followup .. => .followup
  | paymentLink .. => .paymentLink
  | welcome _ => .welcome
  | cancellation _ => .cancellation

/-- The parts of its key. -/
def keyParts (ref : String) : Draft → List String
  | question first count => [ref, "ask", first, toString count]
  | tutorOptions session _ => [ref, "options", session]
  | slotProposal tutorRef proposals => [ref, "slots", tutorRef, toString proposals.length]
  | tutorRequest demo _ => ["tutor_req", demo.demoId, toString demo.revision]
  | tutorExpired demo _ => ["tutor_expired", demo.demoId, toString demo.revision]
  | confirmation demo => [ref, "confirm", demo.demoId, toString demo.revision]
  | followup demo _ => [ref, "followup", demo.demoId, toString demo.revision]
  | paymentLink orderRef _ _ => [ref, "pay", orderRef]
  | welcome subscriptionRef => [ref, "welcome", subscriptionRef]
  | cancellation demo => [ref, "cancel", (demo.map (·.demoId)).getD ref]

def recipient (ref : String) : Draft → String
  | tutorRequest _ tutor | tutorExpired _ tutor => tutor.ref
  | _ => ref

def body (cfg : Config) : Draft → String
  | question first _ => askFor first none
  | tutorOptions _ candidates => DemoAgent.tutorOptions cfg candidates
  | slotProposal _ proposals => slotOptions cfg proposals
  | tutorRequest .. | tutorExpired .. => ""
  | confirmation demo => DemoAgent.confirmation cfg demo
  | followup _ body => body
  | paymentLink _ offer link => paymentLinkText offer link
  | welcome _ => DemoAgent.welcome
  | cancellation demo => DemoAgent.cancellation cfg demo

/-- The template it is bound to, if there is one. -/
def template (cfg : Config) : Draft → Option TemplateBinding
  | tutorRequest demo _ => tutorConfirmationTemplate cfg demo
  | tutorExpired demo _ =>
    (Template.bind cfg.tables TEMPLATE_TUTOR_REQUEST_EXPIRED demo.language.value
      [demo.demoId]).toOption
  | confirmation demo => windowSafeTemplate cfg .confirmation (some demo)
  | followup demo _ => windowSafeTemplate cfg .followup (some demo)
  | cancellation demo => windowSafeTemplate cfg .cancellation demo
  | _ => none

end Draft

/-- The message was written from the draft, for a conversation. -/
structure WrittenFrom (cfg : Config) (ref : String) (d : Draft) (m : OutboundMessage) : Prop where
  kind : m.kind = d.kind
  key : m.idempotencyKey = cfg.idempotencyKey (d.keyParts ref)
  recipient : m.recipientRef = d.recipient ref
  body : m.body = d.body cfg
  template : m.template = d.template cfg

/-- The order to be paid, and the link to pay it: of an order that is there already, or of the one
that was placed. -/
def Linked (cfg : Config) (offer : ApprovedOffer) (h : History ports Exn)
    (orderRef link : String) : Prop :=
  (∃ order : PaymentOrder, ⟨.orderForConversation offer.conversationRef, .ok (some order)⟩ ∈ h ∧
    orderRef = order.orderRef ∧ link = order.paymentLink) ∨
  ∃ (order : PaymentOrder) (rawLink : String), ⟨.placeOrder order offer, .ok (.ok rawLink)⟩ ∈ h ∧
    orderRef = order.orderRef ∧ cfg.paymentLink rawLink = some link

/-- **What a command comes up with**, having been started on `ctx` with `payload` and having made
the calls in `h`. -/
inductive Drafted (cfg : Config) (ctx : TurnContext) (payload : Facts) (h : History ports Exn) :
    Command → Draft → Prop
  | question {request : Option DemoRequest} {first : String} {rest : List String}
      (hread : ⟨.requestForConversation ctx.conversationRef, .ok request⟩ ∈ h)
      (hmissing : missingOf request = first :: rest) :
      Drafted cfg ctx payload h .askMissingRequirements (.question first (rest.length + 1))
  | tutorOptions {candidates : List TutorCandidate}
      (hread : ⟨.loadCandidates ctx.conversationRef, .ok candidates⟩ ∈ h) :
      Drafted cfg ctx payload h .presentTutorOptions
        (.tutorOptions ((ctx.facts "match_session_id").getD (.str "")).text candidates)
  | slotProposal {tutorRef : String} {request : Option DemoRequest} {now : Time}
      {available : List TimeSlot} (htutor : tutorRef = (ctx.facts.get "tutor_ref").textOrEmpty)
      (hrequest : ⟨.requestForConversation ctx.conversationRef, .ok request⟩ ∈ h)
      (hread : ⟨.tutorAvailability tutorRef now (now + SEARCH_HORIZON), .ok (.ok available)⟩ ∈ h) :
      Drafted cfg ctx payload h .proposeSlots
        (.slotProposal tutorRef
          (rankSlots cfg (available.filter fun slot => (slot.bookableFrom now).isNone)
            (payload.get "preferred_slot").slot?
            ((request.map (·.requirement.timezone)).getD "Asia/Kolkata") now))
  | tutorRequest {demo : Demo} {tutor : DemoAttendee}
      (hread : ⟨.demoForConversation ctx.conversationRef, .ok (some demo)⟩ ∈ h)
      (htutor : demo.attendee .tutor = some tutor) :
      Drafted cfg ctx payload h .requestTutorConfirmation (.tutorRequest demo tutor)
  | tutorExpired {demo : Demo} {tutor : DemoAttendee}
      (hread : ⟨.demoForConversation ctx.conversationRef, .ok (some demo)⟩ ∈ h)
      (htutor : demo.attendee .tutor = some tutor) :
      Drafted cfg ctx payload h .tryFallbackTutor (.tutorExpired demo tutor)
  | confirmation {demo : Demo}
      (hread : ⟨.demoForConversation ctx.conversationRef, .ok (some demo)⟩ ∈ h) :
      Drafted cfg ctx payload h .sendConfirmation (.confirmation demo)
  | followup {demo : Demo} {offer : Option ApprovedOffer} {body : String}
      (hread : ⟨.demoForConversation ctx.conversationRef, .ok (some demo)⟩ ∈ h)
      (hbody : ⟨.composeFollowup demo offer payload ctx.now, .ok body⟩ ∈ h) :
      Drafted cfg ctx payload h .sendFollowup (.followup demo body)
  | paymentLink {demoId : String} {decision : DiscountDecision} {offer : ApprovedOffer}
      {orderRef link : String} (hread : ⟨.loadDecision demoId, .ok (some decision)⟩ ∈ h)
      (hoffer : decision.approve ctx.now = .ok offer)
      (hlink : Linked cfg offer h orderRef link) :
      Drafted cfg ctx payload h .createPaymentOrder (.paymentLink orderRef offer link)
  | welcome : Drafted cfg ctx payload h .sendWelcome
      (.welcome (ctx.facts.get "subscription_ref").textOrEmpty)
  | cancellation {demo : Option Demo}
      (hread : ⟨.demoForConversation ctx.conversationRef, .ok demo⟩ ∈ h) :
      Drafted cfg ctx payload h .notifyCancellation (.cancellation demo)

theorem Drafted.mono {cfg : Config} {ctx : TurnContext} {payload : Facts}
    {h h' : History ports Exn} {command : Command} {d : Draft}
    (hd : Drafted cfg ctx payload h command d) (hle : h <+: h') :
    Drafted cfg ctx payload h' command d := by
  cases hd with
  | question hread hmissing => exact .question (hle.mem hread) hmissing
  | tutorOptions hread => exact .tutorOptions (hle.mem hread)
  | slotProposal htutor hrequest hread =>
    exact .slotProposal htutor (hle.mem hrequest) (hle.mem hread)
  | tutorRequest hread htutor => exact .tutorRequest (hle.mem hread) htutor
  | tutorExpired hread htutor => exact .tutorExpired (hle.mem hread) htutor
  | confirmation hread => exact .confirmation (hle.mem hread)
  | followup hread hbody => exact .followup (hle.mem hread) (hle.mem hbody)
  | paymentLink hread hoffer hlink =>
    refine .paymentLink (hle.mem hread) hoffer (hlink.imp ?_ ?_)
    · exact fun ⟨order, horder, hrest⟩ => ⟨order, hle.mem horder, hrest⟩
    · exact fun ⟨order, rawLink, hplaced, hrest⟩ => ⟨order, rawLink, hle.mem hplaced, hrest⟩
  | welcome => exact .welcome
  | cancellation hread => exact .cancellation (hle.mem hread)

/-! ## What commands queue -/

/-- What has been queued so far was written from drafts the command came up with. -/
def Says (cfg : Config) (command : Command) (payload : Facts) (start ctx : TurnContext)
    (h : History ports Exn) : Prop :=
  ∃ messages, ctx.outbox = start.outbox ++ messages ∧ ∀ m ∈ messages,
    ∃ d, Drafted cfg start payload h command d ∧ WrittenFrom cfg start.conversationRef d m

/-- A part of a command that goes on saying only that, and writes no state. -/
abbrev Cmd.Talks {α : Type} (cfg : Config) (command : Command) (payload : Facts)
    (start : TurnContext) (h : History ports Exn) (ctx : TurnContext) (c : Cmd α) : Prop :=
  Cmd.Does (fun o : Op => o.leavesStates = true)
    (fun _ ctx' h' => Says cfg command payload start ctx' h') h ctx c

section Saying

variable {cfg : Config} {command : Command} {payload : Facts} {start ctx : TurnContext}
  {h h' : History ports Exn} {α β : Type}

theorem Says.mono {ctx' : TurnContext} (hs : Says cfg command payload start ctx h)
    (hle : h <+: h') (houtbox : ctx'.outbox = ctx.outbox) :
    Says cfg command payload start ctx' h' := by
  obtain ⟨messages, hmessages, hdrafts⟩ := hs
  refine ⟨messages, houtbox.trans hmessages, fun m hm => ?_⟩
  obtain ⟨d, hd, hwritten⟩ := hdrafts m hm
  exact ⟨d, hd.mono hle, hwritten⟩

theorem says_start : Says cfg command payload start start h :=
  ⟨[], (List.append_nil _).symm, fun _ hm => absurd hm List.not_mem_nil⟩

/-- A call, and what comes after it. -/
theorem Talks.call_bind {o : Op} {f : o.Res → Cmd β} (ho : o.leavesStates = true)
    (hs : Says cfg command payload start ctx h)
    (hf : ∀ a, Cmd.Talks cfg command payload start (h ++ [⟨o, .ok a⟩]) ctx (f a)) :
    Cmd.Talks cfg command payload start h ctx (Cmd.call o >>= f) :=
  .call_bind ho hf fun _ => hs.mono (List.prefix_append _ _) rfl

/-- A part that says nothing. -/
theorem Talks.silent {c : Cmd α} (hc : Silent c) (hs : Says cfg command payload start ctx h) :
    Cmd.Does (fun o : Op => o.leavesStates = true)
      (fun _ ctx' h' => h <+: h' ∧ Says cfg command payload start ctx' h') h ctx c :=
  Prog.GuardedTo.mono (Prog.GuardedTo.history (hc h ctx))
    fun _ _ ⟨houtbox, hle⟩ => ⟨hle, hs.mono hle houtbox⟩

/-- A part that says nothing, and what comes after it. -/
theorem Talks.silent_bind {c : Cmd α} {f : α → Cmd β} (hc : Silent c)
    (hs : Says cfg command payload start ctx h)
    (hf : ∀ a ctx' h', h <+: h' → Says cfg command payload start ctx' h' →
      Cmd.Talks cfg command payload start h' ctx' (f a)) :
    Cmd.Talks cfg command payload start h ctx (c >>= f) :=
  (Talks.silent hc hs).bind (fun a ctx' h' hx => hf a ctx' h' hx.1 hx.2) fun _ _ _ hx => hx.2

/-- A message that was written from a draft is queued. -/
theorem Talks.queue {m : OutboundMessage} {d : Draft}
    (hs : Says cfg command payload start ctx h) (hd : Drafted cfg start payload h command d)
    (hm : WrittenFrom cfg start.conversationRef d m) :
    Cmd.Talks cfg command payload start h ctx (Cmd.queue cfg m) := by
  unfold Cmd.queue
  split
  · obtain ⟨messages, hmessages, hdrafts⟩ := hs
    refine Cmd.Does.modify ⟨messages ++ [m], ?_, fun m' hm' => ?_⟩
    · dsimp only
      rw [hmessages, List.append_assoc]
    · rcases List.mem_append.mp hm' with hm' | hm'
      · exact hdrafts m' hm'
      · obtain rfl := List.mem_singleton.mp hm'
        exact ⟨d, hd, hm⟩
  · exact .raise hs

/-- The same, and what comes after it. -/
theorem Talks.queue_bind {m : OutboundMessage} {d : Draft} {f : Unit → Cmd β}
    (hs : Says cfg command payload start ctx h) (hd : Drafted cfg start payload h command d)
    (hm : WrittenFrom cfg start.conversationRef d m)
    (hf : ∀ ctx' h', Says cfg command payload start ctx' h' →
      Cmd.Talks cfg command payload start h' ctx' (f ())) :
    Cmd.Talks cfg command payload start h ctx (Cmd.queue cfg m >>= f) :=
  (Talks.queue hs hd hm).bind (fun _ ctx' h' hs' => hf ctx' h' hs') fun _ _ _ hs' => hs'

/-- A message composed for the conversation is written from the draft of its kind. -/
theorem writtenFrom_compose {d : Draft} {kind : MessageKind} {body : String}
    {keyParts : List String} {buttons : List Button} {demoId : Option String} {demo : Option Demo}
    (hkind : kind = d.kind) (hkey : start.conversationRef :: keyParts = d.keyParts start.conversationRef)
    (hrecipient : d.recipient start.conversationRef = start.conversationRef)
    (hbody : body = d.body cfg) (htemplate : windowSafeTemplate cfg kind demo = d.template cfg) :
    WrittenFrom cfg start.conversationRef d
      (composeMessage cfg start kind start.conversationRef body keyParts buttons demoId demo) :=
  ⟨hkind, congrArg cfg.idempotencyKey hkey, hrecipient.symm, hbody, htemplate⟩

theorem askRequirements_talks :
    Cmd.Talks cfg .askMissingRequirements payload ctx h ctx (askRequirements cfg) := by
  refine .context (Talks.call_bind rfl says_start fun (request : Option DemoRequest) => ?_)
  cases hmissing : missingOf request with
  | nil =>
    dsimp only
    exact .pure says_start
  | cons first rest =>
    dsimp only
    exact Talks.queue_bind says_start (.question (by simp) hmissing)
      (writtenFrom_compose rfl rfl rfl rfl rfl) fun _ _ hs => .pure hs

theorem presentOptions_talks :
    Cmd.Talks cfg .presentTutorOptions payload ctx h ctx (presentOptions cfg) := by
  refine .context (Talks.call_bind rfl says_start fun (candidates : List TutorCandidate) => ?_)
  split
  · exact .pure says_start
  · exact Talks.queue_bind says_start (.tutorOptions (by simp))
      (writtenFrom_compose rfl rfl rfl rfl rfl) fun _ _ hs => .pure hs

/-- What is proposed is ranked among what the tutor is available for. -/
theorem propose_reads {tutorRef timezone : String} {preferred : Option TimeSlot} :
    (propose cfg tutorRef preferred timezone).GuardedTo (fun _ (o : Op) => o.leavesStates = true)
      (fun result h' =>
      h <+: h' ∧ (result.proposals = [] ∨ ∃ (now : Time) (available : List TimeSlot),
        ⟨.tutorAvailability tutorRef now (now + SEARCH_HORIZON), .ok (.ok available)⟩ ∈ h' ∧
        result.proposals = rankSlots cfg
          (available.filter fun slot => (slot.bookableFrom now).isNone) preferred timezone now))
      h := by
  have hreads : (propose cfg tutorRef preferred timezone).GuardedTo
        (fun _ (o : Op) => o.leavesStates = true)
      (fun result h' => result.proposals = [] ∨ ∃ (now : Time) (available : List TimeSlot),
        ⟨.tutorAvailability tutorRef now (now + SEARCH_HORIZON), .ok (.ok available)⟩ ∈ h' ∧
        result.proposals = rankSlots cfg
          (available.filter fun slot => (slot.bookableFrom now).isNone) preferred timezone now)
      h := by
    refine Prog.guardedTo_perform_bind (S := ports) rfl fun (now : Time) => ?_
    refine Prog.guardedTo_perform_bind (S := ports) rfl
      fun (answer : Except ProviderError (List TimeSlot)) => ?_
    cases answer with
    | error e => exact .inl rfl
    | ok available =>
      dsimp only
      split
      · exact .inl rfl
      · exact .inr ⟨now, available, by simp, rfl⟩
  exact hreads.history.mono fun _ _ hR => ⟨hR.2, hR.1⟩

theorem proposeSlots_talks :
    Cmd.Talks cfg .proposeSlots payload ctx h ctx (proposeSlots cfg payload) := by
  refine .context ?_
  split
  · exact .pure says_start
  · dsimp only
    split
    · exact .pure says_start
    · refine Talks.call_bind rfl says_start fun (request : Option DemoRequest) => ?_
      refine Cmd.Does.lift_bind propose_reads (fun (proposed : ProposalResult) h' ⟨hle, hread⟩ => ?_)
        fun _ _ => says_start
      refine Talks.silent_bind (Cmd.silent_modify fun _ => rfl) says_start
        fun _ ctx' h'' hle' hs => ?_
      split
      · exact .pure hs
      · rename_i hproposed
        obtain ⟨now, available, havailable, hranked⟩ := hread.resolve_left hproposed
        refine Talks.queue_bind (d := .slotProposal _ proposed.proposals) hs ?_
          (writtenFrom_compose rfl rfl rfl rfl rfl) fun _ _ hs => .pure hs
        rw [hranked]
        exact .slotProposal rfl ((hle.trans hle').mem (by simp)) (hle'.mem havailable)

theorem requestTutorConfirmation_talks :
    Cmd.Talks cfg .requestTutorConfirmation payload ctx h ctx (requestTutorConfirmation cfg) := by
  refine .context (Talks.call_bind rfl says_start fun (demo : Option Demo) => ?_)
  cases demo with
  | none => exact .pure says_start
  | some demo =>
    dsimp only
    split
    · exact .pure says_start
    · split
      · exact Talks.silent_bind (Cmd.silent_degrade _) says_start fun _ _ _ _ hs => .pure hs
      · rename_i binding hbinding
        split
        · exact .pure says_start
        · rename_i tutor htutor
          refine Talks.queue_bind says_start (.tutorRequest (by simp) htutor)
            ⟨rfl, rfl, rfl, rfl, hbinding.symm⟩ fun ctx' h' hs => ?_
          exact Talks.call_bind rfl hs fun _ => .pure (hs.mono (List.prefix_append _ _) rfl)

/-- On an expiry the tutor of the demo is told, and nobody else. -/
theorem notifyRequestExpired_talks :
    Cmd.Talks cfg .tryFallbackTutor payload ctx h ctx (notifyRequestExpired cfg) := by
  refine .context ?_
  split
  · exact .pure says_start
  · refine Talks.call_bind rfl says_start fun (demo : Option Demo) => ?_
    cases demo with
    | none => exact .pure says_start
    | some demo =>
      dsimp only
      split
      · exact .pure says_start
      · rename_i tutor htutor
        split
        · exact (Talks.silent (Cmd.silent_degrade _) says_start).mono fun _ _ _ hx => hx.2
        · rename_i binding hbinding
          have htemplate : (Draft.tutorExpired demo tutor).template cfg = some binding := by
            rw [Draft.template, hbinding]
            rfl
          exact Talks.queue says_start (.tutorExpired (by simp) htutor)
            ⟨rfl, rfl, rfl, rfl, htemplate.symm⟩

theorem tryFallback_talks :
    Cmd.Talks cfg .tryFallbackTutor payload ctx h ctx (tryFallback cfg) := by
  refine Cmd.Does.bind notifyRequestExpired_talks (fun _ ctx' h' hs => ?_) fun _ _ _ hs => hs
  refine Talks.silent_bind releaseHold_silent hs fun _ ctx'' h'' _ hs => ?_
  exact (Talks.silent (requestMatch_silent true) hs).mono fun _ _ _ hx => hx.2

theorem sendConfirmation_talks :
    Cmd.Talks cfg .sendConfirmation payload ctx h ctx (sendConfirmation cfg) := by
  refine .context (Talks.call_bind rfl says_start fun (demo : Option Demo) => ?_)
  cases demo with
  | none => exact .pure says_start
  | some demo =>
    dsimp only
    split
    · exact .pure says_start
    · exact Talks.queue_bind says_start (.confirmation (by simp))
        (writtenFrom_compose rfl rfl rfl rfl rfl) fun _ _ hs => .pure hs

theorem sendFollowup_talks :
    Cmd.Talks cfg .sendFollowup payload ctx h ctx (sendFollowup cfg payload) := by
  refine .context (Talks.call_bind rfl says_start fun (demo : Option Demo) => ?_)
  cases demo with
  | none => exact .pure says_start
  | some demo =>
    refine Talks.call_bind rfl says_start fun (decision : Option DiscountDecision) => ?_
    refine Talks.call_bind rfl says_start fun (body : String) => ?_
    exact Talks.queue_bind says_start
      (@Drafted.followup cfg ctx payload _ demo (mentioned decision ctx.now) body (by simp) (by simp))
      (writtenFrom_compose rfl rfl rfl rfl rfl) fun _ _ hs => .pure hs

/-- The order of an offer is one that is there, or the one that is placed. -/
theorem createOrder_reads {offer : ApprovedOffer} :
    (createOrder cfg offer).GuardedTo (fun _ (o : Op) => o.leavesStates = true)
      (fun result h' => h <+: h' ∧
      ∀ order, result.order = some order →
        Linked cfg offer h' order.orderRef result.paymentLink) h := by
  have hreads : (createOrder cfg offer).GuardedTo (fun _ (o : Op) => o.leavesStates = true)
    (fun result h' =>
      ∀ order, result.order = some order →
        Linked cfg offer h' order.orderRef result.paymentLink) h := by
    refine Prog.guardedTo_perform_bind (S := ports) rfl fun (now : Time) => ?_
    refine Prog.guardedTo_perform_bind (S := ports) rfl fun (existing : Option PaymentOrder) => ?_
    dsimp only
    split
    · rename_i order hfilter
      intro order' horder
      cases horder
      obtain ⟨hexisting, -⟩ := Option.filter_eq_some_iff.mp hfilter
      exact .inl ⟨order, by simp [hexisting], rfl, rfl⟩
    · refine Prog.guardedTo_perform_bind (S := ports) rfl fun (orderRef : String) => ?_
      dsimp only
      split
      · trivial
      · rename_i order horder
        refine Prog.guardedTo_perform_bind (S := ports) rfl
          fun (answer : Except ProviderError String) => ?_
        cases answer with
        | error e => exact nofun
        | ok rawLink =>
          dsimp only
          split
          · exact nofun
          · rename_i link hlink
            refine Prog.guardedTo_perform_bind (S := ports) rfl fun _ => ?_
            intro order' horder'
            cases horder'
            exact .inr ⟨order, rawLink, by simp, rfl, hlink⟩
  exact hreads.history.mono fun _ _ hR => ⟨hR.2, hR.1⟩

theorem createPaymentOrder_talks :
    Cmd.Talks cfg .createPaymentOrder payload ctx h ctx (createPaymentOrder cfg) := by
  refine .context ?_
  split
  · exact .pure says_start
  · refine Talks.call_bind rfl says_start fun (demo : Option Demo) => ?_
    cases demo with
    | none => exact .pure says_start
    | some demo =>
      refine Talks.call_bind rfl says_start fun (decision : Option DiscountDecision) => ?_
      cases decision with
      | none => exact .pure says_start
      | some decision =>
        dsimp only
        split
        · exact .pure says_start
        · rename_i offer hoffer
          refine Cmd.Does.lift_bind createOrder_reads
            (fun (result : OrderResult) h' ⟨hle, hlinked⟩ => ?_) fun _ _ => says_start
          cases horder : result.order with
          | none =>
            dsimp only
            exact .pure says_start
          | some order =>
            dsimp only
            split
            · exact .pure says_start
            · have hread : (⟨.loadDecision demo.demoId, .ok (some decision)⟩ : Call ports Exn) ∈ h' :=
                hle.mem (by simp)
              refine Talks.queue_bind says_start
                (.paymentLink hread hoffer (hlinked order horder))
                (writtenFrom_compose rfl rfl rfl rfl rfl) fun ctx' h' hs => ?_
              exact Talks.silent_bind (emit_silent _ _ _) hs fun _ _ _ _ hs => .pure hs

theorem sendWelcome_talks :
    Cmd.Talks cfg .sendWelcome payload ctx h ctx (sendWelcome cfg) :=
  .context (Talks.queue_bind says_start .welcome (writtenFrom_compose rfl rfl rfl rfl rfl)
    fun _ _ hs => .pure hs)

theorem notifyCancellation_talks :
    Cmd.Talks cfg .notifyCancellation payload ctx h ctx (notifyCancellation cfg) := by
  refine .context (Talks.call_bind rfl says_start fun (demo : Option Demo) => ?_)
  refine Talks.queue_bind says_start (.cancellation (by simp))
    (writtenFrom_compose rfl rfl rfl rfl rfl) fun ctx' h' hs => ?_
  exact Talks.silent_bind (emit_silent _ _ _) hs fun _ _ _ _ hs => .pure hs

/-- A command that says nothing says nothing it did not come up with. -/
theorem Silent.talks {c : Cmd α} (hc : Silent c) : Cmd.Talks cfg command payload ctx h ctx c :=
  (Talks.silent hc says_start).mono fun _ _ _ hx => hx.2

/-- **Whatever a command queues was written from a draft it came up with**, from what it has
read. -/
theorem perform_talks : Cmd.Talks cfg command payload ctx [] ctx (perform cfg command payload) := by
  cases command with
  | none => exact .pure says_start
  | resolveIdentity => exact Silent.talks (resolveIdentity_silent payload)
  | askMissingRequirements => exact askRequirements_talks
  | requestTutorMatch => exact Silent.talks (requestMatch_silent _)
  | presentTutorOptions => exact presentOptions_talks
  | proposeSlots => exact proposeSlots_talks
  | placeSlotHold => exact Silent.talks (placeHold_silent cfg payload)
  | releaseSlotHold => exact Silent.talks releaseHold_silent
  | requestTutorConfirmation => exact requestTutorConfirmation_talks
  | tryFallbackTutor => exact tryFallback_talks
  | createCalendarEvent => exact Silent.talks (createEvent_silent cfg)
  | cancelCalendarEvent => exact Silent.talks cancelEvent_silent
  | sendConfirmation => exact sendConfirmation_talks
  | scheduleReminders => exact Silent.talks (scheduleReminders_silent cfg)
  | cancelReminders => exact Silent.talks cancelReminders_silent
  | captureOutcome => exact Silent.talks captureOutcome_silent
  | runPostDemoAnalysis => exact Silent.talks (postDemoAnalysis_silent cfg payload)
  | sendFollowup => exact sendFollowup_talks
  | createPaymentOrder => exact createPaymentOrder_talks
  | activateSubscription => exact Silent.talks (activate_silent cfg payload)
  | handoffToOnboarding => exact Silent.talks (handoffOnboarding_silent cfg)
  | sendWelcome => exact sendWelcome_talks
  | raiseHumanCase => exact Silent.talks (raiseHumanCase_silent cfg payload)
  | notifyCancellation => exact notifyCancellation_talks

end Saying

/-- **What an execution leaves in the outbox** was there before, or was written from a draft of its
command. -/
theorem execute_says {cfg : Config} {command : Command} {ctx : TurnContext} {payload : Facts} :
    (execute cfg command ctx payload).GuardedTo (fun _ (o : Op) => o.leavesStates = true)
      (fun effect h => ∃ messages, effect.outbox = ctx.outbox ++ messages ∧ ∀ m ∈ messages,
        ∃ d, Drafted cfg ctx payload h command d ∧ WrittenFrom cfg ctx.conversationRef d m) [] :=
  Prog.GuardedTo.bind perform_talks fun _ _ hs => hs

/-- The messages an execution has queued. -/
def CommandEffect.queued (effect : CommandEffect) (ctx : TurnContext) : List OutboundMessage :=
  effect.outbox.drop ctx.outbox.length

/-- **What an execution queues** was written from drafts of its command. -/
theorem execute_drafts {cfg : Config} {command : Command} {ctx : TurnContext} {payload : Facts} :
    (execute cfg command ctx payload).GuardedTo (fun _ (o : Op) => o.leavesStates = true)
      (fun effect h =>
      ∀ m ∈ effect.queued ctx, ∃ d, Drafted cfg ctx payload h command d ∧
        WrittenFrom cfg ctx.conversationRef d m) [] := by
  refine execute_says.mono fun effect h ⟨messages, hmessages, hdrafts⟩ m hm => ?_
  refine hdrafts m ?_
  rwa [CommandEffect.queued, hmessages, List.drop_left] at hm

end NxTutors.DemoAgent
