import NxTutors.DemoAgent.Undisturbed

/-!
# Requests to tutors

How the command ends that asks a tutor to accept: with a message and a callback, with a message and
no callback, with neither, as if it had worked, or with a failure.
-/

namespace NxTutors.DemoAgent

open Effect

/-- The request to a tutor, about a demo. -/
def requestMessage (cfg : Config) (ctx : TurnContext) (demo : Demo) (tutor : DemoAttendee)
    (binding : TemplateBinding) : OutboundMessage :=
  tutorMessage cfg ctx demo tutor binding "tutor_req"

/-- Asking the scheduler for the expiry of a request. -/
def scheduleExpiry (ctx : TurnContext) (demo : Demo) : Op :=
  .schedule ("tutor-expiry-" ++ demo.demoId ++ "-" ++ toString demo.revision)
    (ctx.now + 20 * minute) (tutorExpiry ctx.conversationRef demo.demoId)

/-- **How a request to a tutor ends**: what the command has called, and what it leaves. -/
inductive RequestEnds (cfg : Config) (ctx : TurnContext) :
    Except Exn CommandOutcome → TurnContext → History ports Exn → Prop
  /-- the message is queued, and the expiry scheduled -/
  | asked {demo : Demo} {binding : TemplateBinding} {tutor : DemoAttendee}
      (hbinding : tutorConfirmationTemplate cfg demo = some binding)
      (htutor : demo.attendee .tutor = some tutor) :
    RequestEnds cfg ctx (.ok {})
      { ctx with outbox := ctx.outbox ++ [requestMessage cfg ctx demo tutor binding] }
      [⟨.demoForConversation ctx.conversationRef, .ok (some demo)⟩,
        ⟨scheduleExpiry ctx demo, .ok ()⟩]
  /-- the message is queued, and the scheduler raises -/
  | unscheduled {demo : Demo} {binding : TemplateBinding} {tutor : DemoAttendee} {exn : Exn}
      (hbinding : tutorConfirmationTemplate cfg demo = some binding)
      (htutor : demo.attendee .tutor = some tutor) :
    RequestEnds cfg ctx (.error exn)
      { ctx with outbox := ctx.outbox ++ [requestMessage cfg ctx demo tutor binding] }
      [⟨.demoForConversation ctx.conversationRef, .ok (some demo)⟩,
        ⟨scheduleExpiry ctx demo, .error exn⟩]
  /-- there is no template, and the request is skipped -/
  | skipped {demo : Demo} {note : String} (hnone : tutorConfirmationTemplate cfg demo = none) :
    RequestEnds cfg ctx (.ok {}) { ctx with degraded := ctx.degraded ++ [note] }
      [⟨.demoForConversation ctx.conversationRef, .ok (some demo)⟩]
  /-- nothing is queued, and the command fails; not for want of a template, if there is a hold -/
  | failed {r : Except Exn (Option Demo)} {outcome : Except Exn CommandOutcome}
      (hfailed : (outcomeOf outcome).failed = true)
      (hbound : (ctx.facts.get "hold_id").textOrEmpty ≠ "" → ∀ demo, r = .ok (some demo) →
        (tutorConfirmationTemplate cfg demo).isSome = true) :
    RequestEnds cfg ctx outcome ctx [⟨.demoForConversation ctx.conversationRef, r⟩]

section Request

variable {cfg : Config} {ctx : TurnContext} {payload : Facts}

/-- A command that ends without a demo. -/
theorem RequestEnds.demoless {r : Except Exn (Option Demo)} {outcome : Except Exn CommandOutcome}
    (hfailed : (outcomeOf outcome).failed = true) (hr : ∀ demo, r ≠ .ok (some demo)) :
    RequestEnds cfg ctx outcome ctx [⟨.demoForConversation ctx.conversationRef, r⟩] :=
  .failed hfailed fun _ demo heq => absurd heq (hr demo)

/-- A command that ends with a template. -/
theorem RequestEnds.bound {demo : Demo} {binding : TemplateBinding}
    {outcome : Except Exn CommandOutcome} (hfailed : (outcomeOf outcome).failed = true)
    (hbinding : tutorConfirmationTemplate cfg demo = some binding) : RequestEnds cfg ctx outcome ctx
      [⟨.demoForConversation ctx.conversationRef, .ok (some demo)⟩] := by
  refine .failed hfailed fun _ d heq => ?_
  obtain rfl : demo = d := Option.some.inj (Except.ok.inj heq)
  rw [hbinding, Option.isSome_some]

/-- **The command ends in one of these ways.** -/
theorem requestTutorConfirmation_ends : Cmd.Does (fun o => o.leavesStates = true)
    (RequestEnds cfg ctx) [] ctx (requestTutorConfirmation cfg) := by
  have hfailure : ∀ reason, (outcomeOf (.ok (failure reason))).failed = true := fun _ => rfl
  refine .context (.call_bind rfl (fun (demo : Option Demo) => ?_) fun exn => ?_)
  · cases demo with
    | none => exact Cmd.Does.pure (.demoless (hfailure _) fun _ heq => nomatch heq)
    | some demo =>
      dsimp only
      split
      · rename_i hnone
        exact Cmd.Does.pure (.failed (hfailure _) fun hhold => absurd hnone hhold)
      · split
        · rename_i hnone
          exact .skipped hnone
        · rename_i binding hbinding
          split
          · exact Cmd.Does.pure (.bound (hfailure _) hbinding)
          · rename_i tutor htutor
            refine .queue_bind ?_ fun e => .bound rfl hbinding
            refine .call_bind rfl (fun _ => ?_) fun exn => ?_
            · exact .asked hbinding htutor
            · exact .unscheduled hbinding htutor
  · exact .demoless rfl fun _ heq => nomatch heq

theorem execute_request_ends : (execute cfg .requestTutorConfirmation ctx payload).GuardedTo
    (fun _ (o : Op) => o.leavesStates = true) (fun effect h => ∃ ctx',
      RequestEnds cfg ctx effect.outcome ctx' h ∧ effect.outbox = ctx'.outbox) [] :=
  Prog.GuardedTo.bind requestTutorConfirmation_ends fun x _ hends => ⟨x.2, hends, rfl⟩

theorem requestTutorConfirmation_returns : Cmd.Returns (requestTutorConfirmation cfg) := by
  refine Cmd.Returns.bind (fun _ => trivial) fun ctx => ?_
  refine (Cmd.returns_lift _).bind fun (demo : Option Demo) => ?_
  cases demo with
  | none => exact fun _ => trivial
  | some demo =>
    dsimp only
    split
    · exact fun _ => trivial
    · split
      · exact Cmd.Returns.bind (fun _ => trivial) fun _ _ => trivial
      · split
        · exact fun _ => trivial
        · exact (Cmd.returns_queue cfg _).bind fun _ => (Cmd.returns_lift _).bind fun _ _ => trivial

theorem execute_request_returns :
    (execute cfg .requestTutorConfirmation ctx payload).Returns :=
  (requestTutorConfirmation_returns ctx).bind fun _ => trivial

/-- The request has read only demos that have a template. -/
def Bound (cfg : Config) (ref : String) (inner : History ports Exn) : Prop :=
  ∀ demo, (⟨.demoForConversation ref, .ok (some demo)⟩ : Call ports Exn) ∈ inner →
    (tutorConfirmationTemplate cfg demo).isSome = true

/-- The scheduler was asked for the expiry of a request, and how it answered. -/
def Schedules (ref : String) (inner : History ports Exn) (r : Except Exn Unit) : Prop :=
  ∃ name due demoId, (⟨.schedule name due (tutorExpiry ref demoId), r⟩ : Call ports Exn) ∈ inner

/-- A call of the scheduler that is answered does not raise. -/
theorem schedule_answered {name name' : String} {due due' : Time} {payload payload' : Facts}
    {exn : Exn} : (⟨.schedule name due payload, .error exn⟩ : Call ports Exn) ≠
      ⟨.schedule name' due' payload', .ok ()⟩ := by
  intro heq
  have hraised : false = true := congrArg (fun c : Call ports Exn => c.2.isOk) heq
  cases hraised

/-- **The four ends**, by what is said and scheduled in them, when there is a hold. -/
theorem RequestEnds.cases {outcome : Except Exn CommandOutcome} {ctx' : TurnContext}
    {inner : History ports Exn} {ref : String} (h : RequestEnds cfg ctx outcome ctx' inner)
    (href : ctx.conversationRef = ref) (hempty : ctx.outbox = [])
    (hid : (ctx.facts.get "hold_id").textOrEmpty ≠ "") :
    ((outcomeOf outcome).failed = false ∧ Bound cfg ref inner ∧ Schedules ref inner (.ok ()) ∧
      (∀ exn, ¬ Schedules ref inner (.error exn)) ∧
      ∃ m, ctx'.outbox = [m] ∧ m.kind = .tutorRequest) ∨
    ((outcomeOf outcome).failed = true ∧ Bound cfg ref inner ∧
      (∃ exn, Schedules ref inner (.error exn)) ∧ ∃ m, ctx'.outbox = [m] ∧ m.kind = .tutorRequest) ∨
    ((outcomeOf outcome).failed = false ∧ ¬ Bound cfg ref inner ∧ ctx'.outbox = []) ∨
    ((outcomeOf outcome).failed = true ∧ Bound cfg ref inner ∧
      (∀ exn, ¬ Schedules ref inner (.error exn)) ∧ ctx'.outbox = []) := by
  subst href
  have hbound : ∀ {demo : Demo} {binding : TemplateBinding} {r : Except Exn Unit},
      tutorConfirmationTemplate cfg demo = some binding → Bound cfg ctx.conversationRef
        [⟨.demoForConversation ctx.conversationRef, .ok (some demo)⟩,
          ⟨scheduleExpiry ctx demo, r⟩] := by
    intro demo binding r hbinding d hd
    rcases List.mem_cons.mp hd with heq | hd
    · cases heq
      rw [hbinding, Option.isSome_some]
    · cases List.mem_singleton.mp hd
  cases h with
  | @asked demo binding tutor hbinding htutor =>
    refine .inl ⟨rfl, hbound hbinding, ⟨_, _, _, List.mem_cons_of_mem _ List.mem_cons_self⟩,
      fun exn => ?_, _, by rw [hempty, List.nil_append], rfl⟩
    rintro ⟨name, due, demoId, hmem⟩
    rcases List.mem_cons.mp hmem with heq | hmem
    · cases heq
    · exact schedule_answered (List.mem_singleton.mp hmem)
  | @unscheduled demo binding tutor exn hbinding htutor =>
    exact .inr (.inl ⟨rfl, hbound hbinding,
      ⟨exn, _, _, _, List.mem_cons_of_mem _ List.mem_cons_self⟩, _,
      by rw [hempty, List.nil_append], rfl⟩)
  | @skipped demo note hnone =>
    refine .inr (.inr (.inl ⟨rfl, fun hall => ?_, hempty⟩))
    have hsome := hall demo (List.mem_singleton_self _)
    rw [hnone] at hsome
    cases hsome
  | @failed r outcome hfailed hbinds =>
    refine .inr (.inr (.inr ⟨hfailed, fun demo hdemo => ?_, fun exn => ?_, hempty⟩))
    · refine hbinds hid demo ?_
      cases List.mem_singleton.mp hdemo
      rfl
    · rintro ⟨name, due, demoId, hmem⟩
      cases List.mem_singleton.mp hmem

end Request

end NxTutors.DemoAgent
