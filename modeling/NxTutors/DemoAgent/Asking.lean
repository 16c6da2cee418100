import NxTutors.DemoAgent.TutorRequests

/-!
# Asking a tutor

When a hold has been placed, the conversation is moved on to wait for the tutor, and only then the
tutor is asked. Between the two anything may go wrong: the repository raises, the request has no
template, the scheduler raises when the message is in the outbox already. Some of this is a failure
of the command, which takes the conversation out of waiting, and some is not.

`Turned` lists what a turn comes to that places a hold, and `asked_iff_waiting` says in which turns
the tutor is asked exactly if the conversation waits.
-/

namespace NxTutors.DemoAgent

open Effect

section Walk

variable {backend : StorageBackend} {cfg : Config} {ref : String}
  {w : World backend.Conversations × Record}

/-! ## The turn that asks -/

/-- **What comes after the request**, which left a context with `outbox`: it worked, and what was
queued is sent; or it failed, the failure is written, and what was queued is sent all the same; or
what follows the failure raises, and that is all. -/
inductive Sequel (ref : String) (s : StateSnapshot) (effect : CommandEffect) :
    Record → World backend.Conversations → Prop
  | worked {after : Record} {w : World backend.Conversations}
      (succeeded : (outcomeOf effect.outcome).failed = false)
      (flushed : Flushed effect.outbox after) (waits : WaitsAt ref s w) :
    Sequel ref s effect after w
  | written {read snapshot : StateSnapshot} {follow : TransitionResult} {now : Time} {facts : Facts}
      {after : Record} {w : World backend.Conversations}
      (failed : (outcomeOf effect.outcome).failed = true)
      (version : follow.expectedVersion = s.version)
      (flushed : Flushed effect.outbox after) (stored : FailedAfter ref s w) :
    Sequel ref s effect
      (loading ref (.ok read) :: writing follow now facts (.ok snapshot) :: after) w
  | unread {exn : Exn} {w : World backend.Conversations}
      (failed : (outcomeOf effect.outcome).failed = true) (waits : WaitsAt ref s w) :
    Sequel ref s effect [loading ref (.error exn)] w
  | raised {read : StateSnapshot} {follow : TransitionResult} {now : Time} {facts : Facts}
      {exn : Exn} {w : World backend.Conversations} (failed : (outcomeOf effect.outcome).failed = true)
      (version : follow.expectedVersion = s.version) (final : exn.final)
      (stored : WaitsAt ref s w ∨ FailedAfter ref s w) :
    Sequel ref s effect [loading ref (.ok read), writing follow now facts (.error exn)] w

/-- The request that was made, and what came after it. -/
structure Requested (cfg : Config) (ref : String) (ctx : TurnContext) (payload : Facts)
    (entries : Record) (w : World backend.Conversations) : Prop where
  sequel : ∃ (effect : CommandEffect) (inner : History ports Exn) (after : Record),
    entries = ⟨⟨.execute .requestTutorConfirmation ctx payload, .ok effect⟩, inner⟩ :: after ∧
    (∃ ctx', RequestEnds cfg ctx effect.outcome ctx' inner ∧ effect.outbox = ctx'.outbox) ∧
    Sequel ref ctx.snapshot effect after w

/-- The request is carried out, and leaves the conversation where it is. -/
theorem request_carried {ctx : TurnContext} {payload : Facts}
    {w₁ w₂ : World backend.Conversations × Record} {r : Except Exn CommandEffect}
    (hmove : (uncontested backend cfg ref).moves w w₁)
    (hans : (uncontested backend cfg ref).answers (.execute .requestTutorConfirmation ctx payload)
      w₁ r w₂) : ∃ (effect : CommandEffect) (inner : History ports Exn),
    r = .ok effect ∧
    Stays ref w [⟨⟨.execute .requestTutorConfirmation ctx payload, .ok effect⟩, inner⟩] w₂ ∧
    ∃ ctx', RequestEnds cfg ctx effect.outcome ctx' inner ∧ effect.outbox = ctx'.outbox := by
  obtain ⟨inner, hstays, hcarries⟩ := stays_of_part
    (o := .execute .requestTutorConfirmation ctx payload) (P := fun o => o.leavesStates = true) rfl
    (execute_request_ends.mono fun _ _ _ => trivial) (fun _ ho => ho) hmove hans
  obtain ⟨effect, rfl⟩ := hcarries.returns rfl execute_request_returns
  exact ⟨effect, inner, rfl, hstays,
    ((hcarries.record rfl).2 _ _ execute_request_ends).2 effect rfl⟩

/-- How running the request ends: it worked, or what follows a failure is over. -/
def RequestRuns (cfg : Config) (ref : String) (s : StateSnapshot) (ctx : TurnContext)
    (payload : Facts) (w : World backend.Conversations × Record)
    (out : Except Exn (CommandOutcome × TurnContext)) (w' : World backend.Conversations × Record) :
    Prop :=
  ∃ (effect : CommandEffect) (inner : History ports Exn)
    (w₁ : World backend.Conversations × Record),
    Stays ref w [⟨⟨.execute .requestTutorConfirmation ctx payload, .ok effect⟩, inner⟩] w₁ ∧
    (∃ ctx', RequestEnds cfg ctx effect.outcome ctx' inner ∧ effect.outbox = ctx'.outbox) ∧
    (((outcomeOf effect.outcome).failed = false ∧ w' = w₁ ∧
        ∃ x, out = .ok x ∧ x.2.outbox = effect.outbox) ∨
      (outcomeOf effect.outcome).failed = true ∧ ∃ ctx₁ out₁, ctx₁.outbox = effect.outbox ∧
        FollowsUp ref s ctx₁ w₁ out₁ w' ∧
        ((∃ c x, out₁ = .ok c ∧ out = .ok x ∧ x.2 = c) ∨
          ∃ exn, out₁ = .error exn ∧ out = .error exn))

theorem runCommand_requests {s : StateSnapshot} {ctx : TurnContext} {result : TransitionResult}
    (hcommand : result.command = .requestTutorConfirmation)
    (hnone : result.compensation = .none) (href : ctx.conversationRef = ref)
    (hw : WaitsAt ref s w.1) (payload : Facts) :
    Meets (uncontested backend cfg ref) (fun _ _ => True) (RequestRuns cfg ref s ctx payload w)
      (runCommand result ctx payload) w := by
  unfold runCommand
  rw [if_neg (by rw [hcommand]; decide), hcommand]
  intro w₁ hmove r w₂ hans
  obtain ⟨effect, inner, rfl, hstays, hends⟩ := request_carried hmove hans
  refine ⟨trivial, ?_⟩
  change Meets _ _ _ (if (outcomeOf effect.outcome).failed = true then
    compensate result (effect.apply ctx) >>= fun c =>
      fireInternal c .recoverableFailure >>= fun c => pure (outcomeOf effect.outcome, c)
    else pure (outcomeOf effect.outcome, effect.apply ctx)) w₂
  split
  · rename_i hfailed
    rw [compensate, if_pos hnone]
    have happlied : (effect.apply ctx).conversationRef = ref := href
    refine (fireInternal_followsUp happlied (hw.of_found hstays.found)).bind
      (fun c w' h => ?_) fun exn w' h => ?_
    · exact ⟨effect, inner, w₂, hstays, hends,
        .inr ⟨hfailed, _, _, rfl, h, .inl ⟨c, _, rfl, rfl, rfl⟩⟩⟩
    · exact ⟨effect, inner, w₂, hstays, hends,
        .inr ⟨hfailed, _, _, rfl, h, .inr ⟨exn, rfl, rfl⟩⟩⟩
  · rename_i hworked
    exact ⟨effect, inner, w₂, hstays, hends, .inl ⟨Bool.eq_false_iff.mpr hworked, rfl, _, rfl, rfl⟩⟩

/-- **From the request on**, a turn comes to one of the sequels. -/
theorem request_meets {ctx : TurnContext} {result : TransitionResult}
    (hcommand : result.command = .requestTutorConfirmation)
    (hnone : result.compensation = .none) (href : ctx.conversationRef = ref)
    (hw : WaitsAt ref ctx.snapshot w.1) (payload : Facts)
    (f : CommandOutcome × TurnContext → Nat × TurnContext → TurnContext → TurnResult) :
    Meets (uncontested backend cfg ref) (fun _ _ => True) (fun out w' =>
        (∃ entries, w'.2 = w.2 ++ entries ∧ Requested cfg ref ctx payload entries w'.1) ∧
          ∀ exn, out = .error exn → exn.final)
      (runCommand result ctx payload >>= fun x => flush x.2 >>= fun y =>
        applyTransfer y.2 x.1 >>= fun ctx' => pure (f x y ctx')) w := by
  have hentries : ∀ {x : Entry ports Exn} {more : Record}
      {w₁ w' : World backend.Conversations × Record}, Stays ref w [x] w₁ → w'.2 = w₁.2 ++ more → w'.2 = w.2 ++ (x :: more) := by
    intro x more w₁ w' hstays hmore
    rw [hmore, hstays.record, List.append_assoc, List.singleton_append]
  refine (runCommand_requests hcommand hnone href hw payload).bind (fun x w' h => ?_)
    fun exn w' h => ?_
  · obtain ⟨effect, inner, w₁, hstays, hends, hrun⟩ := h
    refine (finish_flushes x.2 x.1 (f x)).post fun out w'' ⟨after, hafter, hflushed, hfinal⟩ => ?_
    rcases hrun with ⟨hworked, rfl, x', heq, houtbox⟩ | ⟨hfailed, ctx₁, out₁, houtbox, hfollows, h⟩
    · cases heq
      refine ⟨⟨_, hentries hstays hafter.record, effect, inner, _, rfl, hends, ?_⟩, hfinal⟩
      exact .worked hworked (houtbox ▸ hflushed) (hw.of_found (hafter.found.trans hstays.found))
    · rcases h with ⟨c, x', rfl, heq, hc⟩ | ⟨_, _, heq⟩
      · cases heq
        cases hfollows with
        | @written read snapshot follow _ record version stored =>
          have hx : x.2.outbox = effect.outbox := (congrArg TurnContext.outbox hc).trans houtbox
          have hmore : w''.2 = w₁.2 ++ (loading ref (.ok read) ::
              writing follow ctx₁.now ctx₁.facts (.ok snapshot) :: after) := by
            rw [hafter.record, record, List.append_assoc]
            rfl
          refine ⟨⟨_, hentries hstays hmore, effect, inner, _, rfl, hends, ?_⟩, hfinal⟩
          exact .written hfailed version (hx ▸ hflushed) (stored.of_found hafter.found)
      · cases heq
  · obtain ⟨effect, inner, w₁, hstays, hends, hrun⟩ := h
    rcases hrun with ⟨_, _, x, heq, _⟩ | ⟨hfailed, ctx₁, out₁, _, hfollows, h⟩
    · cases heq
    · rcases h with ⟨_, _, _, heq, _⟩ | ⟨exn', rfl, heq⟩
      · cases heq
      · cases heq
        cases hfollows with
        | unread record final waits =>
          exact ⟨⟨_, hentries hstays record, effect, inner, _, rfl, hends, .unread hfailed waits⟩,
            fun _ heq => by cases heq; exact final⟩
        | raised record version final stored =>
          exact ⟨⟨_, hentries hstays record, effect, inner, _, rfl, hends,
            .raised hfailed version final stored⟩, fun _ heq => by cases heq; exact final⟩

/-! ## A turn -/

/-- What comes before the conversation is moved on: nothing is said, nothing is executed, and what
is written is refused. -/
structure Fruitless (ref : String) (version : Nat) (y : Entry ports Exn) : Prop where
  plain : y.call.1.kind ≠ .component
  loaded : ∀ exn, y.call ≠ ⟨.load ref, .error exn⟩
  refused : ∀ result now facts r, y.call = ⟨.saveTransition result now facts, r⟩ →
    result.expectedVersion = version ∧ ∃ c, r = .error (.conflict c)

theorem Quiet.fruitless {y : Entry ports Exn} (h : Quiet y.call.1) (version : Nat) :
    Fruitless ref version y := by
  obtain ⟨⟨o, r⟩, inner⟩ := y
  refine ⟨fun hk => ?_, fun exn heq => ?_, fun result now facts r' heq => ?_⟩
  · cases o with
    | execute | send => cases h
    | _ => cases hk
  · cases heq
    cases h
  · cases heq
    cases h

/-- From one state of a record to a later one, passes have come to nothing. -/
structure Idles (ref : String) (a : World backend.Conversations × Record) (before : Record)
    (b : World backend.Conversations × Record) : Prop where
  stays : Stays ref a before b
  fruitless : ∀ y ∈ before, Fruitless ref (a.1.found ref).version y

theorem Idles.append {a b c : World backend.Conversations × Record} {before more : Record}
    (h : Idles ref a before b) (hstays : Stays ref b more c)
    (hmore : ∀ y ∈ more, Fruitless ref (a.1.found ref).version y) :
    Idles ref a (before ++ more) c :=
  ⟨h.stays.trans hstays, fun y hy => (List.mem_append.mp hy).elim (h.fruitless y) (hmore y)⟩

/-- What is quiet is another way to come to nothing. -/
theorem Idles.reads {a : World backend.Conversations × Record} {before : Record} {α : Type}
    {R : α → Prop} {p : Act α} (h : Idles ref a before w) (hp : p.Within Quiet Exn.final R) :
    Meets (uncontested backend cfg ref) (fun _ _ => True) (fun out w' =>
      (∃ before, Idles ref a before w') ∧ Prog.Ended R Exn.final out) p w :=
  (Meets.reads hp).post fun _ _ ⟨⟨_, hstays, hquiet⟩, hended⟩ =>
    ⟨⟨_, h.append hstays fun y hy => (hquiet y hy).fruitless _⟩, hended⟩

/-- **What a turn comes to** in which a hold was placed: the conversation is where it was; or it was
moved on, but the write has raised; or it was moved on, and the request was made. -/
inductive Turned (cfg : Config) (ref : String) (a b : World backend.Conversations × Record) : Prop
  | uncommitted (found : b.1.found ref = a.1.found ref)
  | unanswered {before : Record} {result : TransitionResult} {now : Time} {facts : Facts}
      {exn : Exn} (fruitless : ∀ y ∈ before, Fruitless ref (a.1.found ref).version y)
      (record : b.2 = a.2 ++ (before ++ [writing result now facts (.error exn)]))
      (state : (b.1.found ref).state = .tutorConfirmationPending)
      (version : (b.1.found ref).version = (a.1.found ref).version + 1)
  | requested {before entries : Record} {result : TransitionResult} {ctx : TurnContext}
      {payload : Facts} (fruitless : ∀ y ∈ before, Fruitless ref (a.1.found ref).version y)
      (record : b.2 = a.2 ++ (before ++
        writing result ctx.now ctx.facts (.ok ctx.snapshot) :: entries))
      (expected : result.expectedVersion = (a.1.found ref).version)
      (version : ctx.snapshot.version = (a.1.found ref).version + 1)
      (request : Requested cfg ref ctx payload entries b.1)

/-- How a pass ends: in a conflict, having come to nothing, or the turn is over. -/
def Passed (cfg : Config) (ref : String) (a : World backend.Conversations × Record) {α : Type}
    (out : Except Exn α) (b : World backend.Conversations × Record) : Prop :=
  ((∃ before, Idles ref a before b) ∧ ∃ c, out = .error (.conflict c)) ∨
    Turned cfg ref a b ∧ ∀ exn, out = .error exn → exn.final

/-- A pass that came to nothing, without a conflict. -/
theorem Idles.passed {a b : World backend.Conversations × Record} {before : Record} {α : Type}
    {out : Except Exn α} (h : Idles ref a before b) (hfinal : ∀ exn, out = .error exn → exn.final) :
    Passed cfg ref a out b := .inr ⟨.uncommitted h.stays.found, hfinal⟩

/-- Placing a hold moves the conversation on, and then the tutor is asked. -/
theorem fire_placed {s : StateSnapshot} {actor : Actor} {facts : Facts} {result : TransitionResult}
    (h : fire s .holdPlaced actor facts = .ok result) :
    result.command = .requestTutorConfirmation ∧ result.compensation = .none ∧
      result.toState = .tutorConfirmationPending ∧ result.conversationRef = s.conversationRef ∧
      result.expectedVersion = s.version := by
  obtain ⟨row, hrow, _, htrigger, _, rfl⟩ := fire_lawful h
  obtain ⟨own, hown, hplaced, hcommand, hnone, htarget⟩ : ∃ own ∈ TRANSITIONS,
      own.trigger = .holdPlaced ∧ own.command = .requestTutorConfirmation ∧
      own.compensation = .none ∧ own.target = .tutorConfirmationPending := by simp [TRANSITIONS]
  obtain rfl := row_unique hown hrow (hplaced.trans htrigger.symm)
  exact ⟨hcommand, hnone, htarget, rfl, rfl⟩

section Placed

variable {e : Event} {a : World backend.Conversations × Record} {before : Record}

/-- What the write of a granted transition comes to. -/
theorem save_passes {result : TransitionResult} {now : Time} {facts : Facts}
    {r : Except Exn StateSnapshot} {w₁ w₂ : World backend.Conversations × Record}
    (hidle : Idles ref a before w) (href : result.conversationRef = ref)
    (hexpected : result.expectedVersion = (a.1.found ref).version)
    (hstate : result.toState = .tutorConfirmationPending)
    (hmove : (uncontested backend cfg ref).moves w w₁)
    (hans : (uncontested backend cfg ref).answers (.saveTransition result now facts) w₁ r w₂) :
    (∀ snapshot, r = .ok snapshot → WaitsAt ref snapshot w₂.1 ∧
      snapshot.version = (a.1.found ref).version + 1 ∧
      w₂.2 = a.2 ++ (before ++ [writing result now facts (.ok snapshot)])) ∧
    ∀ exn, r = .error exn → ∀ α, Passed cfg ref a (.error exn : Except Exn α) w₂ := by
  subst href
  obtain ⟨⟨call, inner⟩, rfl, hcarries, hrecord⟩ := hans
  obtain ⟨hsave, rfl⟩ := hcarries.answers rfl
  have hfound : w₁.1.found result.conversationRef = a.1.found result.conversationRef :=
    hmove.1.trans hidle.stays.found
  have hrecord' : w₂.2 = a.2 ++ (before ++ [writing result now facts r]) := by
    rw [hrecord, hmove.2, hidle.stays.record, List.append_assoc]
    rfl
  rcases save_cases hsave with ⟨hleft, hrefused⟩ | ⟨snapshot, hwritten, hr⟩
  · have hstays : w₂.1.found result.conversationRef = a.1.found result.conversationRef :=
      hleft ▸ hfound
    rcases hrefused with ⟨c, rfl, -⟩ | ⟨name, rfl⟩
    · refine ⟨(fun _ heq => nomatch heq), fun exn heq α => ?_⟩
      cases heq
      refine .inl ⟨⟨_, ⟨⟨hrecord', hstays⟩, fun y hy => ?_⟩⟩, c, rfl⟩
      rcases List.mem_append.mp hy with hy | hy
      · exact hidle.fruitless y hy
      · obtain rfl := List.mem_singleton.mp hy
        refine ⟨(fun hk => nomatch hk), (fun _ heq => nomatch heq), fun _ _ _ _ heq => ?_⟩
        cases heq
        exact ⟨hexpected, c, rfl⟩
    · refine ⟨(fun _ heq => nomatch heq), fun exn heq α => ?_⟩
      cases heq
      exact .inr ⟨.uncommitted hstays, fun _ heq => by cases heq; trivial⟩
  · have hversion : (w₂.1.found result.conversationRef).version =
        (a.1.found result.conversationRef).version + 1 := by
      rw [← hfound]
      exact hwritten.version
    have hpending : (w₂.1.found result.conversationRef).state = .tutorConfirmationPending :=
      hwritten.state.trans hstate
    rcases hr with rfl | ⟨name, rfl⟩
    · refine ⟨fun _ heq => ?_, (fun _ heq => nomatch heq)⟩
      cases heq
      have hanswer : snapshot.version = (a.1.found result.conversationRef).version + 1 :=
        hwritten.answer.trans hversion
      refine ⟨⟨hpending, hwritten.answer.symm, ?_, hwritten.ref⟩, hanswer, hrecord'⟩
      rw [hanswer]
      exact Nat.succ_pos _
    · refine ⟨(fun _ heq => nomatch heq), fun _ heq α => ?_⟩
      cases heq
      exact .inr ⟨.unanswered hidle.fruitless hrecord' hpending hversion,
        fun _ heq => by cases heq; trivial⟩

/-- **What follows a granted transition.** -/
theorem commit_passes {ctx : TurnContext} {result : TransitionResult}
    (hctx : DecidesOn e (a.1.found ref) ctx) (href : e.conversationRef = ref)
    (hkeyed : (a.1.found ref).conversationRef = ref) (htrigger : e.trigger = .holdPlaced)
    (hfire : fire ctx.snapshot e.trigger e.actor ctx.facts = .ok result)
    (hidle : Idles ref a before w) :
    Meets (uncontested backend cfg ref) (fun _ _ => True) (Passed cfg ref a) (commit e ctx result)
      w := by
  rw [htrigger] at hfire
  obtain ⟨hcommand, hnone, hstate, hresult, hexpected⟩ := fire_placed hfire
  rw [hctx.snapshot] at hresult hexpected
  refine (hidle.reads (ensureOwnership_within ctx)).bind (fun ctx' w₁ h => ?_) fun exn w₁ h => ?_
  · obtain ⟨⟨before', hidle'⟩, href', -, -⟩ := h
    refine Meets.perform_bind fun w₂ hmove r w₃ hans => ⟨trivial, ?_, fun exn hr => ?_⟩
    · rintro (snapshot : StateSnapshot) rfl
      obtain ⟨hwaits, hversion, hrecord⟩ := (save_passes hidle' (hresult.trans hkeyed) hexpected
        hstate hmove hans).1 snapshot rfl
      have hasking : ({ ctx' with snapshot } : TurnContext).conversationRef = ref :=
        href'.trans (hctx.ref.trans href)
      refine (request_meets hcommand hnone hasking hwaits e.payload fun x y ctx'' =>
        { conversationRef := e.conversationRef, state := ctx''.snapshot.state.value,
          accepted := true, command := result.command.value, messagesSent := y.1,
          degraded := ctx''.degraded.eraseDups, replyText := x.1.replyText,
          rejectedReason := x.1.failureReason }).post fun out w₄ h => ?_
      obtain ⟨⟨entries, hentries, hrequest⟩, hfinal⟩ := h
      refine .inr ⟨.requested hidle'.fruitless ?_ hexpected hversion hrequest, hfinal⟩
      rw [hentries, hrecord, List.append_assoc, List.append_assoc]
      rfl
    · exact (save_passes hidle' (hresult.trans hkeyed) hexpected hstate hmove hans).2 exn hr _
  · obtain ⟨⟨before', hidle'⟩, hfinal⟩ := h
    exact hidle'.passed fun _ heq => by cases heq; exact hfinal

/-- A pass decides on the conversation as it is found, or leaves it there. -/
theorem decideOn_idles (href : e.conversationRef = ref) (hidle : Idles ref a before w) :
    Meets (uncontested backend cfg ref) (fun _ _ => True) (fun out w' =>
      (∀ ctx, out = .ok ctx → (∃ before, Idles ref a before w') ∧
        DecidesOn e (a.1.found ref) ctx) ∧
      ∀ exn, out = .error exn → w'.1.found ref = a.1.found ref ∧ exn.final) (decideOn cfg e) w := by
  subst href
  refine (hidle.reads (ask_within (o := .now) rfl)).bind (fun (now : Time) w₁ h => ?_)
    fun exn w₁ h => ?_
  · obtain ⟨⟨before₁, hidle₁⟩, -⟩ := h
    refine Meets.perform_bind fun w₂ hmove r w₃ hans => ?_
    obtain ⟨hstays, hans⟩ := stays_of_call (o := .load e.conversationRef) rfl hmove hans
    refine ⟨trivial, ?_, fun exn hr => ⟨(fun _ heq => nomatch heq), fun _ heq => ?_⟩⟩
    · rintro (s : StateSnapshot) rfl
      obtain rfl : s = a.1.found e.conversationRef := by
        obtain ⟨-, hr | ⟨name, hr⟩⟩ := Answers.of_load hans
        · exact (Except.ok.inj hr).trans (hmove.1.trans hidle₁.stays.found)
        · cases hr
      have hloaded : Idles e.conversationRef a _ w₃ := hidle₁.append hstays fun y hy => by
        obtain rfl := List.mem_singleton.mp hy
        exact ⟨(fun hk => nomatch hk), (fun _ heq => nomatch heq), fun _ _ _ _ heq => nomatch heq⟩
      refine (hloaded.reads (R := DecidesOn e (a.1.found e.conversationRef)) ?_).post
        fun out w' h => ?_
      · refine Prog.within_perform_bind rfl fun ownership => ?_
        refine (assembleFacts_within (e := e) (s := a.1.found e.conversationRef)
          ⟨rfl, rfl, rfl⟩).bind fun ctx hctx => ?_
        have hmerge : DecidesOn e (a.1.found e.conversationRef)
            (ctx.merge (e.payload.restrict PAYLOAD_FACT_ALLOWLIST)) :=
          ⟨hctx.ref, hctx.snapshot, hctx.outbox⟩
        split
        · exact resolveSelection_within hmerge
        · exact hmerge
      · obtain ⟨⟨before', hidle'⟩, hended⟩ := h
        refine ⟨fun ctx heq => ?_, fun exn heq => ?_⟩
        · subst heq
          exact ⟨⟨_, hidle'⟩, hended⟩
        · subst heq
          exact ⟨hidle'.stays.found, hended⟩
    · cases heq
      subst hr
      exact ⟨hstays.found.trans hidle₁.stays.found,
        Answers.final_of_ne hans (fun _ _ _ heq => by cases heq) exn rfl⟩
  · obtain ⟨⟨before', hidle'⟩, hended⟩ := h
    refine ⟨(fun _ heq => nomatch heq), fun _ heq => ?_⟩
    cases heq
    exact ⟨hidle'.stays.found, hended⟩

/-- A refusal is quiet. -/
theorem reject_within (ctx : TurnContext) (refusal : TransitionRejected) :
    (reject e ctx refusal).Within Quiet Exn.final fun _ => True :=
  Prog.within_perform_bind rfl fun _ => trivial

/-- **One pass.** -/
theorem attempt_passes (href : e.conversationRef = ref)
    (hkeyed : (a.1.found ref).conversationRef = ref) (htrigger : e.trigger = .holdPlaced)
    (hidle : Idles ref a before w) :
    Meets (uncontested backend cfg ref) (fun _ _ => True) (Passed cfg ref a) (attempt cfg e) w := by
  refine (decideOn_idles href hidle).bind (fun ctx w₁ h => ?_) fun exn w₁ h => ?_
  · obtain ⟨⟨before', hidle'⟩, hctx⟩ := h.1 ctx rfl
    cases hfire : fire ctx.snapshot e.trigger e.actor ctx.facts with
    | error refusal =>
      refine (hidle'.reads (reject_within ctx refusal)).post fun out w₂ h => ?_
      obtain ⟨⟨before'', hidle''⟩, hended⟩ := h
      refine hidle''.passed fun exn heq => ?_
      subst heq
      exact hended
    | ok result => exact commit_passes hctx href hkeyed htrigger hfire hidle'
  · obtain ⟨hfound, hfinal⟩ := h.2 exn rfl
    exact .inr ⟨.uncommitted hfound, fun _ heq => by cases heq; exact hfinal⟩

/-- Passes until one is not met with a conflict. -/
theorem attempts_passes (href : e.conversationRef = ref)
    (hkeyed : (a.1.found ref).conversationRef = ref) (htrigger : e.trigger = .holdPlaced) (n : Nat)
    (lastError : String) (hidle : Idles ref a before w) :
    Meets (uncontested backend cfg ref) (fun _ _ => True) (fun _ w' => Turned cfg ref a w')
      (attempts cfg e n lastError) w := by
  subst href
  induction n generalizing before w lastError with
  | zero =>
    refine Meets.perform_bind fun w₁ hmove r w₂ hans => ?_
    obtain ⟨hstays, -⟩ := stays_of_call (o := .load e.conversationRef) rfl hmove hans
    have hfound : w₂.1.found e.conversationRef = a.1.found e.conversationRef :=
      hstays.found.trans hidle.stays.found
    exact ⟨trivial, fun _ _ => .uncommitted hfound, fun _ _ => .uncommitted hfound⟩
  | succ n ih =>
    refine (attempt_passes rfl hkeyed htrigger hidle).tryCatch (fun tr w₁ h => ?_)
      fun exn w₁ h => ?_
    · rcases h with ⟨-, c, heq⟩ | ⟨hturned, -⟩
      · cases heq
      · exact hturned
    · rcases h with ⟨⟨before', hidle'⟩, c, heq⟩ | ⟨hturned, hfinal⟩
      · cases heq
        exact ih c.text hidle'
      · cases exn with
        | conflict c => exact absurd (hfinal _ rfl) id
        | ownership err => exact hturned
        | other name => exact hturned

/-- **A turn in which a hold was placed**, whatever is raised in it. -/
theorem handle_turns (href : e.conversationRef = ref)
    (hkeyed : (a.1.found ref).conversationRef = ref) (htrigger : e.trigger = .holdPlaced) :
    Meets (uncontested backend cfg ref) (fun _ _ => True) (fun _ w' => Turned cfg ref a w')
      (handle cfg e) a := by
  subst href
  refine Meets.perform_bind fun w₁ hmove r w₂ hans => ?_
  obtain ⟨hnow, -⟩ := stays_of_call (o := .now) rfl hmove hans
  refine ⟨trivial, fun (now : Time) _ => ?_, fun _ _ => .uncommitted hnow.found⟩
  refine Meets.perform_bind fun w₃ hmove' r' w₄ hans' => ?_
  obtain ⟨hclaim, -⟩ := stays_of_call
    (o := .claim (e.dedup cfg) "inbound" now cfg.idempotencyTtlSeconds) rfl hmove' hans'
  have hstays := hnow.trans hclaim
  refine ⟨trivial, fun (claimed : Bool) _ => ?_, fun _ _ => .uncommitted hstays.found⟩
  cases claimed with
  | true =>
    refine attempts_passes rfl hkeyed htrigger MAX_CONFLICT_RETRIES "" ⟨hstays, fun y hy => ?_⟩
    rcases List.mem_append.mp hy with hy | hy <;> obtain rfl := List.mem_singleton.mp hy
    all_goals
      exact ⟨(fun hk => nomatch hk), (fun _ heq => nomatch heq), fun _ _ _ _ heq => nomatch heq⟩
  | false =>
    refine Meets.perform_bind fun w₅ hmove'' r'' w₆ hans'' => ?_
    obtain ⟨hload, -⟩ := stays_of_call (o := .load e.conversationRef) rfl hmove'' hans''
    have hfound := hload.found.trans hstays.found
    exact ⟨trivial, fun _ _ => .uncommitted hfound, fun _ _ => .uncommitted hfound⟩

end Placed

end Walk

/-! ## Asked and waited for -/

/-- The execution of the request, and the message it leaves for the tutor: it was made about the
hold that was found to be live. -/
def RequestsFor (ref : String) (before : Record) (x : Entry ports Exn) (m : OutboundMessage) :
    Prop :=
  ∃ ctx payload effect hold,
    x.call = ⟨.execute .requestTutorConfirmation ctx payload, .ok effect⟩ ∧
    latest holdFound (before.map Entry.call) = some (ref, ctx.now, some hold) ∧
    ctx.facts "hold_id" = some (.str hold.holdId) ∧ m ∈ effect.queued ctx ∧ m.kind = .tutorRequest

/-- **The tutor is asked**: a request for the live hold is handed to the boundary. -/
def Asks (ref : String) (entries : Record) : Prop :=
  ∃ before x after m, entries = before ++ x :: after ∧ RequestsFor ref before x m ∧ Sends after m

/-- **The conversation waits** for the tutor. -/
def World.waits {C : Type} [ConversationRepository C] (w : World C) (ref : String) : Prop :=
  (w.found ref).state = .tutorConfirmationPending

/-- The call of a request that loads a demo. -/
def RequestReads (x : Entry ports Exn) (demo : Demo) : Prop :=
  ∃ ctx payload r, Executes x .requestTutorConfirmation ctx payload r ∧
    (⟨.demoForConversation ctx.conversationRef, .ok (some demo)⟩ : Call ports Exn) ∈ x.inner

/-- The call of a request that schedules the expiry, and how it is answered. -/
def RequestSchedules (ref : String) (x : Entry ports Exn) (r : Except Exn Unit) : Prop :=
  ∃ ctx payload r', Executes x .requestTutorConfirmation ctx payload r' ∧ ∃ name due demoId,
    (⟨.schedule name due (tutorExpiry ref demoId), r⟩ : Call ports Exn) ∈ x.inner

/-- The turn has asked exactly if the conversation waits, and then the expiry is scheduled. -/
structure AskedIffWaiting {C : Type} [ConversationRepository C] (ref : String) (entries : Record)
    (w : World C) : Prop where
  asked : Asks ref entries ↔ w.waits ref
  scheduled : w.waits ref → ∃ x ∈ entries, RequestSchedules ref x (.ok ())

/-- What was to be written is not: the conversation is not loaded, or the store is left at the
version the write named. -/
inductive CutOff {C : Type} [ConversationRepository C] (ref : String) (w : World C)
    (y : Entry ports Exn) : Prop
  | unread {exn : Exn} (h : y.call = ⟨.load ref, .error exn⟩)
  | lost {result : TransitionResult} {now : Time} {facts : Facts}
    (h : y.call.1 = .saveTransition result now facts)
    (hversion : (w.found ref).version ≤ result.expectedVersion)

/-- A write raises, not for a conflict. -/
def RaisesWrite (y : Entry ports Exn) : Prop :=
  ∃ result now facts exn, y.call = ⟨.saveTransition result now facts, .error exn⟩ ∧ exn.final

/-- **What may not go wrong** in a turn that has moved the conversation on to wait: the write is
answered; the demo has a template; should the request fail, this is stored; and should the
scheduler raise, the write of the failure raises too, so that nothing is sent. -/
structure Unhindered {C : Type} [ConversationRepository C] (cfg : Config) (ref : String)
    (entries : Record) (w : World C) : Prop where
  answered : ∃ y ∈ entries, ∃ result now facts s, y.call = ⟨.saveTransition result now facts, .ok s⟩
  bound : ∀ x ∈ entries, ∀ demo, RequestReads x demo →
    (tutorConfirmationTemplate cfg demo).isSome = true
  stored : ∀ y ∈ entries, ¬ CutOff ref w y
  scheduled : (∃ x ∈ entries, ∃ exn, RequestSchedules ref x (.error exn)) →
    ∃ y ∈ entries, RaisesWrite y

/-! ## The one request of a turn -/

/-- The turn has executed one command, which is the request. -/
structure OneRequest (ctx : TurnContext) (payload : Facts) (effect : CommandEffect)
    (inner : History ports Exn) (past after entries : Record) : Prop where
  split : entries =
    past ++ ⟨⟨.execute .requestTutorConfirmation ctx payload, .ok effect⟩, inner⟩ :: after
  before : ∀ y ∈ past, y.call.1.kind ≠ .component
  after : ∀ y ∈ after, ∀ command ctx payload, y.call.1 ≠ .execute command ctx payload

namespace OneRequest

variable {ref : String} {ctx : TurnContext} {payload : Facts} {effect : CommandEffect}
  {inner : History ports Exn} {past after entries : Record}

theorem mem (h : OneRequest ctx payload effect inner past after entries) :
    ⟨⟨.execute .requestTutorConfirmation ctx payload, .ok effect⟩, inner⟩ ∈ entries := by
  rw [h.split]
  exact List.mem_append_right _ List.mem_cons_self

theorem unique (h : OneRequest ctx payload effect inner past after entries) {y : Entry ports Exn}
    (hy : y ∈ entries) {command : Command} {ctx' : TurnContext} {payload' : Facts}
    (hcall : y.call.1 = .execute command ctx' payload') :
    y = ⟨⟨.execute .requestTutorConfirmation ctx payload, .ok effect⟩, inner⟩ := by
  rw [h.split] at hy
  rcases List.mem_append.mp hy with hy | hy
  · exact absurd (by rw [hcall]; rfl) (h.before y hy)
  · rcases List.mem_cons.mp hy with hy | hy
    · exact hy
    · exact absurd hcall (h.after y hy _ _ _)

/-- Whatever is handed over, is after it. -/
theorem sends (h : OneRequest ctx payload effect inner past after entries) {m : OutboundMessage}
    (hm : Sends entries m) : Sends after m := by
  obtain ⟨y, hy, hcall⟩ := hm
  rw [h.split] at hy
  rcases List.mem_append.mp hy with hy | hy
  · exact absurd (by rw [hcall]; rfl) (h.before y hy)
  · rcases List.mem_cons.mp hy with rfl | hy
    · cases hcall
    · exact ⟨y, hy, hcall⟩

/-- The tutor is asked if what the request has queued is handed over. -/
theorem asks_iff (h : OneRequest ctx payload effect inner past after entries) {hold : SlotHold}
    (hfound : latest holdFound (past.map Entry.call) = some (ref, ctx.now, some hold))
    (hfact : ctx.facts "hold_id" = some (.str hold.holdId)) (houtbox : ctx.outbox = []) :
    Asks ref entries ↔ ∃ m ∈ effect.outbox, m.kind = .tutorRequest ∧ Sends after m := by
  have hqueued : effect.queued ctx = effect.outbox := by
    rw [CommandEffect.queued, houtbox, List.length_nil, List.drop_zero]
  constructor
  · rintro ⟨before, x, rest, m, hsplit, ⟨ctx', payload', effect', _, hx, -, -, hm, hkind⟩, hsends⟩
    have hmem : x ∈ entries := by rw [hsplit]; exact List.mem_append_right _ List.mem_cons_self
    obtain rfl := h.unique hmem (congrArg Sigma.fst hx)
    cases hx
    refine ⟨m, hqueued ▸ hm, hkind, h.sends ?_⟩
    obtain ⟨y, hy, hcall⟩ := hsends
    exact ⟨y, by rw [hsplit]; exact List.mem_append_right _ (List.mem_cons_of_mem _ hy), hcall⟩
  · rintro ⟨m, hm, hkind, hsends⟩
    exact ⟨past, _, after, m, h.split,
      ⟨ctx, payload, effect, hold, rfl, hfound, hfact, hqueued ▸ hm, hkind⟩, hsends⟩

theorem schedules_iff (h : OneRequest ctx payload effect inner past after entries)
    {r : Except Exn Unit} : (∃ y ∈ entries, RequestSchedules ref y r) ↔ ∃ name due demoId,
      (⟨.schedule name due (tutorExpiry ref demoId), r⟩ : Call ports Exn) ∈ inner := by
  constructor
  · rintro ⟨y, hy, ctx', payload', r', hexec, hscheduled⟩
    obtain rfl := h.unique hy (congrArg Sigma.fst hexec)
    exact hscheduled
  · exact fun hscheduled => ⟨_, h.mem, ctx, payload, _, rfl, hscheduled⟩

theorem reads_iff (h : OneRequest ctx payload effect inner past after entries)
    {P : Demo → Prop} : (∀ y ∈ entries, ∀ demo, RequestReads y demo → P demo) ↔ ∀ demo,
      (⟨.demoForConversation ctx.conversationRef, .ok (some demo)⟩ : Call ports Exn) ∈ inner →
        P demo := by
  constructor
  · exact fun hreads demo hdemo => hreads _ h.mem demo ⟨ctx, payload, _, rfl, hdemo⟩
  · rintro hreads y hy demo ⟨ctx', payload', r', hexec, hdemo⟩
    obtain rfl := h.unique hy (congrArg Sigma.fst hexec)
    cases hexec
    exact hreads demo hdemo

end OneRequest

section Cases

variable {backend : StorageBackend} {ref : String} {s : StateSnapshot} {effect : CommandEffect}
  {after : Record} {w : World backend.Conversations}

theorem Flushed.not_cutOff {outbox : List OutboundMessage} (h : Flushed outbox after) :
    ∀ y ∈ after, ¬ CutOff ref w y := by
  intro y hy hcut
  rcases h.calls y hy with hquiet | ⟨m, hm⟩
  · cases hcut with
    | unread heq => rw [heq] at hquiet; cases hquiet
    | lost heq => rw [heq] at hquiet; cases hquiet
  · cases hcut with
    | unread heq => rw [heq] at hm; cases hm
    | lost heq => rw [heq] at hm; cases hm

theorem Flushed.not_raises {outbox : List OutboundMessage} (h : Flushed outbox after) :
    ¬ ∃ y ∈ after, RaisesWrite y := by
  rintro ⟨y, hy, result, now, facts, exn, heq, -⟩
  rcases h.calls y hy with hquiet | ⟨m, hm⟩
  · rw [heq] at hquiet
    cases hquiet
  · rw [heq] at hm
    cases hm

/-- A write whose version the store has left behind is not cut off. -/
theorem not_cutOff_writing {result : TransitionResult} {now : Time} {facts : Facts}
    {r : Except Exn StateSnapshot} (h : result.expectedVersion < (w.found ref).version) :
    ¬ CutOff ref w (writing result now facts r) := by
  rintro (heq | ⟨heq, hversion⟩)
  · cases heq
  · cases heq
    exact absurd h (Nat.not_lt.mpr hversion)

theorem not_cutOff_loading {read : StateSnapshot} : ¬ CutOff ref w (loading ref (.ok read)) := by
  rintro (heq | ⟨heq, -⟩) <;> cases heq

theorem not_raises_loading {r : Except Exn StateSnapshot} : ¬ RaisesWrite (loading ref r) := by
  rintro ⟨_, _, _, _, heq, -⟩
  cases heq

theorem not_raises_writing {result : TransitionResult} {now : Time} {facts : Facts}
    {snapshot : StateSnapshot} : ¬ RaisesWrite (writing result now facts (.ok snapshot)) := by
  rintro ⟨_, _, _, _, heq, -⟩
  cases heq

/-- **The four sequels**, by what can go wrong in them. -/
theorem Sequel.cases (h : Sequel ref s effect after w) :
    ((outcomeOf effect.outcome).failed = false ∧ w.waits ref ∧ (∀ y ∈ after, ¬ CutOff ref w y) ∧
      ∀ m ∈ effect.outbox.head?, Sends after m) ∨
    ((outcomeOf effect.outcome).failed = true ∧ ¬ w.waits ref ∧ (∀ y ∈ after, ¬ CutOff ref w y) ∧
      (¬ ∃ y ∈ after, RaisesWrite y) ∧ ∀ m ∈ effect.outbox.head?, Sends after m) ∨
    ((outcomeOf effect.outcome).failed = true ∧ w.waits ref ∧ (∃ y ∈ after, CutOff ref w y) ∧
      ∀ m, ¬ Sends after m) ∨
    ((outcomeOf effect.outcome).failed = true ∧ ¬ w.waits ref ∧ (∀ y ∈ after, ¬ CutOff ref w y) ∧
      (∃ y ∈ after, RaisesWrite y) ∧ ∀ m, ¬ Sends after m) := by
  have hsilent : ∀ {first : Entry ports Exn} {more : Record}, (∀ m, first.call.1 ≠ .send m) →
      (∀ m, ¬ Sends more m) → ∀ m, ¬ Sends (first :: more) m := by
    rintro first more hfirst hmore m ⟨y, hy, hm⟩
    rcases List.mem_cons.mp hy with rfl | hy
    · exact hfirst m hm
    · exact hmore m ⟨y, hy, hm⟩
  have hfails : FailedAfter ref s w → ¬ w.waits ref := by
    intro hstored hwaits
    rw [World.waits, hstored.state] at hwaits
    cases hwaits
  have hkept : ∀ {follow : TransitionResult}, FailedAfter ref s w →
      follow.expectedVersion = s.version → follow.expectedVersion < (w.found ref).version := by
    intro follow hstored hversion
    rw [hstored.version, hversion]
    exact Nat.lt_succ_self _
  cases h with
  | worked succeeded flushed waits =>
    exact .inl ⟨succeeded, waits.state, flushed.not_cutOff, flushed.first⟩
  | written failed version flushed stored =>
    refine .inr (.inl ⟨failed, hfails stored, fun y hy => ?_, ?_, fun m hm => ?_⟩)
    · rcases List.mem_cons.mp hy with rfl | hy
      · exact not_cutOff_loading
      · rcases List.mem_cons.mp hy with rfl | hy
        · exact not_cutOff_writing (hkept stored version)
        · exact flushed.not_cutOff y hy
    · rintro ⟨y, hy, hraises⟩
      rcases List.mem_cons.mp hy with rfl | hy
      · exact not_raises_loading hraises
      · rcases List.mem_cons.mp hy with rfl | hy
        · exact not_raises_writing hraises
        · exact flushed.not_raises ⟨y, hy, hraises⟩
    · obtain ⟨y, hy, hcall⟩ := flushed.first m hm
      exact ⟨y, List.mem_cons_of_mem _ (List.mem_cons_of_mem _ hy), hcall⟩
  | unread failed waits =>
    refine .inr (.inr (.inl ⟨failed, waits.state, ⟨_, List.mem_cons_self, .unread rfl⟩, ?_⟩))
    exact hsilent (fun m heq => by cases heq) not_sends_nil
  | @raised read follow now facts exn _ failed version final stored =>
    have hnone : ∀ m, ¬ Sends [loading ref (.ok read), writing follow now facts (.error exn)] m :=
      hsilent (fun m heq => by cases heq) (hsilent (fun m heq => by cases heq) not_sends_nil)
    rcases stored with waits | stored
    · refine .inr (.inr (.inl ⟨failed, waits.state,
        ⟨_, List.mem_cons_of_mem _ List.mem_cons_self, ?_⟩, hnone⟩))
      exact .lost rfl (waits.version.trans version.symm).le
    · refine .inr (.inr (.inr ⟨failed, hfails stored, fun y hy => ?_,
        ⟨_, List.mem_cons_of_mem _ List.mem_cons_self, _, _, _, _, rfl, final⟩, hnone⟩))
      rcases List.mem_cons.mp hy with rfl | hy
      · exact not_cutOff_loading
      · obtain rfl := List.mem_singleton.mp hy
        exact not_cutOff_writing (hkept stored version)

/-- No other command is executed in it. -/
theorem Sequel.not_executes (h : Sequel ref s effect after w) :
    ∀ y ∈ after, ∀ command ctx payload, y.call.1 ≠ .execute command ctx payload := by
  have hflushed : ∀ {outbox : List OutboundMessage} {more : Record}, Flushed outbox more →
      ∀ y ∈ more, ∀ command ctx payload, y.call.1 ≠ .execute command ctx payload := by
    intro outbox more hflushed y hy command ctx payload heq
    rcases hflushed.calls y hy with hquiet | ⟨m, hm⟩
    · rw [heq] at hquiet
      cases hquiet
    · rw [heq] at hm
      cases hm
  intro y hy command ctx payload heq
  cases h with
  | worked succeeded flushed => exact hflushed flushed y hy _ _ _ heq
  | written failed version flushed stored =>
    rcases List.mem_cons.mp hy with rfl | hy
    · cases heq
    · rcases List.mem_cons.mp hy with rfl | hy
      · cases heq
      · exact hflushed flushed y hy _ _ _ heq
  | unread =>
    obtain rfl := List.mem_singleton.mp hy
    cases heq
  | raised =>
    rcases List.mem_cons.mp hy with rfl | hy
    · cases heq
    · obtain rfl := List.mem_singleton.mp hy
      cases heq

end Cases

/-! ## The turn that has placed a hold -/

/-- A call that executes a command is that of the transition, unless another one was executed. -/
theorem TurnCall.commanded {e : Event} {h : History ports Exn} {command : Command}
    {ctx : TurnContext} {payload : Facts} (ho : TurnCall e h (.execute command ctx payload))
    (hfirst : ∀ c ∈ h, c.1.kind ≠ .component) : ∃ result, Commanded e h result ctx := by
  cases ho with
  | quiet ho => cases ho
  | command hcmd => exact ⟨_, hcmd⟩
  | @compensate result ctx past r hcmd hlast =>
    have hmem : (⟨.execute result.command ctx e.payload, r⟩ : Call ports Exn) ∈ h := by
      rw [hlast]
      exact List.mem_append_right _ (List.mem_singleton_self _)
    exact absurd rfl (hfirst _ hmem)

/-- A hold that is placed is there. -/
theorem hold_of_placed {s : StateSnapshot} {actor : Actor} {facts : Facts}
    {result : TransitionResult} {hold : Option SlotHold}
    (h : fire s .holdPlaced actor facts = .ok result)
    (hfact : facts "hold_id" = some (.ofOption (hold.map (·.holdId)))) :
    ∃ found, hold = some found ∧ found.holdId ≠ "" := by
  obtain ⟨row, hrow, htrigger, hguard⟩ : ∃ row ∈ TRANSITIONS, row.trigger = .holdPlaced ∧
      row.guard = some holdIsLive := by simp [TRANSITIONS]
  have hnone := (fire_guard h hrow htrigger).1
  have hget : (s.facts.merge facts).get "hold_id" = .ofOption (hold.map (·.holdId)) := by
    rw [Facts.get, Facts.merge, hfact]
    rfl
  rw [Transition.refusal, hguard] at hnone
  simp only [holdIsLive, GuardContext.fact, hget] at hnone
  cases hold with
  | none => simp [Value.ofOption, Value.truthy] at hnone
  | some found =>
    refine ⟨found, rfl, fun hempty => ?_⟩
    simp [Value.ofOption, Value.truthy, hempty] at hnone

/-- **A turn that commits `HOLD_PLACED`**: nobody else moves the conversation, which is filed under
its own reference, and whatever is raised, the turn has moved it. -/
structure Placing (backend : StorageBackend) (cfg : Config) (ref : String) (e : Event)
    (a : World backend.Conversations × Record) (entries : Record)
    (b : World backend.Conversations × Record) : Prop where
  run : ∃ out, Run (uncontested backend cfg ref) (handle cfg e) a out b
  about : e.conversationRef = ref
  placed : e.trigger = .holdPlaced
  keyed : (a.1.found ref).conversationRef = ref
  record : b.2 = a.2 ++ entries
  commits : (b.1.found ref).version ≠ (a.1.found ref).version

section Placing

variable {backend : StorageBackend} {cfg : Config} {ref : String} {e : Event}
  {a b : World backend.Conversations × Record} {entries : Record}

/-- The request is made for the hold that was found. -/
theorem Placing.holding (h : Placing backend cfg ref e a entries b) {past after : Record}
    {ctx : TurnContext} {payload : Facts} {r : Except Exn CommandEffect} {inner : History ports Exn}
    (hsplit : entries =
      past ++ ⟨⟨.execute .requestTutorConfirmation ctx payload, r⟩, inner⟩ :: after)
    (hpast : ∀ y ∈ past, y.call.1.kind ≠ .component) : ctx.conversationRef = ref ∧ ctx.outbox = [] ∧
    ∃ hold, latest holdFound (past.map Entry.call) = some (ref, ctx.now, some hold) ∧
      ctx.facts "hold_id" = some (.str hold.holdId) ∧ hold.holdId ≠ "" := by
  obtain ⟨out, hrun⟩ := h.run
  obtain ⟨entries', hrecord, -, hguard⟩ := Run.record hrun
  obtain rfl : entries = entries' := List.append_cancel_left (h.record.symm.trans hrecord)
  have hcall := (hguard (TurnCall e) (Worked e) [] handle_calls).1 (past.map Entry.call) _
    (after.map Entry.call) (by rw [hsplit, List.map_append, List.map_cons])
  rw [List.nil_append] at hcall
  obtain ⟨result, ⟨s, hfire⟩, before, hold, hlast, hholding⟩ := hcall.commanded fun c hc => by
    obtain ⟨y, hy, rfl⟩ := List.mem_map.mp hc
    exact hpast y hy
  rw [h.placed] at hfire
  obtain ⟨found, rfl, hid⟩ := hold_of_placed hfire hholding.fact
  refine ⟨hholding.ref.trans h.about, hholding.outbox, found, ?_, hholding.fact, hid⟩
  rw [hlast, latest_concat_none rfl, hholding.found, h.about]

/-- What came to nothing is not cut off, once the conversation was moved on. -/
theorem Fruitless.not_cutOff {version : Nat} {y : Entry ports Exn} (h : Fruitless ref version y)
    {w : World backend.Conversations} (hversion : version < (w.found ref).version) :
    ¬ CutOff ref w y := by
  rintro (heq | ⟨heq, hle⟩)
  · exact h.loaded _ heq
  · obtain ⟨⟨o, r⟩, inner⟩ := y
    obtain rfl : o = _ := heq
    rw [(h.refused _ _ _ _ rfl).1] at hle
    exact absurd hversion (Nat.not_lt.mpr hle)

theorem Fruitless.not_raises {version : Nat} {y : Entry ports Exn} (h : Fruitless ref version y) :
    ¬ RaisesWrite y := by
  rintro ⟨result, now, facts, exn, heq, hfinal⟩
  obtain ⟨-, c, hr⟩ := h.refused _ _ _ _ heq
  cases hr
  exact hfinal

theorem Fruitless.not_answered {version : Nat} {y : Entry ports Exn} (h : Fruitless ref version y)
    {result : TransitionResult} {now : Time} {facts : Facts} {s : StateSnapshot} :
    y.call ≠ ⟨.saveTransition result now facts, .ok s⟩ := by
  intro heq
  obtain ⟨-, c, hr⟩ := h.refused _ _ _ _ heq
  cases hr

/-- A turn whose write has raised has asked nobody. -/
theorem unanswered_hinders {before : Record} {result : TransitionResult} {now : Time}
    {facts : Facts} {exn : Exn} (hfruitless : ∀ y ∈ before, Fruitless ref (a.1.found ref).version y)
    (hentries : entries = before ++ [writing result now facts (.error exn)])
    (hwaits : b.1.waits ref) :
    AskedIffWaiting ref entries b.1 ↔ Unhindered cfg ref entries b.1 := by
  subst hentries
  refine iff_of_false (fun h => ?_) fun h => ?_
  · obtain ⟨past, x, after, m, hsplit, -, ⟨y, hy, hm⟩⟩ := h.asked.mpr hwaits
    have hmem : y ∈ before ++ [writing result now facts (.error exn)] := by
      rw [hsplit]
      exact List.mem_append_right _ (List.mem_cons_of_mem _ hy)
    rcases List.mem_append.mp hmem with hmem | hmem
    · exact (hfruitless y hmem).plain (by rw [hm]; rfl)
    · obtain rfl := List.mem_singleton.mp hmem
      cases hm
  · obtain ⟨y, hy, _, _, _, _, heq⟩ := h.answered
    rcases List.mem_append.mp hy with hy | hy
    · exact (hfruitless y hy).not_answered heq
    · obtain rfl := List.mem_singleton.mp hy
      cases heq

/-- The conversation stays moved on. -/
theorem Sequel.moved {s : StateSnapshot} {effect : CommandEffect} {after : Record}
    {w : World backend.Conversations} (h : Sequel ref s effect after w) :
    s.version ≤ (w.found ref).version := by
  have hfailed : FailedAfter ref s w → s.version ≤ (w.found ref).version := fun stored => by
    rw [stored.version]
    exact Nat.le_succ _
  cases h with
  | worked _ _ waits => exact waits.version.ge
  | written _ _ _ stored => exact hfailed stored
  | unread _ waits => exact waits.version.ge
  | raised _ _ _ stored => exact stored.elim (fun waits => waits.version.ge) hfailed

/-- **A turn that has made the request**, by how the request has ended and what came after it. -/
theorem requested_iff (h : Placing backend cfg ref e a entries b) {before rest : Record}
    {result : TransitionResult} {ctx : TurnContext} {payload : Facts}
    (hfruitless : ∀ y ∈ before, Fruitless ref (a.1.found ref).version y)
    (hentries : entries = before ++ writing result ctx.now ctx.facts (.ok ctx.snapshot) :: rest)
    (hexpected : result.expectedVersion = (a.1.found ref).version)
    (hversion : ctx.snapshot.version = (a.1.found ref).version + 1)
    (hrequest : Requested cfg ref ctx payload rest b.1) :
    AskedIffWaiting ref entries b.1 ↔ Unhindered cfg ref entries b.1 := by
  obtain ⟨effect, inner, after, rfl, ⟨ctx', hends, houtbox⟩, hsequel⟩ := hrequest.sequel
  have hmoved : (a.1.found ref).version < (b.1.found ref).version :=
    Nat.lt_of_lt_of_le (by rw [hversion]; exact Nat.lt_succ_self _) hsequel.moved
  have hone : OneRequest ctx payload effect inner
      (before ++ [writing result ctx.now ctx.facts (.ok ctx.snapshot)]) after entries := by
    refine ⟨by rw [hentries, List.append_assoc, List.singleton_append], fun y hy => ?_,
      hsequel.not_executes⟩
    rcases List.mem_append.mp hy with hy | hy
    · exact (hfruitless y hy).plain
    · obtain rfl := List.mem_singleton.mp hy
      exact fun hk => nomatch hk
  obtain ⟨href, hempty, hold, hfound, hfact, hid⟩ := h.holding hone.split hone.before
  have hanswered : ∃ y ∈ entries, ∃ result now facts s,
      y.call = ⟨.saveTransition result now facts, .ok s⟩ :=
    ⟨_, by rw [hentries]; exact List.mem_append_right _ List.mem_cons_self, _, _, _, _, rfl⟩
  have hmem : ∀ {y}, y ∈ entries ↔ y ∈ before ∨
      y = writing result ctx.now ctx.facts (.ok ctx.snapshot) ∨
      y = ⟨⟨.execute .requestTutorConfirmation ctx payload, .ok effect⟩, inner⟩ ∨ y ∈ after := by
    intro y
    rw [hentries, List.mem_append, List.mem_cons, List.mem_cons]
  have hcut : (∀ y ∈ entries, ¬ CutOff ref b.1 y) ↔ ∀ y ∈ after, ¬ CutOff ref b.1 y := by
    refine ⟨fun hall y hy => hall y (hmem.mpr (.inr (.inr (.inr hy)))), fun hall y hy => ?_⟩
    rcases hmem.mp hy with hy | rfl | rfl | hy
    · exact (hfruitless y hy).not_cutOff hmoved
    · exact not_cutOff_writing (hexpected ▸ hmoved)
    · rintro (heq | ⟨heq, -⟩) <;> cases heq
    · exact hall y hy
  have hraises : (∃ y ∈ entries, RaisesWrite y) ↔ ∃ y ∈ after, RaisesWrite y := by
    refine ⟨fun ⟨y, hy, hraise⟩ => ?_, fun ⟨y, hy, hraise⟩ =>
      ⟨y, hmem.mpr (.inr (.inr (.inr hy))), hraise⟩⟩
    rcases hmem.mp hy with hy | rfl | rfl | hy
    · exact absurd hraise (hfruitless y hy).not_raises
    · exact absurd hraise not_raises_writing
    · obtain ⟨_, _, _, _, heq, -⟩ := hraise
      cases heq
    · exact ⟨y, hy, hraise⟩
  have hasks := hone.asks_iff hfound hfact hempty
  have hbound : (∀ x ∈ entries, ∀ demo, RequestReads x demo →
      (tutorConfirmationTemplate cfg demo).isSome = true) ↔ Bound cfg ref inner := by
    rw [Bound, ← href]
    exact hone.reads_iff
  have hscheduled : Schedules ref inner (.ok ()) → ∃ x ∈ entries, RequestSchedules ref x (.ok ()) :=
    hone.schedules_iff.mpr
  have hunscheduled : (∃ x ∈ entries, ∃ exn, RequestSchedules ref x (.error exn)) ↔
      ∃ exn, Schedules ref inner (.error exn) :=
    ⟨fun ⟨x, hx, exn, hraised⟩ => ⟨exn, hone.schedules_iff.mp ⟨x, hx, hraised⟩⟩,
      fun ⟨exn, hraised⟩ => by
        obtain ⟨x, hx, hx'⟩ := hone.schedules_iff.mpr hraised
        exact ⟨x, hx, exn, hx'⟩⟩
  have hid' : (ctx.facts.get "hold_id").textOrEmpty ≠ "" := by
    rw [Facts.get, hfact, Option.getD_some, Value.textOrEmpty]
    simpa [Value.truthy, Value.text] using hid
  have hsaid : ∀ {m : OutboundMessage}, effect.outbox = [m] → m.kind = .tutorRequest →
      (∀ m ∈ effect.outbox.head?, Sends after m) → Asks ref entries := by
    intro m houtbox hkind hfirst
    rw [houtbox] at hfirst hasks
    exact hasks.mpr ⟨m, List.mem_singleton_self _, hkind, hfirst m rfl⟩
  have hunsaid : effect.outbox = [] ∨ (∀ m, ¬ Sends after m) → ¬ Asks ref entries := by
    rintro hnone hasked
    obtain ⟨m, hm, -, hsends⟩ := hasks.mp hasked
    rcases hnone with hnil | hsilent
    · rw [hnil] at hm
      cases hm
    · exact hsilent m hsends
  have hiff : Unhindered cfg ref entries b.1 ↔ Bound cfg ref inner ∧
      (∀ y ∈ after, ¬ CutOff ref b.1 y) ∧
      ((∃ exn, Schedules ref inner (.error exn)) → ∃ y ∈ after, RaisesWrite y) := by
    rw [← hbound, ← hcut, ← hraises, ← hunscheduled]
    exact ⟨fun h => ⟨h.bound, h.stored, h.scheduled⟩, fun ⟨h₁, h₂, h₃⟩ => ⟨hanswered, h₁, h₂, h₃⟩⟩
  have hends' := hends.cases href hempty hid'
  rw [← houtbox] at hends'
  rw [hiff]
  rcases hends' with ⟨hworked, hbinds, hok, hnot, m, hm, hkind⟩ |
    ⟨hfailed, hbinds, hraised, m, hm, hkind⟩ | ⟨hworked, hbinds, hnil⟩ |
    ⟨hfailed, hbinds, hnot, hnil⟩
  · rcases hsequel.cases with ⟨-, hwaits, hkept, hfirst⟩ | ⟨hno, -⟩ | ⟨hno, -⟩ | ⟨hno, -⟩
    · exact iff_of_true ⟨iff_of_true (hsaid hm hkind hfirst) hwaits, fun _ => hscheduled hok⟩
        ⟨hbinds, hkept, fun ⟨exn, hexn⟩ => absurd hexn (hnot exn)⟩
    all_goals exact absurd (hno.symm.trans hworked) (by decide)
  · rcases hsequel.cases with ⟨hno, -⟩ | ⟨-, hleft, hkept, hcalm, hfirst⟩ |
      ⟨-, hwaits, ⟨y, hy, hlost⟩, hsilent⟩ | ⟨-, hleft, hkept, hraise, hsilent⟩
    · exact absurd (hno.symm.trans hfailed) (by decide)
    · exact iff_of_false (fun hasked => hleft (hasked.asked.mp (hsaid hm hkind hfirst)))
        fun hwell => hcalm (hwell.2.2 hraised)
    · exact iff_of_false (fun hasked => hunsaid (.inr hsilent) (hasked.asked.mpr hwaits))
        fun hwell => hwell.2.1 y hy hlost
    · exact iff_of_true
        ⟨iff_of_false (hunsaid (.inr hsilent)) hleft, fun hwaits => absurd hwaits hleft⟩
        ⟨hbinds, hkept, fun _ => hraise⟩
  · rcases hsequel.cases with ⟨-, hwaits, -⟩ | ⟨hno, -⟩ | ⟨hno, -⟩ | ⟨hno, -⟩
    · exact iff_of_false (fun hasked => hunsaid (.inl hnil) (hasked.asked.mpr hwaits))
        fun hwell => hbinds hwell.1
    all_goals exact absurd (hno.symm.trans hworked) (by decide)
  · rcases hsequel.cases with ⟨hno, -⟩ | ⟨-, hleft, hkept, -⟩ | ⟨-, hwaits, ⟨y, hy, hlost⟩, -⟩ |
      ⟨-, hleft, hkept, -⟩
    · exact absurd (hno.symm.trans hfailed) (by decide)
    · exact iff_of_true
        ⟨iff_of_false (hunsaid (.inl hnil)) hleft, fun hwaits => absurd hwaits hleft⟩
        ⟨hbinds, hkept, fun ⟨exn, hexn⟩ => absurd hexn (hnot exn)⟩
    · exact iff_of_false (fun hasked => hunsaid (.inl hnil) (hasked.asked.mpr hwaits))
        fun hwell => hwell.2.1 y hy hlost
    · exact iff_of_true
        ⟨iff_of_false (hunsaid (.inl hnil)) hleft, fun hwaits => absurd hwaits hleft⟩
        ⟨hbinds, hkept, fun ⟨exn, hexn⟩ => absurd hexn (hnot exn)⟩

/-- **A tutor is asked exactly when the conversation waits** for the answer, and its expiry is
scheduled then, in exactly the turns in which none of a few things goes wrong: that the write which
moves the conversation on raises; that the demo has no template; that a failure is not stored; and
that the scheduler raises, which leaves the message in the outbox, unless the write of the failure
raises as well. -/
theorem asked_iff_waiting (h : Placing backend cfg ref e a entries b) :
    AskedIffWaiting ref entries b.1 ↔ Unhindered cfg ref entries b.1 := by
  obtain ⟨out, hrun⟩ := h.run
  have hsame : ∀ {entries'}, b.2 = a.2 ++ entries' → entries = entries' := fun hrecord =>
    List.append_cancel_left (h.record.symm.trans hrecord)
  cases (handle_turns h.about h.keyed h.placed).run hrun with
  | uncommitted found => exact absurd (congrArg StateSnapshot.version found) h.commits
  | unanswered fruitless record state version =>
    exact unanswered_hinders fruitless (hsame record) state
  | requested fruitless record expected version request =>
    exact requested_iff h fruitless (hsame record) expected version request

end Placing

/-! ## A first booking -/

/-- Playing is a run that nobody disturbs. -/
theorem run_uncontested {backend : StorageBackend} {cfg : Config} {ref : String} {α : Type}
    {f : (o : Op) → World backend.Conversations → Except Exn o.Res × World backend.Conversations}
    (hf : ∀ o w, Answers o w (f o w).1 (f o w).2) (p : Act α)
    (a : World backend.Conversations × Record) :
    Run (uncontested backend cfg ref) p a (play (fun _ => enact (components cfg) f) 0 p a).1
      (play (fun _ => enact (components cfg) f) 0 p a).2 :=
  run_enact (fun _ => rfl) hf p a

/-- The parent has agreed to a time, which is held. -/
def agreed : World StorageBackend.memory.Conversations × Record := reached plainConfig agreeing

/-- The hold is placed. -/
def holdPlaced : Event := occurs "9" .holdPlaced .system

/-- What the agent does about it, when everything works. -/
def placed : World StorageBackend.memory.Conversations × Record :=
  (play (S := ports) (fun _ => enact (components plainConfig) World.obliging) 0
    (handle plainConfig holdPlaced) agreed).2

/-- An entry that hands a message over. -/
def handsOver (y : Entry ports Exn) : Bool :=
  match y.call.1 with
  | .send _ => true
  | _ => false

theorem placed_facts : (agreed.1.found "cv_c").conversationRef = "cv_c" ∧
    (agreed.1.found "cv_c").state = .slotHeld ∧
    (placed.1.found "cv_c").version ≠ (agreed.1.found "cv_c").version ∧
    (placed.1.found "cv_c").state = .tutorConfirmationPending ∧
    (placed.2.drop agreed.2.length).any handsOver = false := by
  decide +kernel

theorem placed_placing : ∃ entries,
    Placing .memory plainConfig "cv_c" holdPlaced agreed entries placed := by
  have hrun : Run (uncontested .memory plainConfig "cv_c") (handle plainConfig holdPlaced) agreed _
      placed := run_uncontested answers_obliging _ agreed
  obtain ⟨entries, hrecord, -⟩ := Run.record hrun
  exact ⟨entries, ⟨_, hrun⟩, rfl, rfl, placed_facts.1, hrecord, placed_facts.2.2.1⟩

/-- What goes wrong in it is among what may not. -/
theorem placed_asked_iff : ∃ entries,
    Placing .memory plainConfig "cv_c" holdPlaced agreed entries placed ∧
    (AskedIffWaiting "cv_c" entries placed.1 ↔ Unhindered plainConfig "cv_c" entries placed.1) := by
  obtain ⟨entries, h⟩ := placed_placing
  exact ⟨entries, h, asked_iff_waiting h⟩

/-- **A first booking waits for a tutor who was not asked.** Everything works; the demo has no time
until the tutor has accepted, so that there is no template, and the request is skipped. -/
theorem waits_unasked : ∃ (deeds : List Deed)
    (a b : World StorageBackend.memory.Conversations × Record) (e : Event) (entries : Record),
    Path (Serves plainConfig "cv_c") (introduced, []) deeds a ∧
    Placing .memory plainConfig "cv_c" e a entries b ∧ b.1.waits "cv_c" ∧
    ¬ Asks "cv_c" entries := by
  have hagreeing : ∀ task ∈ agreeing, task.Of "cv_c" := by decide
  obtain ⟨deeds, hpath⟩ : ∃ deeds, Path (Serves plainConfig "cv_c") (introduced, []) deeds agreed :=
    reached_path hagreeing
  obtain ⟨entries, h⟩ := placed_placing
  refine ⟨deeds, agreed, placed, holdPlaced, entries, hpath, h, placed_facts.2.2.2.1, ?_⟩
  rintro ⟨before, x, after, m, hsplit, -, ⟨y, hy, hm⟩⟩
  have hsilent := placed_facts.2.2.2.2
  rw [h.record, List.drop_left, List.any_eq_false] at hsilent
  refine hsilent y ?_ ?_
  · rw [hsplit]
    exact List.mem_append_right _ (List.mem_cons_of_mem _ hy)
  · rw [handsOver, hm]

end NxTutors.DemoAgent
