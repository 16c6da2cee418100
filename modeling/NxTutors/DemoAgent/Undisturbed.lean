import NxTutors.DemoAgent.Drafts
import NxTutors.DemoAgent.Serving

/-!
# Undisturbed turns

A turn that nobody disturbs is the only one to move its conversation: whatever is raised, the
conversation is what the turn has written last. Here are the parts of such a turn that come after
its first write: what a component does, what follows a command that has failed, and the flush.
-/

namespace NxTutors.DemoAgent

open Effect

/-! ## Nobody else moves the conversation -/

/-- The conversation as it is stored. -/
def World.found {C : Type} [ConversationRepository C] (w : World C) (ref : String) :
    StateSnapshot := ConversationRepository.load w.conversations ref

section Found

variable {backend : StorageBackend} {ref : String}

theorem Answers.found {o : Op} {r : Except Exn o.Res} {a b : World backend.Conversations}
    (h : Answers o a r b) (ho : o.leavesStates = true) : b.found ref = a.found ref := by
  refine h.keeps (I := fun w => w.found ref = a.found ref) rfl ?_ fun hk => ?_
  · cases o with
    | saveTransition | touchInbound | execute | send => cases ho
    | saveOwnership ownership => exact load_saveOwnership a.conversations ownership ref
    | claim key scope now ttl =>
      simp only [World.answer]
      split <;> rfl
    | recordEvent event now =>
      simp only [World.answer]
      split <;> rfl
    | claimSend message now =>
      simp only [World.answer]
      split <;> rfl
    | _ => rfl
  · cases o with
    | execute | send => cases ho
    | _ => cases hk

/-- The conversation is filed under its own reference, in a version that is not that of a new one
unless it is new. -/
structure Filed (ref : String) (s : StateSnapshot) : Prop where
  ref : s.conversationRef = ref
  written : s.state ≠ .new → 0 < s.version

/-- The setting in which nobody else moves the conversation. What else others do does not matter. -/
def uncontested (backend : StorageBackend) (cfg : Config) (ref : String) :
    Setting ports Exn (World backend.Conversations × Record) :=
  Setting.staffed ⟨Answers, fun a b => b.found ref = a.found ref⟩ (components cfg)

variable {cfg : Config} {a b c : World backend.Conversations × Record}

/-- From one state of a record to a later one the conversation stays as it is. -/
structure Stays (ref : String) (a : World backend.Conversations × Record) (after : Record)
    (b : World backend.Conversations × Record) : Prop where
  record : b.2 = a.2 ++ after
  found : b.1.found ref = a.1.found ref

theorem Stays.refl (a : World backend.Conversations × Record) : Stays ref a [] a :=
  ⟨(List.append_nil _).symm, rfl⟩

theorem Stays.trans {after after' : Record} (h : Stays ref a after b) (h' : Stays ref b after' c) :
    Stays ref a (after ++ after') c :=
  ⟨by rw [h'.record, h.record, List.append_assoc], h'.found.trans h.found⟩

/-- Others leave it. -/
theorem stays_of_moves (h : (uncontested backend cfg ref).moves a b) : Stays ref a [] b :=
  ⟨by rw [List.append_nil, h.2], h.1⟩

/-- So does a plain call that writes no state, and it does not raise a conflict. -/
theorem stays_of_call {o : Op} {r : Except Exn o.Res} (ho : o.leavesStates = true)
    (hmove : (uncontested backend cfg ref).moves a b)
    (h : (uncontested backend cfg ref).answers o b r c) :
    Stays ref a [⟨⟨o, r⟩, []⟩] c ∧ Answers o b.1 r c.1 := by
  have hnone : components cfg o = none := by
    cases o with
    | execute | send => cases ho
    | _ => rfl
  obtain ⟨⟨call, inner⟩, rfl, hcarries, hrecord⟩ := h
  obtain ⟨hans, rfl⟩ := hcarries.answers hnone
  exact ⟨⟨by rw [hrecord, hmove.2], (hans.found ho).trans hmove.1⟩, hans⟩

theorem SendCall.leavesStates {message : OutboundMessage} {o : Op} (ho : SendCall message o) :
    o.leavesStates = true := by
  cases ho <;> rfl

/-- So does a component all of whose calls write no state. -/
theorem stays_of_part {o : Op} {p : Act o.Res} {r : Except Exn o.Res} {P : Op → Prop}
    (hp : components cfg o = some p) (hcalls : p.GuardedTo (fun _ o => P o) (fun _ _ => True) [])
    (hstill : ∀ o, P o → o.leavesStates = true)
    (hmove : (uncontested backend cfg ref).moves a b)
    (h : (uncontested backend cfg ref).answers o b r c) :
    ∃ inner, Stays ref a [⟨⟨o, r⟩, inner⟩] c ∧
      Setting.Carries ⟨Answers, fun a b => b.found ref = a.found ref⟩ (components cfg) b.1
        ⟨⟨o, r⟩, inner⟩ c.1 := by
  obtain ⟨⟨call, inner⟩, rfl, hcarries, hrecord⟩ := h
  obtain ⟨hpath, hguard⟩ := hcarries.record hp
  have hinner : ∀ x ∈ inner, x.1.leavesStates = true := fun x hx => by
    obtain ⟨_, hP⟩ := (hguard _ _ hcalls).1.of_mem hx
    exact hstill _ hP
  refine ⟨inner, ⟨by rw [hrecord, hmove.2], ?_⟩, hcarries⟩
  refine hpath.invariant_of (I := fun w => w.found ref = a.1.found ref)
    (Q := fun x => x.1.leavesStates = true) hmove.1 hinner fun t x u ht hx hst => ?_
  obtain ⟨t₁, hothers, hans⟩ := hst
  exact (Answers.found hans hx).trans (hothers.trans ht)

/-- The boundary does not raise a conflict. -/
theorem stays_of_send {m : OutboundMessage} {r : Except Exn SendResult}
    (hmove : (uncontested backend cfg ref).moves a b)
    (h : (uncontested backend cfg ref).answers (.send m) b r c) :
    (∃ inner, Stays ref a [⟨⟨.send m, r⟩, inner⟩] c) ∧ ∀ exn, r = .error exn → exn.final := by
  obtain ⟨inner, hstays, hcarries⟩ := stays_of_part (o := .send m) rfl
    (Prog.Within.guardedTo (send_within (X := fun _ => True))) (fun _ ho => ho.leavesStates) hmove h
  exact ⟨⟨inner, hstays⟩, final_of_send hcarries⟩

end Found

/-! ## After the conversation was moved on -/

/-- A message is handed to the boundary. -/
def Sends (entries : Record) (m : OutboundMessage) : Prop := ∃ y ∈ entries, y.call.1 = .send m

/-- What was queued is handed over, in order, unless a send raises; and that is all. -/
structure Flushed (outbox : List OutboundMessage) (after : Record) : Prop where
  queued : ∀ m, Sends after m → m ∈ outbox
  first : ∀ m ∈ outbox.head?, Sends after m
  calls : ∀ y ∈ after, Quiet y.call.1 ∨ ∃ m, y.call.1 = .send m

theorem not_sends_nil (m : OutboundMessage) : ¬ Sends [] m := fun ⟨_, hy, _⟩ => nomatch hy

theorem sends_append {entries more : Record} {m : OutboundMessage} :
    Sends (entries ++ more) m ↔ Sends entries m ∨ Sends more m := by
  constructor
  · rintro ⟨y, hy, hm⟩
    exact (List.mem_append.mp hy).imp (fun h => ⟨y, h, hm⟩) fun h => ⟨y, h, hm⟩
  · rintro (⟨y, hy, hm⟩ | ⟨y, hy, hm⟩)
    · exact ⟨y, List.mem_append_left _ hy, hm⟩
    · exact ⟨y, List.mem_append_right _ hy, hm⟩

theorem not_sends_of_quiet {entries : Record} (h : ∀ y ∈ entries, Quiet y.call.1)
    (m : OutboundMessage) : ¬ Sends entries m := by
  rintro ⟨y, hy, hm⟩
  have hquiet := h y hy
  rw [hm] at hquiet
  cases hquiet

theorem flushed_nil : Flushed [] [] where
  queued m h := absurd h (not_sends_nil m)
  first m hm := by cases hm
  calls y hy := by cases hy

/-- Sending a message hands it over. What comes after is for the others. -/
theorem flushed_cons {m : OutboundMessage} {r : Except Exn SendResult} {inner : History ports Exn}
    {rest : List OutboundMessage} {after : Record} (h : ∀ m', Sends after m' → m' ∈ rest)
    (hcalls : ∀ y ∈ after, Quiet y.call.1 ∨ ∃ m, y.call.1 = .send m) :
    Flushed (m :: rest) ((⟨⟨.send m, r⟩, inner⟩ : Entry ports Exn) :: after) where
  queued m' := by
    rintro ⟨y, hy, hm⟩
    rcases List.mem_cons.mp hy with rfl | hy
    · cases hm
      exact List.mem_cons_self
    · exact List.mem_cons_of_mem _ (h m' ⟨y, hy, hm⟩)
  first m' hm' := by
    obtain rfl : m = m' := Option.some.inj hm'
    exact ⟨_, List.mem_cons_self, rfl⟩
  calls y hy := by
    rcases List.mem_cons.mp hy with rfl | hy
    · exact .inr ⟨m, rfl⟩
    · exact hcalls y hy

/-- What is quiet adds nothing to it. -/
theorem Flushed.append {outbox : List OutboundMessage} {after more : Record}
    (h : Flushed outbox after) (hmore : ∀ y ∈ more, Quiet y.call.1) :
    Flushed outbox (after ++ more) where
  queued m hm := h.queued m ((sends_append.mp hm).resolve_right (not_sends_of_quiet hmore m))
  first m hm := sends_append.mpr (.inl (h.first m hm))
  calls y hy := (List.mem_append.mp hy).elim (h.calls y) fun hy => .inl (hmore y hy)

section Walk

variable {backend : StorageBackend} {cfg : Config} {ref : String}
  {w : World backend.Conversations × Record}

/-- How a part of a turn ends that only sends or is quiet. -/
def EndsFlushed (ref : String) (outbox : List OutboundMessage)
    (w : World backend.Conversations × Record) {α : Type} (out : Except Exn α)
    (w' : World backend.Conversations × Record) : Prop :=
  ∃ after, Stays ref w after w' ∧ Flushed outbox after ∧ ∀ exn, out = .error exn → exn.final

theorem sendAll_flushes (messages : List OutboundMessage) (sent : Nat) (degraded : List String) :
    Meets (uncontested backend cfg ref) (fun _ _ => True) (EndsFlushed ref messages w)
      (sendAll messages sent degraded) w := by
  induction messages generalizing sent degraded w with
  | nil =>
    refine ⟨[], .refl w, flushed_nil, fun exn heq => ?_⟩
    cases heq
  | cons m rest ih =>
    refine Meets.perform_bind fun w₁ hmove r w₂ hans => ⟨trivial, ?_, fun exn hr => ?_⟩
    · rintro (outcome : SendResult) rfl
      obtain ⟨⟨inner, hstays⟩, -⟩ := stays_of_send hmove hans
      have hrest : ∀ sent degraded, Meets (uncontested backend cfg ref) (fun _ _ => True)
          (EndsFlushed ref (m :: rest) w) (sendAll rest sent degraded) w₂ := by
        intro sent degraded
        refine (ih sent degraded).post fun out w' ⟨after, hafter, hflushed, hfinal⟩ => ?_
        exact ⟨_, hstays.trans hafter, flushed_cons hflushed.queued hflushed.calls, hfinal⟩
      split
      · exact hrest _ _
      · split
        · exact hrest _ _
        · exact hrest _ _
    · subst hr
      obtain ⟨⟨inner, hstays⟩, hfinal⟩ := stays_of_send hmove hans
      refine ⟨_, hstays, flushed_cons (fun m h => absurd h (not_sends_nil m))
        (fun _ hy => nomatch hy), fun exn' heq => ?_⟩
      cases heq
      exact hfinal exn rfl

theorem Quiet.leavesStates {o : Op} (ho : Quiet o) : o.leavesStates = true := by
  cases o with
  | now | loadOwnership | saveOwnership | demoForConversation | requestForConversation
  | activeHoldFor | loadCandidates | loadDecision | orderForConversation | activationFor
  | audit => rfl
  | _ => cases ho

/-- What is quiet reads, or writes other things. -/
theorem Meets.reads {α : Type} {R : α → Prop} {p : Act α} (hp : p.Within Quiet Exn.final R) :
    Meets (uncontested backend cfg ref) (fun _ _ => True) (fun out w' =>
      (∃ after, Stays ref w after w' ∧ ∀ y ∈ after, Quiet y.call.1) ∧
        Prog.Ended R Exn.final out) p w := by
  refine Meets.of_within (I := fun w' => ∃ after, Stays ref w after w' ∧
    ∀ y ∈ after, Quiet y.call.1) hp ?_ ?_ ⟨[], .refl w, fun y hy => absurd hy List.not_mem_nil⟩
  · rintro a b ⟨after, hstays, hquiet⟩ hmove
    exact ⟨after ++ [], hstays.trans (stays_of_moves hmove), by rwa [List.append_nil]⟩
  · rintro o a r b ho ⟨after, hstays, hquiet⟩ hans
    have hsame : (uncontested backend cfg ref).moves a a := ⟨rfl, rfl⟩
    obtain ⟨hcall, hans'⟩ := stays_of_call ho.leavesStates hsame hans
    refine ⟨trivial, ⟨_, hstays.trans hcall, fun y hy => ?_⟩, Answers.final ho hans'⟩
    rcases List.mem_append.mp hy with hy | hy
    · exact hquiet y hy
    · obtain rfl := List.mem_singleton.mp hy
      exact ho

/-- **All that is left of a turn once its command has run**: the outbox is flushed. -/
theorem finish_flushes (ctx : TurnContext) (outcome : CommandOutcome)
    (f : Nat × TurnContext → TurnContext → TurnResult) :
    Meets (uncontested backend cfg ref) (fun _ _ => True) (EndsFlushed ref ctx.outbox w)
      (flush ctx >>= fun x => applyTransfer x.2 outcome >>= fun ctx' => pure (f x ctx')) w := by
  refine Meets.bind (M := EndsFlushed ref ctx.outbox w) ?_ (fun x w₁ h => ?_) fun exn w₁ h => ?_
  · refine (sendAll_flushes ctx.outbox 0 ctx.degraded).bind (fun y w₁ h => ?_) fun exn w₁ h => ?_
    · obtain ⟨after, hstays, hflushed, -⟩ := h
      exact ⟨after, hstays, hflushed, fun _ heq => by cases heq⟩
    · obtain ⟨after, hstays, hflushed, hfinal⟩ := h
      exact ⟨after, hstays, hflushed, fun _ heq => by cases heq; exact hfinal exn rfl⟩
  · obtain ⟨after, hstays, hflushed, -⟩ := h
    refine Meets.bind (Meets.reads (applyTransfer_within x.2 outcome)) (fun ctx' w₂ h => ?_)
      fun exn w₂ h => ?_
    · obtain ⟨⟨more, hmore, hquiet⟩, -⟩ := h
      exact ⟨_, hstays.trans hmore, hflushed.append hquiet, fun _ heq => by cases heq⟩
    · obtain ⟨⟨more, hmore, hquiet⟩, hended⟩ := h
      exact ⟨_, hstays.trans hmore, hflushed.append hquiet, fun _ heq => by cases heq; exact hended⟩
  · obtain ⟨after, hstays, hflushed, hfinal⟩ := h
    exact ⟨after, hstays, hflushed, fun _ heq => by cases heq; exact hfinal exn rfl⟩

/-- A conversation that waits for a tutor can always be taken out of it by a failure. -/
theorem fire_recoverable {s : StateSnapshot} (hs : s.state = .tutorConfirmationPending)
    (facts : Facts) : ∃ follow,
      fire s .recoverableFailure .system facts = .ok follow ∧
      follow.toState = .failedRecoverable ∧ follow.conversationRef = s.conversationRef ∧
      follow.expectedVersion = s.version := by
  obtain ⟨conversationRef, state, version, demoId, updatedAt, facts'⟩ := s
  cases hs
  exact ⟨_, rfl, rfl, rfl, rfl⟩

/-- The conversation waits for the tutor, in the version of a snapshot. -/
structure WaitsAt (ref : String) (s : StateSnapshot) (w : World backend.Conversations) : Prop where
  state : (w.found ref).state = .tutorConfirmationPending
  version : (w.found ref).version = s.version
  written : 0 < s.version
  ref : (w.found ref).conversationRef = ref

/-- It has been taken out of waiting, by one write more. -/
structure FailedAfter (ref : String) (s : StateSnapshot) (w : World backend.Conversations) :
    Prop where
  state : (w.found ref).state = .failedRecoverable
  version : (w.found ref).version = s.version + 1

theorem WaitsAt.of_found {s : StateSnapshot} {a b : World backend.Conversations}
    (h : WaitsAt ref s a) (hfound : b.found ref = a.found ref) : WaitsAt ref s b :=
  ⟨by rw [hfound]; exact h.state, by rw [hfound]; exact h.version, h.written,
    by rw [hfound]; exact h.ref⟩

theorem FailedAfter.of_found {s : StateSnapshot} {a b : World backend.Conversations}
    (h : FailedAfter ref s a) (hfound : b.found ref = a.found ref) : FailedAfter ref s b :=
  ⟨by rw [hfound]; exact h.state, by rw [hfound]; exact h.version⟩

/-- Writing a transition: it is refused or raises, and nothing is written, or it is written, and is
answered or raises all the same. -/
theorem save_cases {result : TransitionResult} {now : Time} {facts : Facts}
    {r : Except Exn StateSnapshot} {a b : World backend.Conversations}
    (h : Answers (.saveTransition result now facts) a r b) :
    (b = a ∧ ((∃ c, r = .error (.conflict c) ∧ (0 < result.expectedVersion →
        result.expectedVersion ≠ (a.found result.conversationRef).version)) ∨
      ∃ name, r = .error (.other name))) ∨
    ∃ snapshot, Written a.conversations b.conversations result snapshot ∧
      (r = .ok snapshot ∨ ∃ name, r = .error (.other name)) := by
  have hanswer : a.answer (.saveTransition result now facts) =
      ((ConversationRepository.saveTransition a.conversations result now facts).1.mapError
          .conflict,
        { a with conversations :=
            (ConversationRepository.saveTransition a.conversations result now facts).2 }) := rfl
  have hcases := h.repository rfl
  rw [hanswer] at hcases
  rcases @saveTransition_cases backend a.conversations result now facts with
    ⟨c, hrefused, hversion⟩ | ⟨snapshot, s', hwritten, hleft⟩
  · rw [hrefused] at hcases
    rcases hcases with ⟨rfl, rfl⟩ | ⟨⟨name, rfl⟩, rfl | rfl⟩
    · exact .inl ⟨rfl, .inl ⟨c, rfl, hversion⟩⟩
    · exact .inl ⟨rfl, .inr ⟨name, rfl⟩⟩
    · exact .inl ⟨rfl, .inr ⟨name, rfl⟩⟩
  · rw [hwritten] at hcases
    rcases hcases with ⟨rfl, rfl⟩ | ⟨⟨name, rfl⟩, rfl | rfl⟩
    · exact .inr ⟨snapshot, hleft, .inl rfl⟩
    · exact .inl ⟨rfl, .inr ⟨name, rfl⟩⟩
    · exact .inr ⟨snapshot, hleft, .inr ⟨name, rfl⟩⟩

/-- The conversation is loaded. -/
def loading (ref : String) (r : Except Exn StateSnapshot) : Entry ports Exn := ⟨⟨.load ref, r⟩, []⟩

/-- A transition is written. -/
def writing (result : TransitionResult) (now : Time) (facts : Facts)
    (r : Except Exn StateSnapshot) : Entry ports Exn := ⟨⟨.saveTransition result now facts, r⟩, []⟩

/-- **What follows a failed request**: the failure is written; or the conversation is not loaded; or
the write raises, having taken effect or not. -/
inductive FollowsUp (ref : String) (s : StateSnapshot) (ctx : TurnContext)
    (w : World backend.Conversations × Record) :
    Except Exn TurnContext → World backend.Conversations × Record → Prop
  | written {read snapshot : StateSnapshot} {follow : TransitionResult}
      {w' : World backend.Conversations × Record}
      (record : w'.2 = w.2 ++
        [loading ref (.ok read), writing follow ctx.now ctx.facts (.ok snapshot)])
      (version : follow.expectedVersion = s.version) (failed : FailedAfter ref s w'.1) :
    FollowsUp ref s ctx w (.ok { ctx with snapshot }) w'
  | unread {exn : Exn} {w' : World backend.Conversations × Record}
      (record : w'.2 = w.2 ++ [loading ref (.error exn)]) (final : exn.final)
      (waits : WaitsAt ref s w'.1) : FollowsUp ref s ctx w (.error exn) w'
  | raised {read : StateSnapshot} {follow : TransitionResult} {exn : Exn}
      {w' : World backend.Conversations × Record}
      (record : w'.2 = w.2 ++
        [loading ref (.ok read), writing follow ctx.now ctx.facts (.error exn)])
      (version : follow.expectedVersion = s.version) (final : exn.final)
      (stored : WaitsAt ref s w'.1 ∨ FailedAfter ref s w'.1) :
    FollowsUp ref s ctx w (.error exn) w'

/-- A write that names the stored version either is written, or raises what is not retried. -/
theorem save_follows {s : StateSnapshot} {follow : TransitionResult} {now : Time} {facts : Facts}
    {a b : World backend.Conversations} {r : Except Exn StateSnapshot} (hw : WaitsAt ref s a)
    (hstate : follow.toState = .failedRecoverable) (href : follow.conversationRef = ref)
    (hversion : follow.expectedVersion = s.version)
    (hans : Answers (.saveTransition follow now facts) a r b) :
    (∀ snapshot, r = .ok snapshot → FailedAfter ref s b) ∧
      ∀ exn, r = .error exn → exn.final ∧ (WaitsAt ref s b ∨ FailedAfter ref s b) := by
  subst href
  rcases save_cases hans with ⟨hleft, ⟨c, rfl, hother⟩ | ⟨name, rfl⟩⟩ | ⟨snapshot, hwritten, hr⟩
  · exact absurd (hversion.trans hw.version.symm) (hother (hversion ▸ hw.written))
  · refine ⟨(fun _ heq => nomatch heq), fun exn' heq => ?_⟩
    cases heq
    exact ⟨trivial, .inl (hleft ▸ hw)⟩
  · have hfailed : FailedAfter follow.conversationRef s b :=
      ⟨hwritten.state.trans hstate, hwritten.version.trans (congrArg (· + 1) hw.version)⟩
    rcases hr with rfl | ⟨name, rfl⟩
    · exact ⟨fun _ _ => hfailed, (fun _ heq => nomatch heq)⟩
    · refine ⟨(fun _ heq => nomatch heq), fun _ heq => ?_⟩
      cases heq
      exact ⟨trivial, .inr hfailed⟩

theorem fireInternal_followsUp {s : StateSnapshot} {ctx : TurnContext}
    (href : ctx.conversationRef = ref) (hw : WaitsAt ref s w.1) :
    Meets (uncontested backend cfg ref) (fun _ _ => True) (FollowsUp ref s ctx w)
      (fireInternal ctx .recoverableFailure) w := by
  subst href
  refine Meets.perform_bind fun w₁ hmove r w₂ hans => ?_
  obtain ⟨hstays, hans⟩ := stays_of_call (o := .load ctx.conversationRef) rfl hmove hans
  refine ⟨trivial, ?_, fun exn hr => ?_⟩
  · rintro (snapshot : StateSnapshot) rfl
    obtain rfl : snapshot = w.1.found ctx.conversationRef := by
      obtain ⟨-, hr | ⟨name, hr⟩⟩ := Answers.of_load hans
      · exact (Except.ok.inj hr).trans hmove.1
      · cases hr
    obtain ⟨follow, hfire, hstate, href, hversion⟩ := fire_recoverable hw.state ctx.facts
    rw [hfire]
    refine Meets.perform_bind fun w₃ hmove' r w₄ hans' => ?_
    obtain ⟨⟨call, inner⟩, rfl, hcarries, hrecord⟩ := hans'
    obtain ⟨hsave, rfl⟩ := hcarries.answers rfl
    have hrecord' : w₄.2 = w.2 ++
        [loading ctx.conversationRef (.ok (w.1.found ctx.conversationRef)),
          writing follow ctx.now ctx.facts r] := by
      rw [hrecord, hmove'.2, hstays.record, List.append_assoc]
      rfl
    have hexpected : follow.expectedVersion = s.version := hversion.trans hw.version
    obtain ⟨hok, herror⟩ := save_follows (hw.of_found (hmove'.1.trans hstays.found)) hstate
      (href.trans hw.ref) hexpected hsave
    refine ⟨trivial, ?_, fun exn hr => ?_⟩
    · rintro (snapshot : StateSnapshot) rfl
      exact .written hrecord' hexpected (hok snapshot rfl)
    · subst hr
      obtain ⟨hfinal, hstored⟩ := herror exn rfl
      exact .raised hrecord' hexpected hfinal hstored
  · subst hr
    refine .unread hstays.record ?_ (hw.of_found hstays.found)
    exact Answers.final_of_ne hans (fun _ _ _ heq => by cases heq) exn rfl

/-! ## States that are not left

A turn that stores only states of a kind leaves the conversation in one of them, once it is. -/

section Staying

variable {e : Event} {P : DemoState → Prop}

end Staying

end Walk

end NxTutors.DemoAgent
