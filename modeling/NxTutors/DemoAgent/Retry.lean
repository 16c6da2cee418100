import NxTutors.DemoAgent.World
import NxTutors.Effect.Logged

/-!
# How often one event acts

A pass that meets a concurrency conflict is followed by another one. That is sound while the
conflict is about the event's own transition: nothing was stored. But the follow-on of a
failed command is stored under the same lock, after the event's own transition and its
command; when *that* write loses a race, the whole pass is repeated, and if the state others
left still allows the event's trigger, the event acts again.

The log of calls tells the two apart. `Reopened` says that a pass was decided on a state that
allows the trigger after a follow-on had lost its race; without it, the event's transition is
stored at most once and its command executed at most once, whatever others do.
-/

namespace NxTutors.DemoAgent

open Effect

/-! ## What the log shows -/

/-- The log of the calls of a turn. -/
abbrev Calls : Type := List (Call ports Exn)

/-- A write, and what it was answered. -/
abbrev written (result : TransitionResult) (now : Time) (facts : Facts)
    (r : Except Exn StateSnapshot) : Call ports Exn :=
  ⟨.saveTransition result now facts, r⟩

/-- A write that was refused with a conflict. -/
def lost : Call ports Exn → Bool
  | ⟨.saveTransition .., .error (.conflict _)⟩ => true
  | _ => false

/-- A write of the event's own transition that was not refused with a conflict. One that
raised anything else may have been stored, and is counted. -/
def stores (e : Event) : Call ports Exn → Bool
  | ⟨.saveTransition .., .error (.conflict _)⟩ => false
  | ⟨.saveTransition result _ _, _⟩ => result.trigger = e.trigger
  | _ => false

/-- The command of the row for a trigger. -/
def commandOf (trigger : Trigger) : Command :=
  ((TRANSITIONS.find? fun row => row.trigger = trigger).map Transition.command).getD .none

/-- An execution of the command of the event's own transition. -/
def executes (e : Event) : Call ports Exn → Bool
  | ⟨.execute command _ _, _⟩ => command = commandOf e.trigger
  | _ => false

/-- A write of the follow-on that lost its race. -/
def lostFollowOn (e : Event) (call : Call ports Exn) : Bool :=
  match call with
  | ⟨.saveTransition result _ _, _⟩ => lost call && result.trigger ≠ e.trigger
  | _ => false

/-- After a follow-on had lost its race, and with passes left, the conversation was loaded in
a state that allows the event's trigger to its actor. -/
def Reopened (e : Event) (log : Calls) : Prop :=
  ∃ (before : Calls) (s : StateSnapshot) (after : Calls),
    log = before ++ ⟨.load e.conversationRef, .ok s⟩ :: after ∧
    (∃ call ∈ before, lostFollowOn e call = true) ∧
    before.countP lost < MAX_CONFLICT_RETRIES ∧ e.trigger ∈ available s e.actor

theorem Reopened.append {e : Event} {log : Calls} (h : Reopened e log) (more : Calls) :
    Reopened e (log ++ more) := by
  obtain ⟨before, s, after, rfl, hlost, hcount, havail⟩ := h
  exact ⟨before, s, after ++ more, by simp, hlost, hcount, havail⟩

/-- A call that none of the counts is about. -/
structure Silent (e : Event) (call : Call ports Exn) : Prop where
  lost : lost call = false
  stores : stores e call = false
  executes : executes e call = false
  lostFollowOn : lostFollowOn e call = false

theorem Quiet.silent {e : Event} {o : Op} (h : Quiet o) (r : Except Exn o.Res) :
    Silent e ⟨o, r⟩ := by
  cases o with
  | saveTransition => exact absurd h Bool.false_ne_true
  | execute => exact absurd h Bool.false_ne_true
  | _ => exact ⟨rfl, rfl, rfl, rfl⟩

/-- Nothing of the event has been stored or executed. -/
structure Untouched (e : Event) (log : Calls) : Prop where
  stored : log.countP (stores e) = 0
  executed : log.countP (executes e) = 0

/-- The event has acted at most once. -/
structure AtMostOnce (e : Event) (log : Calls) : Prop where
  stored : log.countP (stores e) ≤ 1
  executed : log.countP (executes e) ≤ 1

theorem Untouched.atMostOnce {e : Event} {log : Calls} (h : Untouched e log) :
    AtMostOnce e log :=
  ⟨h.stored.trans_le (Nat.zero_le 1), h.executed.trans_le (Nat.zero_le 1)⟩

section Append

variable {e : Event} {log : Calls} {call : Call ports Exn}

theorem Untouched.silent (h : Untouched e log) (hs : Silent e call) :
    Untouched e (log ++ [call]) :=
  ⟨by simp [h.stored, hs.stores], by simp [h.executed, hs.executes]⟩

theorem AtMostOnce.silent (h : AtMostOnce e log) (hs : Silent e call) :
    AtMostOnce e (log ++ [call]) :=
  ⟨by simpa [hs.stores] using h.stored, by simpa [hs.executes] using h.executed⟩

theorem Silent.countP_lost (hs : Silent e call) :
    (log ++ [call]).countP DemoAgent.lost = log.countP DemoAgent.lost := by
  simp [hs.lost]

section Write

variable {result : TransitionResult} {now : Time} {facts : Facts}

/-- A write that was not refused with a conflict is not lost, and counts as stored if it is
the event's own. -/
theorem write_kept {r : Except Exn StateSnapshot} (hr : ∀ c, r ≠ .error (.conflict c)) :
    lost (written result now facts r) = false ∧
      stores e (written result now facts r) = decide (result.trigger = e.trigger) := by
  rcases r with exn | s
  · cases exn with
    | conflict c => exact absurd rfl (hr c)
    | ownership err => exact ⟨rfl, rfl⟩
    | other name => exact ⟨rfl, rfl⟩
  · exact ⟨rfl, rfl⟩

/-- The first write of the event's own transition is the only one. -/
theorem Untouched.stored_once (h : Untouched e log) (r : Except Exn StateSnapshot) :
    (log ++ [written result now facts r]).countP (stores e) ≤ 1 ∧
      (log ++ [written result now facts r]).countP (executes e) = 0 := by
  constructor
  · rw [List.countP_append, h.stored, List.countP_singleton]
    split <;> simp
  · simp [h.executed, executes]

/-- A lost write counts as nothing but a loss. -/
theorem Untouched.lose (h : Untouched e log) (c : ConcurrencyConflict) :
    Untouched e (log ++ [written result now facts (.error (.conflict c))]) :=
  ⟨by simp [h.stored, stores], by simp [h.executed, executes]⟩

theorem AtMostOnce.lose (h : AtMostOnce e log) (c : ConcurrencyConflict) :
    AtMostOnce e (log ++ [written result now facts (.error (.conflict c))]) :=
  ⟨by simpa [stores] using h.stored, by simpa [executes] using h.executed⟩

theorem countP_lost_lose (result : TransitionResult) (now : Time) (facts : Facts)
    (log : Calls) (c : ConcurrencyConflict) :
    (log ++ [written result now facts (.error (.conflict c))]).countP lost =
      log.countP lost + 1 := by
  simp [lost]

/-- A write of another transition stores nothing of the event's. -/
theorem AtMostOnce.write_other {r : Except Exn StateSnapshot} (h : AtMostOnce e log)
    (hne : result.trigger ≠ e.trigger) :
    AtMostOnce e (log ++ [written result now facts r]) := by
  have hstores : stores e (written result now facts r) = false := by
    rcases r with exn | s
    · cases exn <;> simp [stores, hne]
    · simp [stores, hne]
  exact ⟨by simpa [hstores] using h.stored, by simpa [executes] using h.executed⟩

end Write

end Append

/-! ## The invariant -/

/-- The result of firing the event: its trigger, and the commands of its row. -/
structure Own (e : Event) (result : TransitionResult) : Prop where
  trigger : result.trigger = e.trigger
  command : result.command = commandOf e.trigger
  compensation : result.compensation ≠ .none → result.compensation ≠ commandOf e.trigger

/-- What compensates a command is another one. -/
theorem compensation_ne_command : ∀ row ∈ TRANSITIONS, row.compensation ≠ .none →
    row.compensation ≠ row.command := by decide

theorem commandOf_row {row : Transition} (h : row ∈ TRANSITIONS) :
    commandOf row.trigger = row.command := by
  cases hfind : TRANSITIONS.find? fun r => r.trigger = row.trigger with
  | none =>
    have := List.find?_eq_none.mp hfind row h
    simp at this
  | some r =>
    have htrigger : r.trigger = row.trigger := by simpa using List.find?_some hfind
    rw [commandOf, hfind, row_unique (List.mem_of_find?_eq_some hfind) h htrigger]
    rfl

theorem own_of_fire {e : Event} {s : StateSnapshot} {facts : Facts} {result : TransitionResult}
    (h : fire s e.trigger e.actor facts = .ok result) : Own e result := by
  obtain ⟨row, hrow, _, htrigger, _, rfl⟩ := fire_lawful h
  have hcommand := commandOf_row hrow
  rw [htrigger] at hcommand
  exact ⟨rfl, hcommand.symm, fun hne => hcommand ▸ compensation_ne_command row hrow hne⟩

/-- What the log shows in each phase of a turn, `n` passes being left. -/
def callsPhase (e : Event) : Phase → Calls → Prop
  | .start, log | .claiming _, log | .duplicate, log => Untouched e log ∧ log.countP lost = 0
  | .idle n, log => n + log.countP lost = MAX_CONFLICT_RETRIES ∧
    (Untouched e log ∨ (AtMostOnce e log ∧ ∃ call ∈ log, lostFollowOn e call = true) ∨
      Reopened e log)
  | .decided n s, log => n + 1 + log.countP lost = MAX_CONFLICT_RETRIES ∧
    (Untouched e log ∨ (AtMostOnce e log ∧ e.trigger ∉ available s e.actor) ∨ Reopened e log)
  | .saved n result, log => n + 1 + log.countP lost = MAX_CONFLICT_RETRIES ∧ Own e result ∧
    ((log.countP (stores e) ≤ 1 ∧ log.countP (executes e) = 0) ∨ Reopened e log)
  | .failed n result, log | .following n result _, log =>
    n + 1 + log.countP lost = MAX_CONFLICT_RETRIES ∧ Own e result ∧
    e.trigger ≠ .recoverableFailure ∧ (AtMostOnce e log ∨ Reopened e log)
  | .done _, log => AtMostOnce e log ∨ Reopened e log

/-- A silent call changes no phase. -/
theorem callsPhase_silent {e : Event} {ph : Phase} {log : Calls} {call : Call ports Exn}
    (h : callsPhase e ph log) (hs : Silent e call) : callsPhase e ph (log ++ [call]) := by
  have hre : Reopened e log → Reopened e (log ++ [call]) := fun h => h.append _
  cases ph with
  | start | claiming | duplicate => exact ⟨h.1.silent hs, hs.countP_lost.trans h.2⟩
  | idle n =>
    refine ⟨by rw [hs.countP_lost]; exact h.1, ?_⟩
    rcases h.2 with h | ⟨h, c, hc, hl⟩ | h
    · exact .inl (h.silent hs)
    · exact .inr (.inl ⟨h.silent hs, c, List.mem_append_left _ hc, hl⟩)
    · exact .inr (.inr (hre h))
  | decided n s =>
    refine ⟨by rw [hs.countP_lost]; exact h.1, ?_⟩
    rcases h.2 with h | ⟨h, hn⟩ | h
    · exact .inl (h.silent hs)
    · exact .inr (.inl ⟨h.silent hs, hn⟩)
    · exact .inr (.inr (hre h))
  | saved n result =>
    refine ⟨by rw [hs.countP_lost]; exact h.1, h.2.1, h.2.2.imp (fun h => ?_) hre⟩
    exact ⟨by simpa [hs.stores] using h.1, by simpa [hs.executes] using h.2⟩
  | failed n result =>
    exact ⟨by rw [hs.countP_lost]; exact h.1, h.2.1, h.2.2.1,
      h.2.2.2.imp (fun h => h.silent hs) hre⟩
  | following n result s =>
    exact ⟨by rw [hs.countP_lost]; exact h.1, h.2.1, h.2.2.1,
      h.2.2.2.imp (fun h => h.silent hs) hre⟩
  | done result => exact h.imp (fun h => h.silent hs) hre

/-- In every phase the event has acted at most once, or it was reopened. -/
theorem callsPhase_atMostOnce {e : Event} {ph : Phase} {log : Calls} (h : callsPhase e ph log) :
    AtMostOnce e log ∨ Reopened e log := by
  cases ph with
  | start | claiming | duplicate => exact .inl h.1.atMostOnce
  | idle n =>
    rcases h.2 with h | ⟨h, _⟩ | h
    · exact .inl h.atMostOnce
    · exact .inl h
    · exact .inr h
  | decided n s =>
    rcases h.2 with h | ⟨h, _⟩ | h
    · exact .inl h.atMostOnce
    · exact .inl h
    · exact .inr h
  | saved n result => exact h.2.2.imp (fun h => ⟨h.1, h.2.trans_le (Nat.zero_le 1)⟩) id
  | failed n result => exact h.2.2.2
  | following n result s => exact h.2.2.2
  | done result => exact h

section Turn

variable {C : Type} [ConversationRepository C]

/-- Repositories, components and the outside behave as they do; others do anything at all. -/
def anyone : Setting ports Exn (World C) := ⟨Answers, fun _ _ => True⟩

/-- **The invariant of a turn**, about the log of its calls. -/
def callsTurn (cfg : Config) (e : Event) :
    TurnInvariant (anyone (C := C)).logged (fun _ _ => True)
      (fun _ a => AtMostOnce e a.2 ∨ Reopened e a.2) cfg e where
  holds ph a := callsPhase e ph a.2
  move ph a b h hm := hm.2 ▸ h
  quiet ph o a r b hq h ha := ⟨trivial, ha.2 ▸ callsPhase_silent h (hq.silent r), ha.1.final hq⟩
  clock a r b h ha := by
    have h' : callsPhase e .start b.2 := ha.2 ▸ callsPhase_silent h ⟨rfl, rfl, rfl, rfl⟩
    refine ⟨trivial, ?_⟩
    cases r with
    | ok now => exact h'
    | error exn => exact callsPhase_atMostOnce h'
  claim now a r b h ha := by
    have h' : callsPhase e .duplicate b.2 := ha.2 ▸ callsPhase_silent h ⟨rfl, rfl, rfl, rfl⟩
    refine ⟨trivial, ?_⟩
    rcases r with exn | taken
    · exact .inl h'.1.atMostOnce
    · cases taken with
      | true => exact ⟨by rw [h'.2, Nat.add_zero], .inl h'.1⟩
      | false => exact h'
  load n a r b h ha := by
    have hs : Silent e ⟨.load e.conversationRef, r⟩ := ⟨rfl, rfl, rfl, rfl⟩
    refine ⟨trivial, ?_⟩
    rcases ha.1.of_load.2 with rfl | ⟨name, rfl⟩
    · rw [ha.2]
      refine ⟨by rw [hs.countP_lost]; exact h.1, ?_⟩
      rcases h.2 with hu | ⟨hone, hlost⟩ | hre
      · exact .inl (hu.silent hs)
      · -- the state loaded either bars the trigger, or reopens the event
        by_cases havail : e.trigger ∈ available
            (ConversationRepository.load a.1.conversations e.conversationRef) e.actor
        · refine .inr (.inr ⟨a.2, _, [], rfl, hlost, ?_, havail⟩)
          have := h.1
          omega
        · exact .inr (.inl ⟨hone.silent hs, havail⟩)
      · exact .inr (.inr (hre.append _))
    · exact ⟨trivial, callsPhase_atMostOnce (ha.2 ▸ callsPhase_silent h hs)⟩
  save n s now facts result a r b h hfire ha := by
    have hb : b.2 = a.2 ++ [written result now facts r] := ha.2
    have hown := own_of_fire hfire
    have hun : Untouched e a.2 ∨ Reopened e a.2 := by
      rcases h.2 with hu | ⟨_, hn⟩ | hre
      · exact .inl hu
      · exact absurd (mem_available_of_fire hfire) hn
      · exact .inr hre
    refine ⟨trivial, ?_⟩
    -- a write that is kept is the first of its kind
    have hkept : (∀ c, r ≠ .error (.conflict c)) → callsPhase e (.saved n result) b.2 := by
      intro hr
      rw [hb]
      refine ⟨?_, hown, hun.imp (fun hu => hu.stored_once r) fun hre => hre.append _⟩
      rw [List.countP_append, List.countP_singleton, (write_kept (e := e) hr).1]
      exact h.1
    rcases r with exn | s'
    · cases exn with
      | conflict c =>
        have hcount : b.2.countP lost = a.2.countP lost + 1 :=
          (congrArg (List.countP lost) hb).trans (countP_lost_lose result now facts a.2 c)
        have hpasses := h.1
        refine ⟨by omega, ?_⟩
        rw [hb]
        exact hun.imp (fun hu => hu.lose c) fun hre => .inr (hre.append _)
      | ownership err => exact callsPhase_atMostOnce (hkept nofun)
      | other name => exact callsPhase_atMostOnce (hkept nofun)
    · exact hkept nofun
  execute n result ctx payload a r b h hcmd ha := by
    have hre : Reopened e a.2 → Reopened e b.2 := fun h => ha.2 ▸ h.append _
    have hone : AtMostOnce e b.2 ∨ Reopened e b.2 := by
      refine h.2.2.imp (fun hc => ?_) hre
      rw [ha.2]
      exact ⟨by simpa [stores] using hc.1, by simp [executes, h.2.1.command, hc.2]⟩
    have hlost : b.2.countP lost = a.2.countP lost := by simp [ha.2, lost]
    have htrigger : e.trigger ≠ .recoverableFailure := by
      intro ht
      refine hcmd (h.2.1.command.trans ?_)
      rw [ht]
      rfl
    exact ⟨trivial, ⟨by rw [hlost]; exact h.1, h.2.1, htrigger, hone⟩, hone⟩
  send result m a r b h hm ha :=
    ⟨trivial, ha.2 ▸ callsPhase_silent h ⟨rfl, rfl, rfl, rfl⟩, (ha.1.neutral rfl).2⟩
  noCommand n result a hnone h := callsPhase_atMostOnce h
  compensate n result ctx payload a r b h hcomp ha := by
    have hs : Silent e ⟨.execute result.compensation ctx payload, r⟩ :=
      ⟨rfl, rfl, by simpa [executes] using h.2.1.compensation hcomp, rfl⟩
    exact ⟨trivial, ha.2 ▸ callsPhase_silent h hs⟩
  loadFollow n result a r b h ha := by
    have h' := ha.2 ▸ callsPhase_silent h ⟨rfl, rfl, rfl, rfl⟩
    refine ⟨trivial, ?_⟩
    rcases ha.1.of_load.2 with rfl | ⟨name, rfl⟩
    · exact h'
    · exact ⟨trivial, callsPhase_atMostOnce h'⟩
  skipFollow n result s facts a refusal h hfire := h.2.2.2
  saveFollow n result s now facts follow a r b h hfire ha := by
    have hb : b.2 = a.2 ++ [written follow now facts r] := ha.2
    have hfollow : follow.trigger ≠ e.trigger := by
      obtain ⟨row, _, _, _, _, rfl⟩ := fire_lawful hfire
      exact fun ht => h.2.2.1 ht.symm
    have hone : AtMostOnce e b.2 ∨ Reopened e b.2 := by
      rw [hb]
      exact h.2.2.2.imp (fun h => h.write_other hfollow) fun h => h.append _
    refine ⟨trivial, ?_⟩
    rcases r with exn | s'
    · cases exn with
      | conflict c =>
        -- the race is lost: the turn starts over, with the transition already stored
        have hlost : ∃ call ∈ b.2, lostFollowOn e call = true :=
          ⟨_, hb ▸ List.mem_append_right _ (List.mem_singleton.mpr rfl),
            by simp [lostFollowOn, lost, hfollow]⟩
        have hcount : b.2.countP lost = a.2.countP lost + 1 :=
          (congrArg (List.countP lost) hb).trans (countP_lost_lose follow now facts a.2 c)
        have hpasses := h.1
        exact ⟨by omega, .inr (hone.imp (fun h => ⟨h, hlost⟩) id)⟩
      | ownership err => exact hone
      | other name => exact hone
    · exact hone
  lastLoad ph a r b hph h ha :=
    have h' := ha.2 ▸ callsPhase_silent h ⟨rfl, rfl, rfl, rfl⟩
    ⟨trivial, h', fun _ _ => callsPhase_atMostOnce h'⟩
  raised ph exn a h hx := callsPhase_atMostOnce h
  accepted result tr a h hacc hdup := h
  rejected n s facts refusal tr a h hfire hacc hdup hreason := callsPhase_atMostOnce h
  exhausted tr a h hacc hdup := callsPhase_atMostOnce h
  duplicate tr a h hacc hdup := callsPhase_atMostOnce h

/-- **How often one event acts.** Whatever others write between the calls of `handle`, and
however its command ends: unless a follow-on loses its race and the conversation is then
found in a state that allows the trigger once more, the event's own transition is stored at
most once and its command is executed at most once. -/
theorem handle_acts_once (cfg : Config) (e : Event) {w w' : World C}
    {out : Except Exn TurnResult} {log : Calls}
    (h : Run (anyone (C := C)).logged (handle cfg e) (w, []) out (w', log))
    (hclosed : ¬ Reopened e log) :
    log.countP (stores e) ≤ 1 ∧ log.countP (executes e) ≤ 1 := by
  have hend := ((callsTurn (C := C) cfg e).handle ⟨⟨rfl, rfl⟩, rfl⟩).run h
  rcases hend with hone | hre
  · exact ⟨hone.stored, hone.executed⟩
  · exact absurd hre hclosed

end Turn

/-! ## A command that fails, with and without a race -/

/-- A log without a lost follow-on is not reopened. -/
theorem not_reopened {e : Event} {log : Calls}
    (h : ∀ call ∈ log, lostFollowOn e call = false) : ¬ Reopened e log := by
  rintro ⟨before, s, after, rfl, ⟨call, hcall, hlost⟩, _⟩
  exact Bool.false_ne_true ((h call (List.mem_append_left _ hcall)).symm.trans hlost)

/-- The parent has said something about what is needed. -/
def requirementsUpdated (eventId : String) : Event :=
  { conversationRef := "c", trigger := .requirementsUpdated, actor := .user, eventId }

/-- A conversation that collects requirements. -/
def collecting : World InMemoryConversations :=
  smoothly { conversationRef := "c", trigger := .identityUnresolved, actor := .system,
             eventId := "3" } (smoothly acquired (smoothly handoff { conversations := {} }))

/-- Asking for requirements raises, and everything else works. Before the `race`-th call,
another message of the parent is handled from beginning to end. -/
def askingFails (race : Option Nat) (n : Nat) (o : Op) (w : World InMemoryConversations) :
    Except Exn o.Res × World InMemoryConversations :=
  (if race = some n then smoothly (requirementsUpdated "other") w else w).smoothBut
    .askMissingRequirements (.error (.other "TimeoutError")) o

/-- What is left of such a run, and its log. -/
def asked (race : Option Nat) : World InMemoryConversations × Calls :=
  (play (scribe (askingFails race)) 0 (handle plainConfig (requirementsUpdated "4"))
    (collecting, [])).2

theorem run_asked (race : Option Nat) :
    ∃ out, Run anyone.logged (handle plainConfig (requirementsUpdated "4")) (collecting, []) out
      ((asked race).1, (asked race).2) :=
  ⟨_, run_play (scribe_possible fun _ o _ => ⟨_, trivial, answers_smoothBut _ _ o _⟩) 0 _ _⟩

/-- Without a race the message acts once, though its command failed. -/
theorem failed_question_acts_once :
    ∃ out w' log, Run anyone.logged (handle plainConfig (requirementsUpdated "4"))
        (collecting, []) out (w', log) ∧
      log.countP (stores (requirementsUpdated "4")) ≤ 1 ∧
      log.countP (executes (requirementsUpdated "4")) ≤ 1 := by
  obtain ⟨out, h⟩ := run_asked none
  exact ⟨out, _, _, h, handle_acts_once plainConfig _ h (not_reopened (by decide +kernel))⟩

/-- Another message is handled between the load and the write of the follow-on. The write
loses its race, the pass is repeated from a state that still collects requirements, and the
message is stored, and its command executed, a second time. -/
theorem raced_question_acts_twice :
    ∃ out w' log, Run anyone.logged (handle plainConfig (requirementsUpdated "4"))
        (collecting, []) out (w', log) ∧
      log.countP (stores (requirementsUpdated "4")) = 2 ∧
      log.countP (executes (requirementsUpdated "4")) = 2 := by
  obtain ⟨out, h⟩ := run_asked (some 13)
  exact ⟨out, _, _, h, by decide +kernel, by decide +kernel⟩

end NxTutors.DemoAgent
