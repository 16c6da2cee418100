import NxTutors.MatchAgent.Evaluation

/-!
# The worker of the match queue

The queue hands out batches, and the worker answers with the records that are to come again: the
others are deleted. A record whose turn raises is reported. One whose body is no envelope is not,
and neither is one that a switch has declined, whose turn returns like any other.
-/

namespace NxTutors.MatchAgent

open Effect Prog

/-- One record of a batch. -/
structure Record where
  messageId : String
  body : String
  deriving DecidableEq, Repr

/-- A deployment of the worker. -/
structure Worker where
  service : Service
  /-- the envelope that a body is, if it is one -/
  validateJson : String → Option InboundEnvelope

namespace Worker

variable (k : Worker)

/-- The records of a batch, one after another, and those that are reported. -/
def loop (failures : List String) : List Record → Turn (List String)
  | [] => .ret failures
  | record :: rest =>
    match k.validateJson record.body with
    -- not retryable
    | none => loop failures rest
    | some envelope => do
      let ended ← (TurnService.handle k.service envelope).attempt
      match ended with
      | .ok _ => loop failures rest
      | .error _ => loop (failures ++ [record.messageId]) rest

/-- `match_worker_handler`, with the identifiers of its `batchItemFailures`. -/
def matchWorkerHandler (records : List Record) : Turn (List String) := loop k [] records

end Worker

/-! ## What a turn comes to -/

/-- A turn was processed, answered as a duplicate or shed. -/
def TurnResult.accounted (r : TurnResult) : Bool := r.served || r.duplicate || r.throttled

/-- The turn found the switch on, and nothing raised then. -/
def Declined (log : History ports Fault) : Prop :=
  ⟨Op.isPaused, .ok true⟩ ∈ log ∧ ∀ c f, ⟨Op.loadState c, .error f⟩ ∉ log

section Turns

variable {s : Service} {e : InboundEnvelope} {fails : Op → Prop} {w w' : World}
  {log : History ports Fault} {out : Except Fault TurnResult}

/-- Past the switch, which is not read again, what is returned is accounted for. -/
abbrev Past (p : Turn TurnResult) : Prop :=
  TurnService.Calls (· ≠ .isPaused) (fun r => r.accounted = true) p

theorem past_call_bind {o : Op} {f : o.Res → Turn TurnResult} (ho : o ≠ .isPaused)
    (hf : ∀ a, Past (f a)) : Past (call o >>= f) :=
  TurnService.calls_call_bind ho hf

theorem past_handleSelection {snapshot : ConversationSnapshot} :
    Past (TurnService.handleSelection s e snapshot) := by
  unfold TurnService.handleSelection
  refine past_call_bind nofun fun now => ?_
  dsimp only
  split
  · refine past_call_bind nofun fun _ => ?_
    refine (TurnService.calls_recordDeed fun _ => nofun).bind fun _ _ => ?_
    exact (TurnService.calls_enqueueReply fun _ => nofun).bind fun _ _ => within_ret.mpr rfl
  · exact within_ret.mpr rfl

variable {expected : Nat} {snapshot : ConversationSnapshot} {now : Time}

theorem past_serve : Past (TurnService.serve s e expected snapshot now) := by
  unfold TurnService.serve
  refine (TurnService.calls_resolve (fun _ _ _ => nofun) fun _ _ => nofun).bind fun x _ => ?_
  refine past_call_bind nofun fun stored => past_call_bind nofun fun _ => ?_
  dsimp only
  split
  · refine past_call_bind nofun fun run => past_call_bind nofun fun _ => ?_
    exact past_call_bind nofun fun _ =>
      TurnService.calls_replied (fun _ => nofun) (fun _ => nofun) fun _ => rfl
  · exact past_call_bind nofun fun _ =>
      TurnService.calls_replied (fun _ => nofun) (fun _ => nofun) fun _ => rfl

theorem past_handleMessage : Past (TurnService.handleMessage s e snapshot now) := by
  unfold TurnService.handleMessage
  refine (TurnService.calls_assessAbuse fun _ _ => nofun).bind fun assessment _ => ?_
  split
  · exact past_call_bind nofun fun _ => within_ret.mpr rfl
  · refine (TurnService.calls_answerTutorLookup fun _ => nofun).bind fun lookup _ => ?_
    cases lookup with
    | none => exact past_serve
    | some reply =>
      refine past_call_bind nofun fun _ => ?_
      exact (TurnService.calls_enqueueReply fun _ => nofun).bind fun _ _ => within_ret.mpr rfl

theorem past_process : Past (TurnService.process s e) := by
  unfold TurnService.process
  refine past_call_bind nofun fun now => past_call_bind nofun fun snapshot => ?_
  split
  · exact past_handleSelection
  · exact past_handleMessage

/-- What the switch is found to be is in the log. -/
def Read (stopped : Bool) (log : History ports Fault) : Prop :=
  (stopped = true → log = [⟨Op.isPaused, .ok true⟩]) ∧
    (stopped = false → ⟨Op.isPaused, .ok true⟩ ∉ log)

theorem paused_meets : Meets (stores fails).logged (fun _ _ => True)
    (fun out b => ∃ stopped, out = .ok stopped ∧ Read stopped b.2)
    (TurnService.paused s) (w, []) := by
  by_cases hswitched : s.switched = true
  · have hread : TurnService.paused s = (call .isPaused).tryCatch fun _ => .ret false :=
      if_pos hswitched
    rw [hread]
    refine Meets.tryCatch (M := fun out b => b.2 = [⟨Op.isPaused, out⟩]) ?_ ?_ ?_
    · refine meets_perform.mpr fun a hm r b hans => ⟨trivial, ?_⟩
      rw [hans.2, hm.2]
      rfl
    · rintro stopped b hb
      refine ⟨stopped, rfl, fun htrue => ?_, fun hfalse hmem => ?_⟩
      · rw [hb, htrue]
        rfl
      · rw [hb, hfalse] at hmem
        cases List.mem_singleton.mp hmem
    · rintro f b hb
      refine ⟨false, rfl, nofun, fun _ hmem => ?_⟩
      rw [show b.2 = _ from hb] at hmem
      cases List.mem_singleton.mp hmem
  · have hread : TurnService.paused s = .ret false := if_neg hswitched
    rw [hread]
    exact ⟨false, rfl, nofun, fun _ => List.not_mem_nil⟩

/-- **A turn is declined** just when it returns and is not accounted for. -/
theorem handle_meets : Meets (stores fails).logged (fun _ _ => True)
    (fun out b => Declined b.2 ↔ ∃ r, out = .ok r ∧ r.accounted = false)
    (TurnService.handle s e) (w, []) := by
  refine paused_meets.bind (fun stopped a ha => ?_) ?_
  · obtain ⟨_, heq, hread⟩ := ha
    cases heq
    cases stopped with
    | true =>
      rw [if_pos rfl]
      refine Meets.perform_bind (S := ports) (o := .loadState _) fun a' hm r b hans => ?_
      have hlog : b.2 = [⟨Op.isPaused, .ok true⟩] ++ [⟨Op.loadState e.conversationId, r⟩] := by
        rw [hans.2, hm.2, hread.1 rfl]
      refine ⟨trivial, fun snapshot hsnapshot => ?_, fun f hf => ?_⟩
      · have hdeclined : Declined b.2 := by
          rw [hlog, hsnapshot]
          refine ⟨.head _, fun c f hmem => ?_⟩
          rcases List.mem_append.mp hmem with hmem | hmem <;> cases List.mem_singleton.mp hmem
        exact iff_of_true hdeclined ⟨_, rfl, rfl⟩
      · refine iff_of_false (fun hdeclined => ?_) fun ⟨_, hr, _⟩ => nomatch hr
        refine hdeclined.2 e.conversationId f ?_
        rw [hlog, hf]
        exact .tail _ (.head _)
    | false =>
      rw [if_neg (by decide)]
      have hpast : Past (do
          let ours : Bool ← call (.claim e.dedupKey)
          if ours then
            (TurnService.process s e).tryCatch fun fault => do
              let _ ← call (.release e.dedupKey)
              .throw fault
          else do
            let snapshot ← call (.loadState e.conversationId)
            .ret { conversationId := e.conversationId, state := snapshot.state, reply := none
                   duplicate := true }) := by
        refine past_call_bind nofun fun ours => ?_
        split
        · exact past_process.tryCatch fun _ _ => past_call_bind nofun fun _ => trivial
        · exact past_call_bind nofun fun _ => within_ret.mpr rfl
      refine (Meets.of_within (I := fun b => ⟨Op.isPaused, .ok true⟩ ∉ b.2) hpast ?_ ?_
        (hread.2 rfl)).post ?_
      · rintro b c hb hm
        rw [hm.2]
        exact hb
      · rintro o b r c ho hb hans
        refine ⟨trivial, ?_, fun _ _ => trivial⟩
        rw [hans.2]
        intro hmem
        rcases List.mem_append.mp hmem with hmem | hmem
        · exact hb hmem
        · have heq := List.mem_singleton.mp hmem
          injection heq with hop
          exact ho hop.symm
      · rintro out b ⟨hb, hend⟩
        refine iff_of_false (fun hdeclined => hb hdeclined.1) ?_
        rintro ⟨r, rfl, hr⟩
        rw [show r.accounted = true from hend] at hr
        cases hr
  · rintro f b ⟨_, heq, -⟩
    cases heq

end Turns

/-! ## What a batch comes to -/

/-- A record of a batch that has been worked on: the calls of its turn and how it ended, if the body
of the record is an envelope. -/
structure Work where
  record : Record
  turn : Option (History ports Fault × Except Fault TurnResult)

namespace Work

variable (work : Work)

/-- Its turn raised. -/
def failed : Bool := work.turn.any fun turn => !turn.2.isOk

/-- Its turn was processed, answered as a duplicate or shed. -/
def Answered : Prop := ∃ log r, work.turn = some (log, .ok r) ∧ r.accounted = true

/-- Its turn was declined. -/
def Declined : Prop := ∃ log out, work.turn = some (log, out) ∧ MatchAgent.Declined log

end Work

/-- `batchItemFailures`. -/
def reported (works : List Work) : List String :=
  (works.filter Work.failed).map (·.record.messageId)

/-- **A batch is worked on**, record after record. -/
inductive Worker.Works (k : Worker) (fails : Op → Prop) : World → List Work → World → Prop
  | nil {w : World} : Works k fails w [] w
  | unparsed {w w' : World} {record : Record} {rest : List Work}
    (h : k.validateJson record.body = none) (hrest : Works k fails w rest w') :
    Works k fails w (⟨record, none⟩ :: rest) w'
  | turn {w w₁ w' : World} {record : Record} {e : InboundEnvelope} {log : History ports Fault}
    {out : Except Fault TurnResult} {rest : List Work} (h : k.validateJson record.body = some e)
    (hrun : Run (stores fails).logged (TurnService.handle k.service e) (w, []) out (w₁, log))
    (hrest : Works k fails w₁ rest w') : Works k fails w (⟨record, some (log, out)⟩ :: rest) w'

section Batches

variable {k : Worker} {fails : Op → Prop} {w w' : World} {works : List Work}

/-- A batch that is worked on is a run of the handler. -/
theorem Worker.Works.run_loop (h : k.Works fails w works w') (failures : List String) :
    Run (stores fails) (k.loop failures (works.map (·.record))) w
      (.ok (failures ++ reported works)) w' := by
  induction h generalizing failures with
  | nil =>
    have hnone : failures ++ reported [] = failures := List.append_nil _
    rw [hnone]
    exact .ret
  | @unparsed w w' record rest hnone _ ih =>
    rw [List.map_cons, loop, hnone]
    exact ih failures
  | @turn w w₁ w' record e log out rest hsome hrun _ ih =>
    rw [List.map_cons, loop, hsome]
    have hattempt := run_attempt_iff.mpr ⟨out, hrun.unlogged, rfl⟩
    cases out with
    | ok r => exact run_bind_iff.mpr (.inl ⟨_, _, hattempt, ih failures⟩)
    | error f =>
      refine run_bind_iff.mpr (.inl ⟨_, _, hattempt, ?_⟩)
      have hrest := ih (failures ++ [record.messageId])
      rwa [List.append_assoc] at hrest

/-- **Every run of the handler** works on its batch, and raises nothing. -/
theorem works_of_run {records : List Record} {failures : List String} :
    Meets (stores fails) (fun _ _ => True) (fun out w' => ∃ works, k.Works fails w works w' ∧
      works.map (·.record) = records ∧ out = .ok (failures ++ reported works))
      (k.loop failures records) w := by
  refine .of_run fun out w' h => ?_
  induction records generalizing failures w with
  | nil =>
    obtain ⟨rfl, rfl⟩ := run_ret_iff.mp h
    exact ⟨[], .nil, rfl, congrArg Except.ok (List.append_nil failures).symm⟩
  | cons record rest ih =>
    rw [Worker.loop] at h
    cases hparse : k.validateJson record.body with
    | none =>
      rw [hparse] at h
      obtain ⟨works, hworks, rfl, rfl⟩ := ih h
      exact ⟨⟨record, none⟩ :: works, .unparsed hparse hworks, rfl, rfl⟩
    | some e =>
      rw [hparse] at h
      rcases run_bind_iff.mp h with ⟨ended, w₁, hattempt, hrest⟩ | ⟨f, hattempt, -⟩
      · obtain ⟨_, hrun, hended⟩ := run_attempt_iff.mp hattempt
        cases hended
        obtain ⟨log, hlogged⟩ := hrun.logged []
        cases ended with
        | ok r =>
          obtain ⟨works, hworks, rfl, rfl⟩ := ih hrest
          exact ⟨⟨record, some (_, .ok r)⟩ :: works, .turn hparse hlogged hworks, rfl, rfl⟩
        | error f =>
          obtain ⟨works, hworks, rfl, rfl⟩ := ih hrest
          refine ⟨⟨record, some (_, .error f)⟩ :: works, .turn hparse hlogged hworks, rfl, ?_⟩
          rw [List.append_assoc]
          rfl
      · obtain ⟨r, -, hr⟩ := run_attempt_iff.mp hattempt
        cases hr

/-- **What the turn of a record comes to**: it is answered or reported just when the body is an
envelope and the turn was not declined. -/
theorem Worker.Works.answered_iff (h : k.Works fails w works w') {work : Work}
    (hwork : work ∈ works) : (work.Answered ∨ work.failed = true) ↔
      (k.validateJson work.record.body).isSome ∧ ¬ work.Declined := by
  induction h with
  | nil => cases hwork
  | @unparsed w w' record rest hnone _ ih =>
    rcases List.mem_cons.mp hwork with rfl | hwork
    · refine iff_of_false ?_ (by rw [hnone]; rintro ⟨hsome, -⟩; cases hsome)
      rintro (⟨_, _, hturn, -⟩ | hfailed)
      · cases hturn
      · cases hfailed
    · exact ih hwork
  | @turn w w₁ w' record e log out rest hsome hrun _ ih =>
    rcases List.mem_cons.mp hwork with rfl | hwork
    · have hdeclined : Declined log ↔ _ := handle_meets.run hrun
      have hsame : Work.Declined ⟨record, some (log, out)⟩ ↔ Declined log := by
        refine ⟨?_, fun h => ⟨log, out, rfl, h⟩⟩
        rintro ⟨_, _, hturn, h⟩
        cases hturn
        exact h
      rw [hsome, hsame, hdeclined]
      cases out with
      | error f => exact iff_of_true (.inr rfl) ⟨rfl, fun ⟨_, hr, _⟩ => nomatch hr⟩
      | ok r =>
        cases hr : r.accounted with
        | true =>
          refine iff_of_true (.inl ⟨log, r, rfl, hr⟩) ⟨rfl, ?_⟩
          rintro ⟨_, hok, hfalse⟩
          cases hok
          rw [hr] at hfalse
          cases hfalse
        | false =>
          refine iff_of_false ?_ fun hnot => hnot.2 ⟨r, rfl, hr⟩
          rintro (⟨_, _, hturn, htrue⟩ | hfailed)
          · cases hturn
            rw [hr] at htrue
            cases htrue
          · cases hfailed
    · exact ih hwork

/-- In a batch whose records have identifiers of their own, those whose turns raised are
reported. -/
theorem mem_reported_iff (hids : (works.map (·.record.messageId)).Nodup) {work : Work}
    (hwork : work ∈ works) : work.record.messageId ∈ reported works ↔ work.failed = true := by
  rw [reported, List.mem_map]
  constructor
  · rintro ⟨other, hother, hid⟩
    obtain ⟨hmem, hfailed⟩ := List.mem_filter.mp hother
    rwa [← List.inj_on_of_nodup_map hids hmem hwork hid]
  · exact fun hfailed => ⟨work, List.mem_filter.mpr ⟨hwork, hfailed⟩, rfl⟩

/-- **When no record is dropped.** In every run of the handler every record is answered or comes
again, just when the body of each is an envelope and none of their turns was declined. -/
theorem accounted_iff (h : k.Works fails w works w')
    (hids : (works.map (·.record.messageId)).Nodup) :
    Run (stores fails) (k.matchWorkerHandler (works.map (·.record))) w (.ok (reported works)) w' ∧
      ((∀ work ∈ works, work.Answered ∨ work.record.messageId ∈ reported works) ↔
        ∀ work ∈ works, (k.validateJson work.record.body).isSome ∧ ¬ work.Declined) := by
  refine ⟨h.run_loop [], forall₂_congr fun work hwork => ?_⟩
  rw [mem_reported_iff hids hwork]
  exact h.answered_iff hwork

end Batches

/-! ### Batches of a small deployment -/

/-- A choice where there is nothing to choose. -/
def lateChoice : InboundEnvelope := selectionOf "m1" m1_le

/-- Whatever is in braces is that choice. -/
def smallWorker (switched : Bool) : Worker where
  service := { smallService with switched }
  validateJson body := if body = "choice" then some lateChoice else none

/-- The record of the choice is answered. -/
theorem choice_accounted : ∃ work w,
    (smallWorker false).Works (fun _ => False) .fresh [work] w ∧
      (work.Answered ∨ work.record.messageId ∈ reported [work]) := by
  have hserved : Outside.eval {} (TurnService.handle smallService lateChoice) .fresh =
      (.ok (Outside.unchosen lateChoice (World.fresh.load "wa:1")),
        World.fresh.claimed "m1" 0) := rfl
  obtain ⟨log, hrun⟩ := Outside.run_of_eval {} (fun _ => False) hserved
  have hworks := @Worker.Works.turn (smallWorker false) _ _ _ _ ⟨"1", "choice"⟩ _ _ _ _ rfl hrun
    .nil
  refine ⟨_, _, hworks, ((accounted_iff hworks (List.nodup_singleton _)).2.mpr ?_) _ (.head _)⟩
  intro work hwork
  obtain rfl := List.mem_singleton.mp hwork
  refine ⟨rfl, ?_⟩
  rintro ⟨_, _, hturn, hdeclined⟩
  cases hturn
  obtain ⟨_, hr, haccounted⟩ := (handle_meets.run hrun).mp hdeclined
  cases hr
  cases haccounted

/-- **A batch is dropped**: the body of its first record is no envelope, and a switch declines the
turn of the second. -/
theorem batch_dropped : ¬ ∀ k fails w works w', Worker.Works k fails w works w' →
    (works.map (·.record.messageId)).Nodup →
      ∀ work ∈ works, work.Answered ∨ work.record.messageId ∈ reported works := by
  intro h
  have hpaused : Outside.eval { paused := true }
      (TurnService.handle (smallWorker true).service lateChoice) .fresh =
      (.ok (Outside.declined lateChoice .fresh), .fresh) := Outside.eval_handle_paused _ rfl
  obtain ⟨log, hrun⟩ := Outside.run_of_eval _ (fun _ => False) hpaused
  have hworks := @Worker.Works.unparsed (smallWorker true) _ _ _ ⟨"1", ""⟩ _ rfl
    (@Worker.Works.turn _ _ _ _ _ ⟨"2", "choice"⟩ _ _ _ _ rfl hrun .nil)
  rcases h _ _ _ _ _ hworks (by simp) _ (.tail _ (.head _)) with ⟨_, _, hturn, haccounted⟩ | hmem
  · cases hturn
    cases haccounted
  · cases hmem

end NxTutors.MatchAgent
