import NxTutors.MatchAgent.Abuse
import NxTutors.MatchAgent.Stores

/-!
# Retries

An attempt that fails after the abuse check gives its claim back, and is made again; what the check
has noted stays. So a message that was sent once is a repeat when it is delivered again, and after
three repeats in a row that are close to each other, or at once if it asks for contact details, the
sender is told to wait and the message is done with (`retries_spared_iff`).
-/

namespace NxTutors.MatchAgent

open Effect Prog TurnService

/-! ## Attempts -/

/-- One attempt: when the message is assessed, what the other ports answer, and what has happened to
the cache since the last. -/
structure Attempt (W : Type) where
  moment : Time
  port : (o : Op) → W → Except Fault o.Res × W
  meanwhile : AbuseCache → AbuseCache

/-- What attempts leave behind. -/
structure Trail (W : Type) where
  outside : W
  cache : AbuseCache
  /-- what abuse control has said -/
  said : List (Option Enforcement) := []

/-- What is kept of abuse control. -/
def Trail.noted {W : Type} (x : Trail W) : AbuseCache × List (Option Enforcement) := (x.cache, x.said)

namespace Attempt

variable {W : Type} (s : Service) (fingerprint : String → String) (e : InboundEnvelope)

/-- The check is made by the detector, everything else is answered by the ports. -/
def answer (a : Attempt W) (o : Op) (x : Trail W) : Except Fault o.Res × Trail W :=
  match o with
  | .assessAbuse conversationRef text =>
    let found := suspicion s.t fingerprint a.moment conversationRef text x.cache
    (.ok found.1, { x with cache := found.2, said := x.said ++ [found.1] })
  | o => ((a.port o x.outside).1, { x with outside := (a.port o x.outside).2 })

/-- Deliver the envelope. -/
def run (a : Attempt W) (x : Trail W) : Except Fault TurnResult × Trail W :=
  Prog.eval (S := ports) (a.answer s fingerprint) (handle s e)
    { x with cache := a.meanwhile x.cache }

/-- Deliver it once for each attempt. -/
def runAll : List (Attempt W) → Trail W → List (Except Fault TurnResult) × Trail W
  | [], x => ([], x)
  | a :: as, x =>
    let (out, x) := a.run s fingerprint e x
    let (outs, x) := runAll as x
    (out :: outs, x)

/-- The attempt gets as far as the abuse check: nothing before it fails or stops the turn. -/
structure Reaches (a : Attempt W) : Prop where
  running : ∀ w, (a.port .isPaused w).1 ≠ .ok true
  claimed : ∀ w, (a.port (.claim e.dedupKey) w).1 = .ok true
  clock : ∀ w, ∃ now, (a.port .now w).1 = .ok now
  loaded : ∀ w, ∃ snapshot, (a.port (.loadState e.conversationId) w).1 = .ok snapshot

/-- The message is one that is assessed: there is a cache, and a text that is not blank. -/
def assessed : Bool := s.cached && Text.strip s.t e.payload.text ≠ ""

/-- What is noted of the message is not touched by others. -/
def LeavesAlone (a : Attempt W) : Prop :=
  ∀ c, ∀ key ∈ [floodKey s.t fingerprint (s.conversationHash e.conversationId) e.payload.text,
    strikesKey (s.conversationHash e.conversationId)], a.meanwhile c key = c key

end Attempt

/-! ## The rest of a turn -/

section Rest

variable {s : Service} {e : InboundEnvelope} {expected : Nat} {snapshot : ConversationSnapshot}
  {now : Time}

/-- A call that is no assessment. -/
def Op.elsewhere : Op → Prop
  | .assessAbuse _ _ => False
  | _ => True

/-- Beside the check, nothing is assessed and nothing is shed. -/
abbrev Beside (p : Turn TurnResult) : Prop := Calls Op.elsewhere (fun r => r.throttled = false) p

theorem beside_handleSelection : Beside (handleSelection s e snapshot) := by
  unfold handleSelection
  refine calls_call_bind trivial fun now => ?_
  dsimp only
  split
  · refine calls_call_bind trivial fun _ => ?_
    refine (calls_recordDeed fun _ => trivial).bind fun _ _ => ?_
    exact (calls_enqueueReply fun _ => trivial).bind fun _ _ => within_ret.mpr rfl
  · exact within_ret.mpr rfl

theorem beside_serve : Beside (serve s e expected snapshot now) := by
  unfold serve
  refine (calls_resolve (fun _ _ _ => trivial) fun _ _ => trivial).bind fun x _ => ?_
  refine calls_call_bind trivial fun stored => calls_call_bind trivial fun _ => ?_
  dsimp only
  split
  · refine calls_call_bind trivial fun run => calls_call_bind trivial fun _ => ?_
    exact calls_call_bind trivial fun _ =>
      calls_replied (fun _ => trivial) (fun _ => trivial) fun _ => rfl
  · exact calls_call_bind trivial fun _ =>
      calls_replied (fun _ => trivial) (fun _ => trivial) fun _ => rfl

/-- What comes behind the check, where the turn is not shed. -/
def heard (s : Service) (e : InboundEnvelope) (loaded : ConversationSnapshot) (now : Time) :
    Turn TurnResult := do
  let snapshot := loaded.fired .messageReceived now e.traceId
  let lookup ← answerTutorLookup s e
  match lookup with
  | some reply => do
    let snapshot := snapshot.fired .requirementsIncomplete now e.traceId
    let _ ← call (.saveState snapshot loaded.lockVersion)
    enqueueReply s e reply
    .ret { conversationId := e.conversationId, state := snapshot.state, reply := some reply
           askedFor := some "tutor_lookup" }
  | none => serve s e loaded.lockVersion snapshot now

/-- Where it is. -/
def shed (e : InboundEnvelope) (loaded : ConversationSnapshot) (assessment : Option Enforcement) :
    Turn TurnResult := do
  let _ ← call (.release e.dedupKey)
  .ret { conversationId := e.conversationId, state := loaded.state
         reply := if assessment = some .cooldown then none else some THROTTLE_REPLY
         throttled := true }

theorem handleMessage_eq : handleMessage s e snapshot now = assessAbuse s e >>= fun assessment =>
    if sheds assessment then shed e snapshot assessment else heard s e snapshot now := rfl

theorem beside_heard : Beside (heard s e snapshot now) := by
  unfold heard
  refine (calls_answerTutorLookup fun _ => trivial).bind fun lookup _ => ?_
  cases lookup with
  | none => exact beside_serve
  | some reply =>
    refine calls_call_bind trivial fun _ => ?_
    exact (calls_enqueueReply fun _ => trivial).bind fun _ _ => within_ret.mpr rfl

end Rest

/-! ## One attempt -/

namespace Attempt

section One

variable {W : Type} {s : Service} {fingerprint : String → String} {e : InboundEnvelope} {a : Attempt W}
  {x y : Trail W} {standing : Standing}

theorem noted_answer {o : Op} (ho : o.elsewhere) : (a.answer s fingerprint o y).2.noted = y.noted := by
  cases o with
  | assessAbuse _ _ => exact ho.elim
  | _ => rfl

/-- Beside the check, nothing is noted. -/
theorem noted_eval {α : Type} {R : α → Prop} {p : Turn α} (hp : Calls Op.elsewhere R p) :
    (Prog.eval (S := ports) (a.answer s fingerprint) p y).2.noted = y.noted :=
  Within.eval_same Trail.noted hp (fun _ _ ho => noted_answer ho) y

/-- A call that is answered. -/
theorem eval_call_bind {α : Type} {o : Op} {f : o.Res → Turn α} {r : o.Res} (ho : o.elsewhere)
    (hr : (a.answer s fingerprint o y).1 = .ok r) :
    ∃ z, z.noted = y.noted ∧ Prog.eval (S := ports) (a.answer s fingerprint) (call o >>= f) y =
      Prog.eval (S := ports) (a.answer s fingerprint) (f r) z := by
  refine ⟨(a.answer s fingerprint o y).2, noted_answer ho, ?_⟩
  have hcall : Prog.eval (S := ports) (a.answer s fingerprint) (call o) y =
      (.ok r, (a.answer s fingerprint o y).2) := by
    refine (Prog.eval_perform (S := ports) o y).trans ?_
    rw [← hr]
  exact Prog.eval_bind_ok hcall

/-- The switches let the turn go on. -/
theorem eval_paused_bind {α : Type} {f : Bool → Turn α} (h : a.Reaches e) :
    ∃ z, z.noted = y.noted ∧ Prog.eval (S := ports) (a.answer s fingerprint) (paused s >>= f) y =
      Prog.eval (S := ports) (a.answer s fingerprint) (f false) z := by
  have hread : ∃ z, Prog.eval (S := ports) (a.answer s fingerprint) (paused s) y = (.ok false, z) := by
    by_cases hswitched : s.switched = true
    · have hpaused : paused s = (call .isPaused).tryCatch fun _ => .ret false := if_pos hswitched
      rw [hpaused]
      rcases hanswer : a.answer s fingerprint .isPaused y with ⟨r | r, z⟩
      · have hcall : Prog.eval (S := ports) (a.answer s fingerprint) (call .isPaused) y =
            (.error r, z) := (Prog.eval_perform (S := ports) Op.isPaused y).trans hanswer
        exact ⟨z, Prog.eval_tryCatch_error hcall⟩
      · have hcall : Prog.eval (S := ports) (a.answer s fingerprint) (call .isPaused) y =
            (.ok r, z) := (Prog.eval_perform (S := ports) Op.isPaused y).trans hanswer
        have hfalse : r = false := by
          have hrunning : (.ok r : Except Fault Bool) ≠ .ok true := by
            have hfirst := congrArg Prod.fst hanswer
            intro heq
            exact h.running y.outside (hfirst.trans heq)
          cases r with
          | true => exact absurd rfl hrunning
          | false => rfl
        rw [hfalse] at hcall
        exact ⟨z, Prog.eval_tryCatch_ok hcall⟩
    · have hpaused : paused s = .ret false := if_neg hswitched
      rw [hpaused]
      exact ⟨y, rfl⟩
  obtain ⟨z, hz⟩ := hread
  refine ⟨z, ?_, Prog.eval_bind_ok hz⟩
  have hnoted := @noted_eval W s fingerprint a y Bool (fun _ => True) (paused s) (calls_paused trivial)
  rwa [hz] at hnoted

/-- **What an attempt notes is noted in the process**, and what it returns is returned there. -/
theorem run_process (h : a.Reaches e) : ∃ y : Trail W, y.cache = a.meanwhile x.cache ∧
    y.said = x.said ∧ (a.run s fingerprint e x).2.noted =
      (Prog.eval (S := ports) (a.answer s fingerprint) (process s e) y).2.noted ∧
    ∀ r, (a.run s fingerprint e x).1 = .ok r →
      (Prog.eval (S := ports) (a.answer s fingerprint) (process s e) y).1 = .ok r := by
  obtain ⟨z, hz, hpaused⟩ := @eval_paused_bind W s fingerprint e a
    { x with cache := a.meanwhile x.cache } TurnResult (fun stopped => _) h
  obtain ⟨y, hy, hclaimed⟩ := @eval_call_bind W s fingerprint a z TurnResult (.claim e.dedupKey)
    (fun ours => _) true trivial (h.claimed z.outside)
  have hrun : a.run s fingerprint e x = Prog.eval (S := ports) (a.answer s fingerprint)
      ((process s e).tryCatch fun fault => do
        let _ ← call (.release e.dedupKey)
        .throw fault) y := hpaused.trans hclaimed
  have hnoted : y.noted = (a.meanwhile x.cache, x.said) := hy.trans hz
  have hraises (fault : Fault) : Calls Op.elsewhere (fun _ => False) (do
      let _ ← call (.release e.dedupKey)
      .throw fault : Turn TurnResult) := calls_call_bind trivial fun _ => trivial
  refine ⟨y, congrArg Prod.fst hnoted, congrArg Prod.snd hnoted, ?_, fun r hr => ?_⟩
  · rw [hrun]
    rcases hbody : Prog.eval (S := ports) (a.answer s fingerprint) (process s e) y with ⟨fault | r, z'⟩
    · rw [Prog.eval_tryCatch_error hbody, noted_eval (hraises fault)]
    · rw [Prog.eval_tryCatch_ok hbody]
  · rw [hrun] at hr
    exact Prog.of_eval_tryCatch (fun fault w b hb => (hraises fault).of_eval_ok hb) hr

/-- A call that may be made in the check. -/
theorem eval_assessAbuse (hassessed : assessed s e = true) :
    Prog.eval (S := ports) (a.answer s fingerprint) (assessAbuse s e) y =
      (.ok (suspicion s.t fingerprint a.moment (s.conversationHash e.conversationId) e.payload.text
        y.cache).1, { y with
          cache := (suspicion s.t fingerprint a.moment (s.conversationHash e.conversationId)
            e.payload.text y.cache).2
          said := y.said ++ [(suspicion s.t fingerprint a.moment (s.conversationHash e.conversationId)
            e.payload.text y.cache).1] }) := by
  have hread : assessAbuse s e = (call (.assessAbuse (s.conversationHash e.conversationId)
      e.payload.text)).tryCatch fun _ => .ret none := if_pos hassessed
  rw [hread]
  exact Prog.eval_tryCatch_ok (Prog.eval_perform (S := ports)
    (Op.assessAbuse (s.conversationHash e.conversationId) e.payload.text) y)

/-- The text of a selection is blank. -/
theorem not_assessed_selection {selection : ParentSelection}
    (h : e.payload = .parentSelection selection) : assessed s e = false := by
  have htext : e.payload.text = "" := by rw [h]; rfl
  rw [assessed, htext]
  cases s.cached <;> rfl

/-- **One attempt.** A message that is not assessed is left as it stands and not shed. One that is
assessed stands as it does after one more look, and is shed only if abuse control says so. -/
theorem run_stands (h : a.Reaches e) (halone : a.LeavesAlone s fingerprint e)
    (hstands : Stands (floodKey s.t fingerprint (s.conversationHash e.conversationId) e.payload.text)
      (strikesKey (s.conversationHash e.conversationId)) x.cache standing) :
    if assessed s e then
      ∃ enforcement, (a.run s fingerprint e x).2.said = x.said ++ [enforcement] ∧
        sheds enforcement =
          (standing.told (asksForContacts s.t e.payload.text) a.moment).any harsh ∧
        Stands (floodKey s.t fingerprint (s.conversationHash e.conversationId) e.payload.text)
          (strikesKey (s.conversationHash e.conversationId)) (a.run s fingerprint e x).2.cache
          (standing.next (asksForContacts s.t e.payload.text) a.moment) ∧
        ∀ r, (a.run s fingerprint e x).1 = .ok r → sheds enforcement = false → r.throttled = false
    else (a.run s fingerprint e x).2.said = x.said ∧
      Stands (floodKey s.t fingerprint (s.conversationHash e.conversationId) e.payload.text)
        (strikesKey (s.conversationHash e.conversationId)) (a.run s fingerprint e x).2.cache
        standing ∧
      ∀ r, (a.run s fingerprint e x).1 = .ok r → r.throttled = false := by
  obtain ⟨y, hcache, hsaid, hnoted, hreturned⟩ := @run_process W s fingerprint e a x h
  have hy : Stands (floodKey s.t fingerprint (s.conversationHash e.conversationId) e.payload.text)
      (strikesKey (s.conversationHash e.conversationId)) y.cache standing := by
    rw [hcache]
    exact ⟨(halone _ _ (by simp)).trans hstands.opened, (halone _ _ (by simp)).trans hstands.struck⟩
  obtain ⟨now, hnow⟩ : ∃ now : Time, (a.port .now y.outside).1 = .ok now := h.clock y.outside
  obtain ⟨y₁, hy₁, hclock⟩ := @eval_call_bind W s fingerprint a y TurnResult .now
    (fun now => _) now trivial hnow
  obtain ⟨snapshot, hsnapshot⟩ : ∃ snapshot : ConversationSnapshot,
      (a.port (.loadState e.conversationId) y₁.outside).1 = .ok snapshot := h.loaded y₁.outside
  obtain ⟨y₂, hy₂, hloaded⟩ := @eval_call_bind W s fingerprint a y₁ TurnResult
    (.loadState e.conversationId) (fun snapshot => _) snapshot trivial hsnapshot
  obtain ⟨rest, hprocess, hwhich⟩ : ∃ rest, Prog.eval (S := ports) (a.answer s fingerprint)
      (process s e) y = Prog.eval (S := ports) (a.answer s fingerprint) rest y₂ ∧
      (rest = handleMessage s e snapshot now ∨
        rest = handleSelection s e snapshot ∧ assessed s e = false) := by
    refine ⟨_, hclock.trans hloaded, ?_⟩
    cases hpayload : e.payload with
    | parentSelection selection => exact .inr ⟨rfl, not_assessed_selection hpayload⟩
    | leadEvent event => exact .inl rfl
    | whatsappTurn turn => exact .inl rfl
  have hy₂noted : y₂.noted = y.noted := hy₂.trans hy₁
  rw [hprocess] at hnoted hreturned
  cases hassessed : assessed s e with
  | false =>
    have hbeside : Beside rest := by
      have hread : assessAbuse s e = .ret none := if_neg (by rw [← assessed, hassessed]; decide)
      have hmessage : Beside (handleMessage s e snapshot now) := by
        rw [handleMessage_eq, hread]
        exact beside_heard
      rcases hwhich with rfl | ⟨rfl, -⟩
      · exact hmessage
      · exact beside_handleSelection
    rw [noted_eval hbeside, hy₂noted] at hnoted
    have hcacheNow : (a.run s fingerprint e x).2.cache = y.cache := congrArg Prod.fst hnoted
    refine ⟨(congrArg Prod.snd hnoted).trans hsaid, ?_,
      fun r hr => hbeside.of_eval_ok (hreturned r hr)⟩
    rw [hcacheNow]
    exact hy
  | true =>
    have hmessage : rest = handleMessage s e snapshot now := by
      rcases hwhich with h | ⟨-, hnot⟩
      · exact h
      · cases hnot.symm.trans hassessed
    obtain ⟨found, hfound⟩ : ∃ found, found = suspicion s.t fingerprint a.moment
      (s.conversationHash e.conversationId) e.payload.text y.cache := ⟨_, rfl⟩
    obtain ⟨hsheds, hnext⟩ := @suspicion_eq s.t fingerprint (s.conversationHash e.conversationId)
      e.payload.text y.cache standing a.moment hy
    rw [← hfound] at hsheds hnext
    have hsame : y₂.cache = y.cache ∧ y₂.said = y.said :=
      ⟨congrArg Prod.fst hy₂noted, congrArg Prod.snd hy₂noted⟩
    have heval : Prog.eval (S := ports) (a.answer s fingerprint) (handleMessage s e snapshot now) y₂ =
        Prog.eval (S := ports) (a.answer s fingerprint)
          (if sheds found.1 then shed e snapshot found.1 else heard s e snapshot now)
          { y₂ with cache := found.2, said := y.said ++ [found.1] } := by
      have hcheck := @eval_assessAbuse W s fingerprint e a y₂ hassessed
      rw [hsame.1, hsame.2, ← hfound] at hcheck
      rw [handleMessage_eq]
      exact Prog.eval_bind_ok hcheck
    rw [hmessage, heval] at hnoted hreturned
    have hrest : Calls Op.elsewhere (fun r => sheds found.1 = false → r.throttled = false)
        (if sheds found.1 then shed e snapshot found.1 else heard s e snapshot now) := by
      split
      · rename_i hshed
        refine calls_call_bind trivial fun _ => within_ret.mpr fun hfalse => ?_
        rw [hshed] at hfalse
        cases hfalse
      · exact beside_heard.mono fun _ hr _ => hr
    rw [noted_eval hrest] at hnoted
    have hcacheNow : (a.run s fingerprint e x).2.cache = found.2 := congrArg Prod.fst hnoted
    refine ⟨found.1, ?_, hsheds, ?_, fun r hr => hrest.of_eval_ok (hreturned r hr)⟩
    · rw [← hsaid]
      exact congrArg Prod.snd hnoted
    · rw [hcacheNow]
      exact hnext

end One

/-! ## All attempts -/

section All

variable {W : Type} {s : Service} {fingerprint : String → String} {e : InboundEnvelope}

theorem runAll_cons (a : Attempt W) (as : List (Attempt W)) (x : Trail W) :
    runAll s fingerprint e (a :: as) x =
      ((a.run s fingerprint e x).1 :: (runAll s fingerprint e as (a.run s fingerprint e x).2).1,
        (runAll s fingerprint e as (a.run s fingerprint e x).2).2) := rfl

/-- By the attempts: **what is said in a run** is what is told of the message, look by look. -/
theorem runAll_assessed (hassessed : assessed s e = true) : ∀ (as : List (Attempt W)),
    (∀ a ∈ as, a.Reaches e) → (∀ a ∈ as, a.LeavesAlone s fingerprint e) →
    ∀ (x : Trail W) (standing : Standing),
      Stands (floodKey s.t fingerprint (s.conversationHash e.conversationId) e.payload.text)
        (strikesKey (s.conversationHash e.conversationId)) x.cache standing →
      ∃ said, (runAll s fingerprint e as x).2.said = x.said ++ said ∧
        said.map sheds = (tellings (asksForContacts s.t e.payload.text) standing
          (as.map Attempt.moment)).map (·.any harsh) ∧
        ((∀ enforcement ∈ said, sheds enforcement = false) →
          ∀ r, .ok r ∈ (runAll s fingerprint e as x).1 → r.throttled = false)
  | [], _, _, x, _, _ => ⟨[], (List.append_nil _).symm, rfl, fun _ _ h => absurd h List.not_mem_nil⟩
  | a :: as, hreach, halone, x, standing, hstands => by
    obtain ⟨hreachA, hreachAll⟩ := List.forall_mem_cons.mp hreach
    obtain ⟨haloneA, haloneAll⟩ := List.forall_mem_cons.mp halone
    have hone := run_stands hreachA haloneA hstands
    rw [if_pos hassessed] at hone
    obtain ⟨enforcement, hsaid, hsheds, hnext, hthrottled⟩ := hone
    obtain ⟨said, hrest, hall, hspared⟩ := runAll_assessed hassessed as hreachAll haloneAll _ _ hnext
    refine ⟨enforcement :: said, ?_, ?_, fun hcalm r hr => ?_⟩
    · rw [runAll_cons]
      dsimp only
      rw [hrest, hsaid, List.append_assoc, List.singleton_append]
    · rw [List.map_cons, List.map_cons, tellings, List.map_cons, hall, hsheds]
    · obtain ⟨hfirst, hothers⟩ := List.forall_mem_cons.mp hcalm
      rw [runAll_cons] at hr
      rcases List.mem_cons.mp hr with hr | hr
      · exact hthrottled r hr.symm hfirst
      · exact hspared hothers r hr

/-- By the attempts: a message that is not assessed is not shed. -/
theorem runAll_unassessed (hassessed : assessed s e = false) : ∀ (as : List (Attempt W)),
    (∀ a ∈ as, a.Reaches e) → (∀ a ∈ as, a.LeavesAlone s fingerprint e) →
    ∀ (x : Trail W) (standing : Standing),
      Stands (floodKey s.t fingerprint (s.conversationHash e.conversationId) e.payload.text)
        (strikesKey (s.conversationHash e.conversationId)) x.cache standing →
      (runAll s fingerprint e as x).2.said = x.said ∧
        ∀ r, .ok r ∈ (runAll s fingerprint e as x).1 → r.throttled = false
  | [], _, _, _, _, _ => ⟨rfl, fun _ h => absurd h List.not_mem_nil⟩
  | a :: as, hreach, halone, x, standing, hstands => by
    obtain ⟨hreachA, hreachAll⟩ := List.forall_mem_cons.mp hreach
    obtain ⟨haloneA, haloneAll⟩ := List.forall_mem_cons.mp halone
    have hone := run_stands hreachA haloneA hstands
    rw [if_neg (by rw [hassessed]; decide)] at hone
    obtain ⟨hsaid, hnext, hthrottled⟩ := hone
    obtain ⟨hrest, hspared⟩ := runAll_unassessed hassessed as hreachAll haloneAll _ _ hnext
    refine ⟨hrest.trans hsaid, fun r hr => ?_⟩
    rw [runAll_cons] at hr
    rcases List.mem_cons.mp hr with hr | hr
    · exact hthrottled r hr.symm
    · exact hspared r hr

end All

end Attempt

open Attempt

/-- **Retries of a message that is new are not taken for abuse exactly if the message is not
assessed or the moments are far enough from each other**; and then none of them is shed. -/
theorem retries_spared_iff {W : Type} (s : Service) (fingerprint : String → String)
    (e : InboundEnvelope) (as : List (Attempt W)) (w : W) (c : AbuseCache)
    (hreach : ∀ a ∈ as, a.Reaches e) (halone : ∀ a ∈ as, a.LeavesAlone s fingerprint e)
    (hnew : c (floodKey s.t fingerprint (s.conversationHash e.conversationId) e.payload.text) = none ∧
      c (strikesKey (s.conversationHash e.conversationId)) = none) :
    ((∀ enforcement ∈ (runAll s fingerprint e as ⟨w, c, []⟩).2.said, sheds enforcement = false) ↔
      (assessed s e = true →
        Spaced (asksForContacts s.t e.payload.text) (as.map Attempt.moment))) ∧
    ((assessed s e = true → Spaced (asksForContacts s.t e.payload.text) (as.map Attempt.moment)) →
      ∀ r, .ok r ∈ (runAll s fingerprint e as ⟨w, c, []⟩).1 → r.throttled = false) := by
  have hstands : Stands
      (floodKey s.t fingerprint (s.conversationHash e.conversationId) e.payload.text)
      (strikesKey (s.conversationHash e.conversationId)) c {} := ⟨hnew.1, hnew.2⟩
  cases hassessed : assessed s e with
  | false =>
    obtain ⟨hsaid, hspared⟩ := runAll_unassessed hassessed as hreach halone ⟨w, c, []⟩ {} hstands
    refine ⟨iff_of_true (fun enforcement hin => ?_) nofun, fun _ => hspared⟩
    rw [hsaid] at hin
    cases hin
  | true =>
    obtain ⟨said, hsaid, hall, hspared⟩ :=
      runAll_assessed hassessed as hreach halone ⟨w, c, []⟩ {} hstands
    have hcalm : (∀ enforcement ∈ said, sheds enforcement = false) ↔
        Spaced (asksForContacts s.t e.payload.text) (as.map Attempt.moment) := by
      have hmaps {α : Type} {f : α → Bool} {l : List α} :
          (∀ x ∈ l, f x = false) ↔ ∀ y ∈ l.map f, y = false := by
        constructor
        · rintro h _ hy
          obtain ⟨x, hx, rfl⟩ := List.mem_map.mp hy
          exact h x hx
        · exact fun h x hx => h _ (List.mem_map_of_mem hx)
      rw [← calm_iff, hmaps, hall, ← hmaps]
    rw [hsaid, List.nil_append]
    exact ⟨⟨fun h _ => hcalm.mp h, fun h => hcalm.mpr (h rfl)⟩,
      fun hspaced => hspared (hcalm.mpr (hspaced rfl))⟩

/-! ### Three failures and a fourth attempt -/

/-- A deployment that sees abuse. -/
def watchfulService : Service := { smallService with cached := true }

/-- The only message of its sender. -/
def onlyMessage : InboundEnvelope :=
  messageOf "m1" "Maths, Class 10, online" onlineMaths none m1_le none_le

/-- The stores are down, once the conversation has been loaded. -/
def storesDown : (o : Op) → Unit → Except Fault o.Res × Unit
  | .now, w => (.ok (0 : Time), w)
  | .isPaused, w => (.ok false, w)
  | .claim _, w => (.ok true, w)
  | .release _, w => (.ok (), w)
  | .loadState conversationId, w => (.ok { conversationId }, w)
  | _, w => (.error .unavailable, w)

/-- An attempt after so many seconds. -/
def attemptAfter (seconds : Nat) : Attempt Unit where
  moment := seconds * 1000000
  port := storesDown
  meanwhile := id

theorem reaches_attemptAfter (seconds : Nat) : (attemptAfter seconds).Reaches onlyMessage where
  running _ := nofun
  claimed _ := rfl
  clock _ := ⟨(0 : Time), rfl⟩
  loaded _ := ⟨_, rfl⟩

/-- Two attempts, a second after each other, and neither is throttled. -/
theorem second_spared :
    repeats none (([0, 1].map attemptAfter).map Attempt.moment) = [1000000] ∧
    ∀ r, .ok r ∈ (runAll watchfulService id onlyMessage
      ([0, 1].map attemptAfter) ⟨(), fun _ => none, []⟩).1 → r.throttled = false := by
  have hrepeats : repeats none (([0, 1].map attemptAfter).map Attempt.moment) = [1000000] := by
    decide
  refine ⟨hrepeats, (retries_spared_iff watchfulService id onlyMessage ([0, 1].map attemptAfter) ()
    (fun _ => none) (fun a ha => ?_) (fun a ha _ _ _ => ?_) ⟨rfl, rfl⟩).2 fun _ => ?_⟩
  · obtain ⟨n, -, rfl⟩ := List.mem_map.mp ha
    exact reaches_attemptAfter n
  · obtain ⟨n, -, rfl⟩ := List.mem_map.mp ha
    rfl
  · have hharmless : asksForContacts watchfulService.t onlyMessage.payload.text = false := by
      decide
    rw [hharmless, Spaced, if_neg Bool.false_ne_true, hrepeats]
    trivial

/-- **The fourth attempt is shed**, after three that failed. -/
theorem fourth_shed :
    (runAll watchfulService id onlyMessage ([0, 1, 2, 3].map attemptAfter)
      ⟨(), fun _ => none, []⟩).1 =
        [.error .unavailable, .error .unavailable, .error .unavailable,
          .ok { conversationId := "wa:1", state := .new, reply := some THROTTLE_REPLY
                throttled := true }] ∧
    (runAll watchfulService id onlyMessage ([0, 1, 2, 3].map attemptAfter)
      ⟨(), fun _ => none, []⟩).2.said =
        [none, some .softThrottle, some .softThrottle, some .hardThrottle] :=
  ⟨by decide, by decide⟩

end NxTutors.MatchAgent
