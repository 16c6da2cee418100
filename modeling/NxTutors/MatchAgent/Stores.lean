import NxTutors.MatchAgent.TurnService
import NxTutors.Effect.Evaluate
import NxTutors.Store.Table

/-!
# The stores of the match agent

Conversations are saved under a version check, requirements and decisions without one; a claim is
good for seven days; the outbox keeps one row for a key. What a service outside says is up to it,
and a call that raises has done nothing.

Whatever is called, the outbox never has two rows of a key and loses none (`unique_of_run`,
`one_of_run`).
-/

namespace NxTutors.MatchAgent

open Effect Store

/-- `IDEMPOTENCY_TTL_SECONDS`, in microseconds. -/
def IDEMPOTENCY_TTL : Time := 7 * 24 * 3600 * 1000000

/-- What is stored. -/
structure World where
  states : Table ConversationSnapshot.conversationId := .empty
  requirements : Table MatchRequirement.conversationId := .empty
  decisions : List MatchDecision := []
  /-- until when a key is claimed -/
  claims : String → Option Time := fun _ => none
  outbox : Outbox := {}

namespace World

/-- Nothing is stored. -/
def fresh : World := {}

/-- The stored conversation, or a new one. -/
def load (w : World) (conversationId : String) : ConversationSnapshot :=
  (w.states.find conversationId).getD { conversationId }

/-- The version a save is compared with. -/
def version (w : World) (conversationId : String) : Nat :=
  ((w.states.find conversationId).map (·.lockVersion)).getD 0

/-- `InMemoryConversationStore.save`. -/
def saveState (w : World) (snapshot : ConversationSnapshot) (expectedVersion : Nat) :
    Except Fault Unit × World :=
  if w.version snapshot.conversationId = expectedVersion then
    (.ok (), { w with states := w.states.put snapshot })
  else (.error .optimisticLock, w)

/-- The key is claimed. -/
def taken (w : World) (key : String) (now : Time) : Bool := (w.claims key).any (now < ·)

/-- What is stored when a key has been claimed. -/
def claimed (w : World) (key : String) (now : Time) : World :=
  { w with claims := fun k => if k = key then some (now + IDEMPOTENCY_TTL) else w.claims k }

/-- `InMemoryIdempotencyStore.claim`. -/
def claim (w : World) (key : String) (now : Time) : Except Fault Bool × World :=
  if w.taken key now then (.ok false, w) else (.ok true, w.claimed key now)

def release (w : World) (key : String) : World :=
  { w with claims := fun k => if k = key then none else w.claims k }

def saveRequirement (w : World) (r : MatchRequirement) : World :=
  { w with requirements := w.requirements.put r }

def saveDecision (w : World) (d : MatchDecision) : World :=
  { w with decisions := w.decisions ++ [d] }

def enqueue (w : World) (m : OutboxMessage) : World := { w with outbox := w.outbox.enqueue m }

/-- What is stored after a save that was not refused. -/
def saved (w : World) (snapshot : ConversationSnapshot) : World :=
  { w with states := w.states.put snapshot }

theorem saveState_of_version {w : World} {snapshot : ConversationSnapshot} {expected : Nat}
    (h : w.version snapshot.conversationId = expected) :
    w.saveState snapshot expected = (.ok (), w.saved snapshot) := if_pos h

theorem claim_of_taken {w : World} {key : String} {now : Time} (h : w.taken key now = true) :
    w.claim key now = (.ok false, w) := if_pos h

theorem claim_of_free {w : World} {key : String} {now : Time} (h : w.taken key now = false) :
    w.claim key now = (.ok true, w.claimed key now) := if_neg (by rw [h]; decide)

/-- What was saved is loaded. -/
theorem load_saved (w : World) (snapshot : ConversationSnapshot) :
    (w.saved snapshot).load snapshot.conversationId = snapshot := by
  unfold load saved
  rw [Table.find_put, if_pos rfl, Option.getD_some]

/-- The version that a load hands out is the one that a save is compared with. -/
theorem version_eq_load (w : World) (conversationId : String) :
    w.version conversationId = (w.load conversationId).lockVersion := by
  unfold version load
  cases w.states.find conversationId <;> rfl

/-- A stored conversation is found under its name. -/
theorem load_conversationId (w : World) (conversationId : String) :
    (w.load conversationId).conversationId = conversationId := by
  unfold load
  cases h : w.states.find conversationId with
  | none => rfl
  | some snapshot => exact (Table.find_eq_some_iff.mp h).2

end World

/-- What the stores answer, and what they hold then. -/
def Served : (o : Op) → World → Except Fault o.Res → World → Prop
  | .claim key, w, r, w' => ∃ now, w.claim key now = (r, w')
  | .release key, w, r, w' => r = .ok () ∧ w' = w.release key
  | .loadState conversationId, w, r, w' => r = .ok (w.load conversationId) ∧ w' = w
  | .saveState snapshot expected, w, r, w' => w.saveState snapshot expected = (r, w')
  | .loadRequirement conversationId, w, r, w' =>
    r = .ok (w.requirements.find conversationId) ∧ w' = w
  | .saveRequirement q, w, r, w' => r = .ok () ∧ w' = w.saveRequirement q
  | .saveDecision d, w, r, w' => r = .ok () ∧ w' = w.saveDecision d
  | .enqueue m, w, r, w' => r = .ok () ∧ w' = w.enqueue m
  -- a clock, a switch, a model, a directory: anything
  | _, w, r, w' => (∃ a, r = .ok a) ∧ w' = w

/-- The stores, of which those calls in `fails` may raise, when nobody else is there. -/
def stores (fails : Op → Prop) : Setting ports Fault World where
  answers o w r w' := Served o w r w' ∨ fails o ∧ (∃ f, r = .error f) ∧ w' = w
  moves w w' := w = w'

/-! ## What calls do to the outbox -/

section Rows

variable {o : Op} {w w' : World} {r : Except Fault o.Res} {fails : Op → Prop}

/-- A call leaves the outbox as it is, or enqueues. -/
theorem Served.outbox (h : Served o w r w') :
    w'.outbox = w.outbox ∨ ∃ m, o = .enqueue m ∧ w'.outbox = w.outbox.enqueue m := by
  cases o with
  | claim key =>
    obtain ⟨now, h⟩ := h
    unfold World.claim at h
    split at h <;> cases h <;> exact .inl rfl
  | saveState snapshot expected =>
    change w.saveState snapshot expected = (r, w') at h
    unfold World.saveState at h
    split at h <;> cases h <;> exact .inl rfl
  | enqueue m =>
    obtain ⟨-, rfl⟩ := h
    exact .inr ⟨m, rfl, rfl⟩
  | _ =>
    obtain ⟨-, rfl⟩ := h
    exact .inl rfl

/-- No two rows have one key. -/
def World.Unique (w : World) : Prop := ∀ key, w.outbox.count key ≤ 1

/-- Exactly one row has the key. -/
def World.One (key : String) (w : World) : Prop := w.Unique ∧ w.outbox.count key = 1

theorem World.unique_fresh : World.fresh.Unique := fun _ => Nat.zero_le 1

theorem Served.unique (h : Served o w r w') (hw : w.Unique) : w'.Unique := by
  intro key
  rcases h.outbox with heq | ⟨m, -, heq⟩
  · rw [heq]
    exact hw key
  · rw [heq]
    exact Outbox.count_enqueue_le (hw key)

theorem Served.one {key : String} (h : Served o w r w') (hw : w.One key) : w'.One key := by
  have hunique : w'.Unique := h.unique hw.1
  refine ⟨hunique, ?_⟩
  rcases h.outbox with heq | ⟨m, -, heq⟩
  · rw [heq]
    exact hw.2
  · have hle : w.outbox.count key ≤ w'.outbox.count key := heq ▸ Outbox.count_le_enqueue
    have hupper := hunique key
    have hone := hw.2
    omega

/-- What served calls keep, all calls keep: one that raises has done nothing. -/
theorem stores_keeps {I : World → Prop} (h : ∀ o a r b, Served o a r b → I a → I b)
    {a b : World} (hans : (stores fails).answers o a r b) (ha : I a) : I b := by
  rcases hans with hserved | ⟨-, -, rfl⟩
  · exact h o a r b hserved ha
  · exact ha

theorem unique_after (hans : (stores fails).answers o w r w') (hw : w.Unique) : w'.Unique :=
  stores_keeps (fun _ _ _ _ h => h.unique) hans hw

variable {α : Type} {p : Prog ports Fault α} {out : Except Fault α}

theorem keeps_of_run {I : World → Prop} (h : ∀ o a r b, Served o a r b → I a → I b)
    (hrun : Run (stores fails) p w out w') (hw : I w) : I w' := by
  induction hrun with
  | ret => exact hw
  | throw => exact hw
  | call hm ha _ ih =>
    obtain rfl := hm
    exact ih (stores_keeps h ha hw)

/-- **Never two.** -/
theorem unique_of_run (hrun : Run (stores fails) p w out w') (hw : w.Unique) : w'.Unique :=
  keeps_of_run (fun _ _ _ _ h => h.unique) hrun hw

/-- **Never none again.** -/
theorem one_of_run {key : String} (hrun : Run (stores fails) p w out w') (hw : w.One key) :
    w'.One key :=
  keeps_of_run (fun _ _ _ _ h => h.one) hrun hw

/-- The same of any program, as a contract. -/
theorem meets_unique (hw : w.Unique) :
    Meets (stores fails) (fun _ _ => True) (fun _ b => b.Unique) p w :=
  .of_run fun _ _ hrun => unique_of_run hrun hw

theorem meets_one {key : String} (hw : w.One key) :
    Meets (stores fails) (fun _ _ => True) (fun _ b => b.One key) p w :=
  .of_run fun _ _ hrun => one_of_run hrun hw

/-- A call in a world that nobody else moves, and what comes after each of its answers. -/
theorem meets_call_bind {β : Type} {f : o.Res → Turn β} {Q : Except Fault β → World → Prop}
    (hok : ∀ x b, (stores fails).answers o w (.ok x) b →
      Meets (stores fails) (fun _ _ => True) Q (f x) b)
    (herr : ∀ x b, (stores fails).answers o w (.error x) b → Q (.error x) b) :
    Meets (stores fails) (fun _ _ => True) Q (call o >>= f) w := by
  refine Meets.perform_bind (S := ports) (o := o) fun a hm r b hans => ?_
  obtain rfl : w = a := hm
  refine ⟨trivial, fun x hx => ?_, fun x hx => ?_⟩
  · subst hx
    exact hok x b hans
  · subst hx
    exact herr x b hans

end Rows

/-! ## Evaluating a turn -/

/-- What the services outside say during one turn. -/
structure Outside where
  now : Time := 0
  paused : Bool := false
  assessment : Option Enforcement := none
  directory : List TutorCandidate := []
  extracted : MatchRequirement × Bool := ({ conversationId := "" }, false)
  recalled : Option (List (String × String)) := some []
  run : PipelineRun := ⟨"session", .unmatched [] "empty_candidate_pool", []⟩

/-- What a call is answered when nothing raises but the stores, and what is stored then. -/
def Outside.answer (x : Outside) : (o : Op) → World → Except Fault o.Res × World
  | .now, w => (.ok x.now, w)
  | .isPaused, w => (.ok x.paused, w)
  | .claim key, w => w.claim key x.now
  | .release key, w => (.ok (), w.release key)
  | .loadState conversationId, w => (.ok (w.load conversationId), w)
  | .saveState snapshot expected, w => w.saveState snapshot expected
  | .assessAbuse _ _, w => (.ok x.assessment, w)
  | .findByName _, w => (.ok x.directory, w)
  | .extract _ _ _, w => (.ok x.extracted, w)
  | .recall _ _, w => (.ok x.recalled, w)
  | .loadRequirement conversationId, w => (.ok (w.requirements.find conversationId), w)
  | .saveRequirement q, w => (.ok (), w.saveRequirement q)
  | .search _ _, w => (.ok x.run, w)
  | .saveDecision d, w => (.ok (), w.saveDecision d)
  | .enqueue m, w => (.ok (), w.enqueue m)

theorem Outside.served (x : Outside) (o : Op) (w : World) :
    Served o w (x.answer o w).1 (x.answer o w).2 := by
  cases o with
  | claim key => exact ⟨x.now, rfl⟩
  | saveState snapshot expected => rfl
  | _ => exact ⟨by first | rfl | exact ⟨_, rfl⟩, rfl⟩

/-- The same, where some calls raise. -/
def Outside.failing (x : Outside) (down : Op → Bool) (o : Op) (w : World) :
    Except Fault o.Res × World :=
  if down o then (.error .unavailable, w) else x.answer o w

theorem Outside.failing_answers (x : Outside) {down : Op → Bool} {fails : Op → Prop}
    (hdown : ∀ o, down o = true → fails o) (o : Op) (w : World) :
    (stores fails).answers o w (x.failing down o w).1 (x.failing down o w).2 := by
  unfold failing
  by_cases h : down o = true
  · rw [if_pos h]
    exact .inr ⟨hdown o h, ⟨_, rfl⟩, rfl⟩
  · rw [if_neg h]
    exact .inl (x.served o w)

/-- How a program ends when nobody disturbs it. -/
def Outside.eval {α : Type} (x : Outside) (p : Turn α) (w : World) : Except Fault α × World :=
  Prog.eval (S := ports) x.answer p w

/-- How a program ends, what is stored then, and its calls, where some calls raise. -/
def Outside.logged {α : Type} (x : Outside) (down : Op → Bool) (p : Turn α) (w : World) :
    Except Fault α × World × History ports Fault :=
  Prog.eval (S := ports) (noting (x.failing down)) p (w, [])

theorem Outside.run_logged {α : Type} (x : Outside) {down : Op → Bool} {fails : Op → Prop}
    (hdown : ∀ o, down o = true → fails o) (p : Turn α) (w : World) :
    Run (stores fails).logged p (w, []) (x.logged down p w).1 (x.logged down p w).2 :=
  run_noting (E := stores fails) (fun o a => ⟨a, rfl, x.failing_answers hdown o a⟩) _ _

/-- A call that is answered, in a program that is logged. -/
theorem Outside.logged_bind {β : Type} {x : Outside} {down : Op → Bool} {o : Op}
    {f : o.Res → Turn β} {w w' : World} {log : History ports Fault} {a : o.Res}
    (hup : down o = false) (h : x.answer o w = (.ok a, w')) :
    Prog.eval (S := ports) (noting (x.failing down)) (call o >>= f) (w, log) =
      Prog.eval (S := ports) (noting (x.failing down)) (f a) (w', log ++ [⟨o, .ok a⟩]) := by
  have hanswer : x.failing down o w = (.ok a, w') := by
    rw [failing, if_neg (by rw [hup]; decide), h]
  have hcall : Prog.eval (S := ports) (noting (x.failing down)) (call o) (w, log) =
      (.ok a, w', log ++ [⟨o, .ok a⟩]) := by
    refine (Prog.eval_perform (S := ports) _ _).trans ?_
    unfold noting
    dsimp only
    rw [hanswer]
    rfl
  exact Prog.eval_bind_ok hcall

/-- Evaluating is running. -/
theorem Outside.run_of_eval {α : Type} (x : Outside) (fails : Op → Prop) {p : Turn α}
    {w w' : World} {out : Except Fault α} (h : x.eval p w = (out, w')) :
    ∃ log, Run (stores fails).logged p (w, []) out (w', log) := by
  have hrun := run_noting (E := stores fails) (g := x.answer)
    (fun o a => ⟨a, rfl, .inl (x.served o a)⟩) p (w, [])
  have heval := eval_noting (g := x.answer) p (w, [])
  unfold Outside.eval at h
  rcases hlogged : Prog.eval (S := ports) (noting x.answer) p (w, []) with ⟨out', w₁, log⟩
  rw [hlogged, h] at heval
  rw [hlogged] at hrun
  obtain ⟨rfl, rfl⟩ := heval
  exact ⟨log, hrun⟩

/-! ## A small deployment

Its tables are those of ASCII, and it knows one class; neither switches nor abuse control nor a
memory service are there. -/

def smallDomain : Domain where
  classNumber label := if label = some "Class 10" then some 10 else none
  isAmbiguous subject := subject = "Science"
  partsOf subject := if subject = "Science" then ["Biology", "Chemistry", "Physics"] else []
  boardIsMandatory _ grade := grade.any (9 ≤ ·)

def smallService : Service where
  speech := ⟨Text.ascii, fun c => String.ofList [c.toUpper]⟩
  foundPiiKinds _ := []
  publicBaseUrl := "https://www.nxtutors.com"
  domain := smallDomain
  detect _ := none
  conversationHash _ := "cv_0123456789abcdef"
  switched := false
  cached := false
  recordDeeds := false
  plain := Text.plain_ascii
  conversationHash_le := fun _ => by decide

/-- "Maths, Class 10, online", and whatever else is said. -/
def onlineMaths : MatchRequirement where
  conversationId := "wa:1"
  subject := some { value := "Maths" }
  studentClass := some { value := "Class 10" }
  mode := some { value := .online }

theorem m1_le : "m1".length ≤ 128 := by decide
theorem trace_le : "trace".length ≤ 64 := by decide
theorem none_le : ((none : Option String).getD "").length ≤ 32 := by decide

/-- A message that was enriched. -/
def messageOf (key text : String) (requirement : MatchRequirement) (replyTo : Option String)
    (hkey : key.length ≤ 128) (hreply : (replyTo.getD "").length ≤ 32) :
    InboundEnvelope where
  traceId := "trace"
  conversationId := "wa:1"
  dedupKey := key
  replyTo
  payload := .whatsappTurn { text }
  enrichment := some { requirement }
  traceId_le := by decide
  conversationId_le := by decide
  dedupKey_le := hkey
  replyTo_le := hreply

def selectionOf (key : String) (hkey : key.length ≤ 128) : InboundEnvelope where
  traceId := "trace"
  conversationId := "wa:1"
  dedupKey := key
  payload := .parentSelection ⟨"session", "MTIz", false⟩
  traceId_le := by decide
  conversationId_le := by decide
  dedupKey_le := hkey
  replyTo_le := by decide

/-- A tutor who fits. -/
def anaEntry : ShortlistEntry where
  rank := 1
  tutorId := "123"
  name := "Ana"
  profileUrl := "https://www.nxtutors.com/tutor/pune/MTIz/ana"
  reasons := ["teaches Maths"]
  modeLabel := some "online"

/-- The pipeline finds that tutor. -/
def findsAna : Outside where
  run := ⟨"session", .shortlisted ["123"] [anaEntry] [] false, []⟩

end NxTutors.MatchAgent
