import NxTutors.DemoAgent.Outbound
import NxTutors.DemoAgent.Workers

/-!
# The session window

Free-form messages may be sent while the session window is open, which it is for some hours
after a message of the parent. The boundary reads when the last one came from the conversation
store. What writes it there is `touch_inbound`, and no handler of the work queue calls that:
not for a message that is routed, not for one that is rejected, not for one that is answered
with a clarification. Everything a turn does call leaves the moment as it is, in either store.

So whether a parent who has just written can be answered was decided before they wrote:
`answerable_iff`.
-/

namespace NxTutors.DemoAgent

open Effect

/-! ## The property -/

section Property

variable {C : Type} [ConversationRepository C]

/-- Asked at `now`, the check lets the message pass whenever it answers. -/
def Passes (cfg : Config) (w : World C) (message : OutboundMessage) (now : Time) : Prop :=
  ∀ r w', Run alone (templateCheck cfg message now) w (.ok r) w' → r = none

/-- For as long as a session window lasts that opens at `t`, free-form messages to the
conversation pass. -/
def Answerable (cfg : Config) (w : World C) (ref : String) (t : Time) : Prop :=
  ∀ message : OutboundMessage, message.conversationRef = ref → message.template = none →
    ∀ now, t ≤ now → now < t + cfg.sessionWindowHours * hour → Passes cfg w message now

/-- Asked about the last inbound message, the store answers. -/
theorem run_lastInboundAt {w w' : World C} {ref : String} {last : Option Time}
    (h : Run alone (ask (.lastInboundAt ref)) w (.ok last) w') :
    last = ConversationRepository.lastInboundAt w.conversations ref := by
  obtain ⟨w₁, hm, ha⟩ := run_perform_iff.mp h
  obtain rfl : w = w₁ := hm
  have hread := Answers.read (o := .lastInboundAt ref) ha rfl rfl
  rcases hread.2 with hok | ⟨name, herr⟩
  · exact Except.ok.inj hok
  · cases herr

/-- The check asks the store, and nobody else. -/
theorem passes_iff {cfg : Config} {w : World C} {message : OutboundMessage} {now : Time}
    (hfree : message.template = none) :
    Passes cfg w message now ↔ sessionWindowOpen
      (ConversationRepository.lastInboundAt w.conversations message.conversationRef) now
      cfg.sessionWindowHours = true := by
  let judge (last : Option Time) : Act (Option String) :=
    if sessionWindowOpen last now cfg.sessionWindowHours then pure none
    else pure (some "session_window_closed_and_no_template")
  have hcheck : templateCheck cfg message now =
      ask (.lastInboundAt message.conversationRef) >>= judge := by
    unfold templateCheck
    rw [hfree]
    rfl
  rw [Passes, hcheck]
  constructor
  · intro h
    by_contra hclosed
    have hask : Run alone (ask (.lastInboundAt message.conversationRef)) w
        (.ok (ConversationRepository.lastInboundAt w.conversations message.conversationRef)) w :=
      run_perform_iff.mpr
        ⟨w, rfl, Answers.stored (o := .lastInboundAt message.conversationRef) (.inl rfl)⟩
    have hrest : Run alone (judge (ConversationRepository.lastInboundAt w.conversations
        message.conversationRef)) w (.ok (some "session_window_closed_and_no_template")) w := by
      simp only [judge, if_neg hclosed]
      exact .ret
    exact Option.some_ne_none _ (h _ _ (run_bind_iff.mpr (.inl ⟨_, _, hask, hrest⟩)))
  · intro hopen r w' hrun
    rcases run_bind_iff.mp hrun with ⟨last, w₁, hask, hrest⟩ | ⟨exn, _, herr⟩
    · rw [run_lastInboundAt hask] at hrest
      simp only [judge, if_pos hopen] at hrest
      exact Except.ok.inj (run_ret_iff.mp hrest).1
    · cases herr

end Property

/-! ## The work queue -/

/-- An invocation of the work queue: its number, the item it processes, and when. -/
abbrev WorkRun : Type := Nat × WorkBody × Time

/-- Any number of work items being processed, while time passes and components do what they
may. -/
def working {C : Type} [ConversationRepository C] (cfg : Config) :
    Arena ports Exn (Option TurnResult) (World C) WorkRun where
  answers _ := Answers
  enters t p w := t.2.2 = w.clock ∧ p = handleRecord cfg t.2.1
  outside := Neutral

section Store

variable {backend : StorageBackend} {ref : String} {last : Option Time} {cfg : Config}

/-- The moment of the last inbound message is the one given. -/
def LastInbound (ref : String) (last : Option Time) (w : World backend.Conversations) : Prop :=
  ConversationRepository.lastInboundAt w.conversations ref = last

/-- Every call but one. -/
def NoTouch : Op → Prop
  | .touchInbound .. => False
  | _ => True

/-- **No other call touches the moment of the last inbound message.** -/
theorem lastInbound_harmless : Harmless (@LastInbound backend ref last) NoTouch where
  neutral a b hn ha := by rwa [LastInbound, hn.conversations]
  answer o a ho ha := by
    cases o with
    | touchInbound => exact absurd ho id
    | saveTransition result now facts =>
      exact (lastInboundAt_saveTransition a.conversations ref result now facts).trans ha
    | saveOwnership o => exact (lastInboundAt_saveOwnership a.conversations ref o).trans ha
    | claim key scope now ttl =>
      simp only [World.answer]
      split
      · exact ha
      · exact ha
    | recordEvent event now =>
      simp only [World.answer]
      split
      · exact ha
      · exact ha
    | claimSend message now =>
      simp only [World.answer]
      split
      · exact ha
      · exact ha
    | _ => exact ha

theorem permitsMove_noTouch (trigger : Trigger) (actor : Actor) :
    PermitsMove NoTouch trigger actor := fun _ _ _ _ _ _ => trivial

theorem permits_noTouch : Permits NoTouch where
  quiet o hq := by
    cases o with
    | touchInbound => exact absurd hq Bool.false_ne_true
    | _ => trivial
  claim _ _ _ _ := trivial
  load _ := trivial
  execute _ _ _ := trivial
  send _ := trivial
  follow := permitsMove_noTouch _ _

/-- A work item never touches it. -/
theorem lastInbound_reach {w : World backend.Conversations}
    {p : Pool ports Exn (Option TurnResult) (World backend.Conversations) WorkRun}
    (h : Pool.Reach (working cfg) (Pool.start w) p) :
    ConversationRepository.lastInboundAt p.world.conversations ref =
      ConversationRepository.lastInboundAt w.conversations ref := by
  refine Pool.Reach.maintained
    (I := LastInbound ref (ConversationRepository.lastInboundAt w.conversations ref))
    (fun t q w' hw' henter => ?_) (fun a b ha hab => lastInbound_harmless.neutral a b hab ha) rfl h
  rw [henter.2]
  exact handleRecord_maintains lastInbound_harmless permits_noTouch
    (fun trigger => permitsMove_noTouch trigger .user) fun e _ => permitsMove_noTouch _ _

end Store

/-! ## When a parent can be answered -/

/-- The window is open for its width. -/
theorem sessionWindowOpen_iff {l t hours : Int} :
    sessionWindowOpen (some l) t hours = true ↔ t < l + hours * hour := by
  rw [sessionWindowOpen, decide_eq_true_eq, Int.add_comm l]
  exact Int.sub_lt_iff

/-- A window that opened at `last` is open from `t` on for as long as one that opens at `t`
would be, unless there is no time in it or it opened before. -/
theorem window_covers_iff {last : Option Time} {t hours : Int} :
    (∀ now, t ≤ now → now < t + hours * hour → sessionWindowOpen last now hours = true) ↔
      hours ≤ 0 ∨ ∃ l, last = some l ∧ t ≤ l := by
  have hhour : (0 : Int) < hour := by decide
  constructor
  · intro h
    by_contra hnot
    obtain ⟨hpos, hlate⟩ := not_or.mp hnot
    have hwidth : t < t + hours * hour :=
      Int.lt_add_of_pos_right t (Int.mul_pos (Int.not_le.mp hpos) hhour)
    cases last with
    | none => exact absurd (h t (Int.le_refl t) hwidth) Bool.false_ne_true
    | some l =>
      have hl : l < t := Int.not_le.mp fun hge => hlate ⟨l, rfl, hge⟩
      have hbefore : l + hours * hour < t + hours * hour := Int.add_lt_add_right hl _
      -- the moment at which the older window has just closed, if that is after `t`
      have hclosed := h (max t (l + hours * hour)) (Int.le_max_left _ _)
        (Int.max_lt.mpr ⟨hwidth, hbefore⟩)
      exact absurd (sessionWindowOpen_iff.mp hclosed) (Int.not_lt.mpr (Int.le_max_right _ _))
  · rintro (hnone | ⟨l, rfl, hl⟩) now hfrom hto
    · have hwidth : hours * hour ≤ 0 := Int.mul_nonpos_of_nonpos_of_nonneg hnone hhour.le
      have hempty : now < t :=
        hto.trans_le ((Int.add_le_add_left hwidth t).trans_eq (Int.add_zero t))
      exact absurd hfrom (Int.not_le.mpr hempty)
    · exact sessionWindowOpen_iff.mpr (hto.trans_le (Int.add_le_add_right hl _))

/-- **When a parent who has just written can be answered.** Over either store, after a message
that the work queue processed at `t`, and whatever it has done since, free-form messages pass
for a whole session window from `t` exactly when the store had a moment not before `t` to
begin with, or the window has no length. -/
theorem answerable_iff (backend : StorageBackend) (cfg : Config)
    {w : World backend.Conversations}
    {p : Pool ports Exn (Option TurnResult) (World backend.Conversations) WorkRun}
    (h : Pool.Reach (working cfg) (Pool.start w) p) :
    ∀ n body t, (n, body, t) ∈ p.names → body.fields.firstText ["kind"] = "inbound_message" →
      (Answerable cfg p.world (body.fields.firstText ["conversation_ref"]) t ↔
        cfg.sessionWindowHours ≤ 0 ∨
          ∃ last, ConversationRepository.lastInboundAt w.conversations
            (body.fields.firstText ["conversation_ref"]) = some last ∧ t ≤ last) := by
  intro n body t _ _
  generalize body.fields.firstText ["conversation_ref"] = ref
  rw [← window_covers_iff, ← lastInbound_reach h]
  constructor
  · intro hall now hfrom hto
    let message : OutboundMessage :=
      { conversationRef := ref, recipientRef := ref, kind := .question, idempotencyKey := "",
        createdAt := now }
    exact (passes_iff (show message.template = none from rfl)).mp (hall message rfl rfl now hfrom hto)
  · intro hopen message href hfree now hfrom hto
    rw [passes_iff hfree, href]
    exact hopen now hfrom hto

/-! ## A parent who writes -/

/-- A message of a parent, in the conversation `c`. -/
def parentWrites (text : String) : WorkBody where
  fields := Facts.ofList [("conversation_ref", .str "c"), ("kind", .str "inbound_message"),
    ("text", .str text)]

/-- A store that has never heard of anybody. -/
def StorageBackend.blank : (backend : StorageBackend) → World backend.Conversations
  | .memory => { conversations := {} }
  | .postgres => { conversations := {} }

/-- What is left of it when the parent's message has been processed. -/
def StorageBackend.written (backend : StorageBackend) (text : String) :
    World backend.Conversations :=
  (play (fun _ o w => w.smooth o) 0 (handleRecord plainConfig (parentWrites text))
    backend.blank).2

/-- The pool in which one message has been processed. -/
theorem written_reached (backend : StorageBackend) (text : String) :
    ∃ out, Pool.Reach (working plainConfig) (Pool.start backend.blank)
      ⟨backend.written text, [], [((0, parentWrites text, 0), out)]⟩ := by
  refine ⟨_, Pool.Reach.enter_run (E := alone) ?_ nofun (run_smooth _ _) (fun _ _ h => h) rfl⟩
  cases backend with
  | memory => exact ⟨rfl, rfl⟩
  | postgres => exact ⟨rfl, rfl⟩

/-- It applies to a parent who has written once, whose messages the store does not know of. -/
theorem written_answerable_iff :
    Answerable plainConfig (StorageBackend.postgres.written "hello") "c" 0 ↔
      plainConfig.sessionWindowHours ≤ 0 ∨
        ∃ last, ConversationRepository.lastInboundAt
          StorageBackend.postgres.blank.conversations "c" = some last ∧ 0 ≤ last := by
  obtain ⟨out, hreach⟩ := written_reached .postgres "hello"
  exact answerable_iff .postgres plainConfig hreach 0 (parentWrites "hello") 0 (by simp [Pool.names])
    rfl

/-- At the very moment at which the first message was processed, no free-form message passes. -/
theorem first_message_unanswered (backend : StorageBackend) :
    ∃ p, Pool.Reach (working plainConfig) (Pool.start backend.blank) p ∧
      (0, parentWrites "hello", 0) ∈ p.names ∧ ¬ Answerable plainConfig p.world "c" 0 := by
  obtain ⟨out, hreach⟩ := written_reached backend "hello"
  refine ⟨_, hreach, by simp [Pool.names], fun hall => ?_⟩
  let message : OutboundMessage :=
    { conversationRef := "c", recipientRef := "c", kind := .question, idempotencyKey := "",
      createdAt := 0 }
  have hopen := (passes_iff (show message.template = none from rfl)).mp
    (hall message rfl rfl 0 (Int.le_refl 0) (by decide))
  rw [lastInbound_reach hreach] at hopen
  cases backend with
  | memory => exact absurd hopen Bool.false_ne_true
  | postgres => exact absurd hopen Bool.false_ne_true

/-- **Whoever writes first is not answered**, over either store. -/
theorem first_message_unanswered_everywhere :
    (parentWrites "hello").fields.firstText ["kind"] = "inbound_message" ∧
    (parentWrites "hello").fields.firstText ["conversation_ref"] = "c" ∧
    (∃ p, Pool.Reach (working plainConfig) (Pool.start StorageBackend.memory.blank) p ∧
      (0, parentWrites "hello", 0) ∈ p.names ∧ ¬ Answerable plainConfig p.world "c" 0) ∧
    ∃ p, Pool.Reach (working plainConfig) (Pool.start StorageBackend.postgres.blank) p ∧
      (0, parentWrites "hello", 0) ∈ p.names ∧ ¬ Answerable plainConfig p.world "c" 0 :=
  ⟨rfl, rfl, first_message_unanswered .memory, first_message_unanswered .postgres⟩

end NxTutors.DemoAgent
