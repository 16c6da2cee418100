import NxTutors.DemoAgent.Outbound
import NxTutors.Effect.Guarded

/-!
# One delivery, behind every gate

Any number of sends take turns, of different messages or of the same one, and between any two
calls ownership, state, consent and everything else may change. Two things hold of every delivery
nevertheless. The call that delivers comes after one call for each gate, made by the same send,
whose answer let the message pass (`Gated`); that is a fact about the program of the boundary
alone. And no two deliveries have the same idempotency key, since the message log grants the claim
of a key to one send and never forgets it.
-/

namespace NxTutors.DemoAgent

open Effect

/-! ## The gates, seen from the delivery -/

/-- The message a call delivers. -/
def deliveryOf : Call ports Exn → Option OutboundMessage
  | ⟨.deliver message _, _⟩ => some message
  | _ => none

/-- The message a call claims, if the claim is granted. -/
def claimOf : Call ports Exn → Option OutboundMessage
  | ⟨.claimSend message _, .ok true⟩ => some message
  | _ => none

/-- Whether a call delivers. -/
def Op.delivers : Op → Bool
  | .deliver .. => true
  | _ => false

/-- The call was made, and answered so. -/
def Answered (h : History ports Exn) (o : Op) (answer : o.Res) : Prop :=
  (⟨o, .ok answer⟩ : Call ports Exn) ∈ h

theorem Answered.snoc {h : History ports Exn} {o : Op} {answer : o.Res}
    (ha : Answered h o answer) (c : Call ports Exn) : Answered (h ++ [c]) o answer :=
  List.mem_append_left _ ha

theorem answered_last (h : History ports Exn) (o : Op) (answer : o.Res) :
    Answered (h ++ [⟨o, .ok answer⟩]) o answer :=
  List.mem_append_right _ (List.mem_singleton_self _)

/-- The first gates, which look at the message, its conversation and its owner, have let it pass
at `now`, and nothing has been delivered. -/
structure Entered (message : OutboundMessage) (now : Time) (h : History ports Exn) : Prop where
  time : Answered h .now now
  unexpired : message.expired now = false
  owner : ∃ ownership : Ownership,
    Answered h (.loadOwnership message.conversationRef now) ownership ∧
      ownership.owner = SELF ∧ ownership.expired now = false
  state : ∃ s : StateSnapshot, Answered h (.load message.conversationRef) s ∧
    s.state ∉ SUSPENDED ∧ (s.state ∈ TERMINAL → message.kind ∈ TERMINAL_ALLOWED)
  undelivered : ∀ c ∈ h, deliveryOf c = none

/-- The gates up to the claim have let it pass. -/
structure Cleared (message : OutboundMessage) (now : Time) (h : History ports Exn) : Prop
    extends Entered message now h where
  consent : message.kind ∈ OPT_OUT_EXEMPT ∨ Answered h (.optedOut message.recipientRef) false
  claimed : Answered h (.claimSend message now) true

/-- The message goes by an approved template, or in the session window. -/
def Channel (cfg : Config) (message : OutboundMessage) (now : Time)
    (h : History ports Exn) : Prop :=
  match message.template with
  | some template =>
    cfg.requireApprovedTemplate = true → cfg.templateNames ≠ [] →
      template.name ∈ cfg.templateNames
  | none => ∃ last : Option Time, Answered h (.lastInboundAt message.conversationRef) last ∧
      sessionWindowOpen last now cfg.sessionWindowHours = true

/-- **Every gate has let the message pass**, at one `now`. -/
structure Gated (cfg : Config) (message : OutboundMessage) (now : Time)
    (h : History ports Exn) : Prop extends Cleared message now h where
  channel : Channel cfg message now h
  output : Answered h (.checkOutput message) ([] : List String)
  limit : ∃ decision : LimitDecision,
    Answered h (.checkLimit ("whatsapp_send:" ++ message.recipientRef)
      cfg.sendsPerIdentityPerHour 3600) decision ∧ decision.allowed = true

theorem Entered.snoc {message : OutboundMessage} {now : Time} {h : History ports Exn}
    (he : Entered message now h) {c : Call ports Exn} (hd : deliveryOf c = none) :
    Entered message now (h ++ [c]) where
  time := he.time.snoc c
  unexpired := he.unexpired
  owner := he.owner.imp fun _ ho => ⟨ho.1.snoc c, ho.2⟩
  state := he.state.imp fun _ hs => ⟨hs.1.snoc c, hs.2⟩
  undelivered x hx := (List.mem_append.mp hx).elim (he.undelivered x) fun hx =>
    List.mem_singleton.mp hx ▸ hd

theorem Cleared.snoc {message : OutboundMessage} {now : Time} {h : History ports Exn}
    (hc : Cleared message now h) {c : Call ports Exn} (hd : deliveryOf c = none) :
    Cleared message now (h ++ [c]) where
  toEntered := hc.toEntered.snoc hd
  consent := hc.consent.imp id fun ho => ho.snoc c
  claimed := hc.claimed.snoc c

theorem Channel.snoc {cfg : Config} {message : OutboundMessage} {now : Time}
    {h : History ports Exn} (hc : Channel cfg message now h) (c : Call ports Exn) :
    Channel cfg message now (h ++ [c]) := by
  unfold Channel at hc ⊢
  cases htemplate : message.template with
  | some template => simpa only [htemplate] using hc
  | none =>
    simp only [htemplate] at hc
    exact hc.imp fun _ hl => ⟨hl.1.snoc c, hl.2⟩

/-! ## What the boundary may call when -/

/-- The calls of the boundary; a delivery comes after every gate. -/
def SendPermits (cfg : Config) (h : History ports Exn) (o : Op) : Prop :=
  (∃ message, SendCall message o) ∧
    ∀ message recipient, o = .deliver message recipient → ∃ now, Gated cfg message now h

/-- Who may send owns the conversation, and the lease has not run out. -/
theorem owner_of_assert {ownership : Ownership} {now : Time} {u : Unit}
    (h : ownership.assertMaySend now = .ok u) :
    ownership.owner = SELF ∧ ownership.expired now = false := by
  unfold Ownership.assertMaySend at h
  split at h
  · rename_i hheld
    simpa [Ownership.heldByUs] using hheld
  · cases h

/-- What the gate for the state lets pass. -/
theorem state_of_gate {state : DemoState} {kind : MessageKind}
    (h : ¬ (decide (state ∈ SUSPENDED) ||
      !canSendAutomatedMessage state && decide (kind ∉ TERMINAL_ALLOWED)) = true) :
    state ∉ SUSPENDED ∧ (state ∈ TERMINAL → kind ∈ TERMINAL_ALLOWED) := by
  simp only [canSendAutomatedMessage, Bool.or_eq_true, Bool.and_eq_true, Bool.not_eq_true',
    Bool.and_eq_false_iff, decide_eq_true_eq, decide_eq_false_iff_not, not_or, not_and,
    not_not] at h
  exact ⟨h.1, fun hterminal => h.2 (.inl hterminal)⟩

section Walk

variable {cfg : Config} {message : OutboundMessage} {now : Time} {h : History ports Exn}

/-- Whatever is not a delivery may be called at any time. -/
theorem ask_guarded {α : Type} {o : Op} {f : o.Res → Act α} (ho : SendCall message o)
    (hd : o.delivers = false) (hf : ∀ a, (f a).Guarded (SendPermits cfg) (h ++ [⟨o, .ok a⟩])) :
    (ask o >>= f).Guarded (SendPermits cfg) h := by
  refine Prog.guarded_perform_bind (S := ports) ⟨⟨message, ho⟩, fun m recipient heq => ?_⟩ hf
  rw [heq] at hd
  cases hd

theorem refuseRecorded_guarded (outcome : SendOutcome) (detail : String) :
    (refuseRecorded message now outcome detail).Guarded (SendPermits cfg) h :=
  ask_guarded (.recordSendResult _ now) rfl fun _ => trivial

/-- What follows the template check follows a refusal, or a channel. -/
theorem templateCheck_guarded {α : Type} {f : Option String → Act α}
    (hc : Cleared message now h)
    (hrefuse : ∀ refusal h', (f (some refusal)).Guarded (SendPermits cfg) h')
    (hpass : ∀ h', Cleared message now h' → Channel cfg message now h' →
      (f none).Guarded (SendPermits cfg) h') :
    (templateCheck cfg message now >>= f).Guarded (SendPermits cfg) h := by
  unfold templateCheck
  cases htemplate : message.template with
  | some template =>
    dsimp only
    split
    · exact hrefuse _ h
    · rename_i happroved
      refine hpass h hc ?_
      simp only [Channel, htemplate]
      intro hrequire hnames
      by_contra hname
      exact happroved (by simp [hrequire, hnames, hname])
  | none =>
    refine (Prog.bind_assoc (S := ports) _ _ f).symm ▸
      ask_guarded .lastInboundAt rfl fun last => ?_
    split
    · rename_i hopen
      refine hpass _ (hc.snoc rfl) ?_
      simp only [Channel, htemplate]
      exact ⟨last, answered_last _ _ _, hopen⟩
    · exact hrefuse _ _

/-- The last gates come before the delivery. -/
theorem deliverClaimed_guarded (hc : Cleared message now h) :
    (deliverClaimed cfg message now).Guarded (SendPermits cfg) h := by
  refine templateCheck_guarded hc (fun _ _ => refuseRecorded_guarded _ _) fun h' hc hchannel => ?_
  refine ask_guarded .checkOutput rfl fun violations => ?_
  split
  · exact refuseRecorded_guarded _ _
  · rename_i hviolations
    obtain rfl : violations = [] := not_not.mp hviolations
    refine ask_guarded (SendCall.checkLimit _ _ _ : SendCall message _) rfl fun decision => ?_
    split
    · exact refuseRecorded_guarded _ _
    · rename_i hallowed
      refine ask_guarded .resolveContact rfl fun recipient => ?_
      split
      · exact refuseRecorded_guarded _ _
      · refine Prog.guarded_perform_bind (S := ports) (o := .deliver message (recipient.getD ""))
          ⟨⟨message, .deliver _⟩, fun m r heq => ?_⟩ fun delivered => ?_
        · obtain ⟨rfl, -⟩ := Op.deliver.inj heq
          exact ⟨now,
            { toCleared := ((hc.snoc rfl).snoc rfl).snoc rfl
              channel := ((hchannel.snoc _).snoc _).snoc _
              output := ((answered_last _ _ _).snoc _).snoc _
              limit := ⟨decision, (answered_last _ _ _).snoc _, by simpa using hallowed⟩ }⟩
        · exact ask_guarded (.recordSendResult _ now) rfl fun _ => trivial

/-- What follows the question for consent follows a refusal, or consent. -/
theorem optedOutOf_guarded {α : Type} {f : Bool → Act α} (he : Entered message now h)
    (hout : ∀ h', (f true).Guarded (SendPermits cfg) h')
    (hin : ∀ h', Entered message now h' →
      (message.kind ∈ OPT_OUT_EXEMPT ∨ Answered h' (.optedOut message.recipientRef) false) →
      (f false).Guarded (SendPermits cfg) h') :
    (optedOutOf message >>= f).Guarded (SendPermits cfg) h := by
  unfold optedOutOf
  cases hexempt : message.optOutExempt with
  | true => exact hin h he (.inl (by simpa [OutboundMessage.optOutExempt] using hexempt))
  | false =>
    refine ask_guarded (α := α) (o := .optedOut message.recipientRef) .optedOut rfl fun out => ?_
    cases out with
    | true => exact hout _
    | false => exact hin _ (he.snoc rfl) (.inr (answered_last _ _ _))

/-- **Every delivery comes after every gate.** -/
theorem send_guarded : (send cfg message).Guarded (SendPermits cfg) [] := by
  refine ask_guarded (SendCall.now : SendCall message _) rfl fun now => ?_
  split
  · trivial
  · rename_i hexpired
    refine ask_guarded (.loadOwnership now) rfl fun ownership => ?_
    split
    · trivial
    · rename_i hmay
      refine ask_guarded .load rfl fun snapshot => ?_
      split
      · trivial
      · rename_i hstate
        have he : Entered message now ([] ++ [⟨.now, .ok now⟩] ++
            [⟨.loadOwnership message.conversationRef now, .ok ownership⟩] ++
            [⟨.load message.conversationRef, .ok snapshot⟩]) :=
          { time := ((answered_last _ _ _).snoc _).snoc _
            unexpired := by simpa using hexpired
            owner := ⟨ownership, (answered_last _ _ _).snoc _, owner_of_assert hmay⟩
            state := ⟨snapshot, answered_last _ _ _, state_of_gate hstate⟩
            undelivered := by simp [deliveryOf] }
        refine optedOutOf_guarded he (fun _ => trivial) fun h' he hconsent => ?_
        refine ask_guarded (.claimSend now) rfl fun claimed => ?_
        cases claimed with
        | false => trivial
        | true =>
          exact deliverClaimed_guarded
            { toEntered := he.snoc rfl
              consent := hconsent.imp id fun ho => ho.snoc _
              claimed := answered_last _ _ _ }

end Walk

/-! ## One delivery for each key -/

/-- A delivery of a message with the key. -/
def delivers (key : String) (c : Call ports Exn) : Bool :=
  (deliveryOf c).any fun message => message.idempotencyKey = key

/-- A granted claim of the key. -/
def claims (key : String) (c : Call ports Exn) : Bool :=
  (claimOf c).any fun message => message.idempotencyKey = key

theorem delivers_iff {key : String} {o : Op} {r : Except Exn o.Res} :
    delivers key ⟨o, r⟩ = true ↔
      ∃ message recipient, o = .deliver message recipient ∧ message.idempotencyKey = key := by
  cases o <;> simp [delivers, deliveryOf]

theorem claims_iff {key : String} {o : Op} {r : Except Exn o.Res} :
    claims key ⟨o, r⟩ = true ↔
      ∃ message now, (⟨o, r⟩ : Call ports Exn) = ⟨.claimSend message now, .ok true⟩ ∧
        message.idempotencyKey = key := by
  constructor
  · intro h
    cases o with
    | claimSend message now =>
      rcases r with exn | granted
      · exact absurd h Bool.false_ne_true
      · cases granted with
        | false => exact absurd h Bool.false_ne_true
        | true => exact ⟨message, now, rfl, by simpa [claims, claimOf] using h⟩
    | _ => exact absurd h Bool.false_ne_true
  · rintro ⟨message, now, heq, rfl⟩
    rw [heq]
    simp [claims, claimOf]

/-- Where at most one member counts, any two that count are the same. -/
theorem eq_of_countP_le_one {γ : Type} {p : γ → Bool} {l : List γ} (h : l.countP p ≤ 1)
    {x y : γ} (hx : x ∈ l) (hy : y ∈ l) (hpx : p x = true) (hpy : p y = true) : x = y := by
  rw [List.countP_eq_length_filter] at h
  have hx' : x ∈ l.filter p := List.mem_filter.mpr ⟨hx, hpx⟩
  have hy' : y ∈ l.filter p := List.mem_filter.mpr ⟨hy, hpy⟩
  match hl : l.filter p, h with
  | [], _ => rw [hl] at hx'; cases hx'
  | [z], _ =>
    rw [hl] at hx' hy'
    rw [List.mem_singleton.mp hx', List.mem_singleton.mp hy']

section Delivery

variable {C : Type} [ConversationRepository C]

/-- Any number of messages being sent, while the rest of the world does what it likes; the keys
in the message log stay there. -/
def sending (cfg : Config) : Arena ports Exn SendResult (World C) Nat where
  answers _ := Answers
  enters _ p _ := ∃ message, p = send cfg message
  outside a b := ∀ key ∈ a.messageLog, key ∈ b.messageLog

/-- **What the message log guarantees**: a key is claimed once, by somebody who has it in the log,
and delivered once, by whoever claimed it. -/
structure OneEach (a : World C × List (Nat × Call ports Exn)) : Prop where
  claimed : ∀ key, a.2.countP (fun x => claims key x.2) ≤ 1
  stored : ∀ x ∈ a.2, ∀ key, claims key x.2 = true → key ∈ a.1.messageLog
  backed : ∀ x ∈ a.2, ∀ key, delivers key x.2 = true →
    ∃ y ∈ a.2, y.1 = x.1 ∧ claims key y.2 = true
  delivered : ∀ key, a.2.countP (fun x => delivers key x.2) ≤ 1

/-- A call of the boundary takes no key out of the message log. -/
theorem SendCall.messageLog {message : OutboundMessage} {o : Op} (ho : SendCall message o)
    {a b : World C} {r : Except Exn o.Res} (h : Answers o a r b) :
    ∀ key ∈ a.messageLog, key ∈ b.messageLog := by
  refine h.keeps (I := fun b => ∀ key ∈ a.messageLog, key ∈ b.messageLog) (fun _ hk => hk) ?_
    fun hcomponent => by cases ho <;> cases hcomponent
  cases ho with
  | claimSend now =>
    simp only [World.answer]
    split
    · exact fun _ hk => hk
    · exact fun _ hk => List.mem_cons_of_mem _ hk
  | _ => exact fun _ hk => hk

/-- A claim is granted for a key that was not in the log, and now is. -/
theorem Answers.granted {message : OutboundMessage} {now : Time} {a b : World C}
    (h : Answers (.claimSend message now) a (.ok true) b) :
    message.idempotencyKey ∉ a.messageLog ∧ message.idempotencyKey ∈ b.messageLog := by
  rcases h.repository rfl with ⟨hr, rfl⟩ | ⟨⟨name, hr⟩, _⟩
  · by_cases hmem : message.idempotencyKey ∈ a.messageLog
    · rw [World.answer, if_pos hmem] at hr
      cases hr
    · rw [World.answer, if_neg hmem]
      exact ⟨hmem, List.mem_cons_self⟩
  · cases hr

/-- **One call.** A permitted call keeps it. -/
theorem oneEach_call {cfg : Config} {t : Nat} {o : Op} {a b : World C} {r : Except Exn o.Res}
    {log : List (Nat × Call ports Exn)} (hp : SendPermits cfg (own t log) o)
    (hI : OneEach (a, log)) (h : Answers o a r b) : OneEach (b, log ++ [(t, ⟨o, r⟩)]) := by
  obtain ⟨⟨message, ho⟩, hgated⟩ := hp
  have hgrows := ho.messageLog h
  refine ⟨fun key => ?_, fun x hx key hc => ?_, fun x hx key hd => ?_, fun key => ?_⟩
  · rw [List.countP_append, List.countP_singleton]
    split
    · rename_i hc
      obtain ⟨m, now, heq, rfl⟩ := claims_iff.mp hc
      cases heq
      have hnone : log.countP (fun x => claims m.idempotencyKey x.2) = 0 :=
        List.countP_eq_zero.mpr fun x hx hcx =>
          (Answers.granted h).1 (hI.stored x hx _ hcx)
      omega
    · exact hI.claimed key
  · rcases List.mem_append.mp hx with hx | hx
    · exact hgrows key (hI.stored x hx key hc)
    · obtain rfl := List.mem_singleton.mp hx
      obtain ⟨m, now, heq, rfl⟩ := claims_iff.mp hc
      cases heq
      exact (Answers.granted h).2
  · rcases List.mem_append.mp hx with hx | hx
    · obtain ⟨y, hy, hname, hcy⟩ := hI.backed x hx key hd
      exact ⟨y, List.mem_append_left _ hy, hname, hcy⟩
    · obtain rfl := List.mem_singleton.mp hx
      obtain ⟨m, recipient, rfl, rfl⟩ := delivers_iff.mp hd
      obtain ⟨now, hg⟩ := hgated m recipient rfl
      exact ⟨(t, _), List.mem_append_left _ (mem_own.mp hg.claimed), rfl,
        claims_iff.mpr ⟨m, now, rfl, rfl⟩⟩
  · rw [List.countP_append, List.countP_singleton]
    split
    · rename_i hd
      obtain ⟨m, recipient, rfl, rfl⟩ := delivers_iff.mp hd
      obtain ⟨now, hg⟩ := hgated m recipient rfl
      have hnone : log.countP (fun x => delivers m.idempotencyKey x.2) = 0 := by
        refine List.countP_eq_zero.mpr fun x hx hdx => ?_
        -- whoever delivered the key had claimed it, and so have we: it was us
        obtain ⟨y, hy, hname, hcy⟩ := hI.backed x hx _ hdx
        have hours : y = (t, _) := eq_of_countP_le_one (hI.claimed m.idempotencyKey) hy
          (mem_own.mp hg.claimed) hcy (claims_iff.mpr ⟨m, now, rfl, rfl⟩)
        have hxt : x.1 = t := by rw [← hname, hours]
        have hown : x.2 ∈ own t log := mem_own.mpr (hxt ▸ hx)
        have hundelivered := hg.undelivered x.2 hown
        simp [delivers, hundelivered] at hdx
      omega
    · exact hI.delivered key

/-- **Single delivery behind every gate.** However sends take turns, with whatever happens in
between, at most one delivery is made for each idempotency key, and each comes after calls of the
same send whose answers let the message pass every gate. -/
theorem delivered_once_gated (cfg : Config) (w : World C)
    {p : Pool ports Exn SendResult (World C × List (Nat × Call ports Exn)) Nat}
    (h : Pool.Reach (sending cfg).traced (Pool.start (w, [])) p) :
    (∀ key, p.world.2.countP (fun x => delivers key x.2) ≤ 1) ∧
      ∀ before t message recipient r after,
        p.world.2 = before ++ (t, ⟨.deliver message recipient, r⟩) :: after →
          ∃ now, Gated cfg message now (own t before) := by
  have hstart : OneEach (w, ([] : List (Nat × Call ports Exn))) :=
    ⟨fun _ => Nat.zero_le 1, fun _ hx => absurd hx List.not_mem_nil,
      fun _ hx => absurd hx List.not_mem_nil, fun _ => Nat.zero_le 1⟩
  have hwatched := Pool.Reach.guarded (A := sending cfg) (P := fun _ => SendPermits cfg) (I := OneEach)
    (fun _ _ _ henter => by obtain ⟨message, rfl⟩ := henter; exact send_guarded) hstart
    (fun _ _ _ _ _ _ hp hI ha => oneEach_call hp hI ha)
    (fun _ _ _ hI hout => ⟨hI.claimed, fun x hx key hc => hout key (hI.stored x hx key hc),
      hI.backed, hI.delivered⟩) h
  refine ⟨hwatched.inv.delivered, fun before t message recipient r after heq => ?_⟩
  exact (hwatched.permitted before t _ r after heq).2 message recipient rfl

end Delivery

/-! ## A message that is sent twice -/

/-- A parent who has just written to a conversation that is ours. -/
def inSession : World InMemoryConversations where
  conversations :=
    { ownership := fun _ => some { conversationRef := "c", owner := SELF, since := 0 }
      lastInbound := fun _ => some 0 }

/-- An answer to the parent. -/
def answerText : OutboundMessage where
  conversationRef := "c"
  recipientRef := "c"
  kind := .question
  body := "Which class is the student in?"
  idempotencyKey := "k"
  createdAt := 0

/-- What is left when the message has been sent, and then once more. -/
def sentTwice : World InMemoryConversations × List (Nat × Call ports Exn) :=
  let smooth := fun (_ : Nat) (o : Op) (w : World InMemoryConversations) => w.smooth o
  let first := send plainConfig answerText
  let w := (play (S := ports) smooth 0 first inSession).2
  ((play (S := ports) smooth 0 first w).2,
    ([] ++ (transcript (S := ports) smooth 0 first inSession).map fun c => (0, c)) ++
      (transcript (S := ports) smooth 0 first w).map fun c => (1, c))

theorem sentTwice_reached : ∃ fin, Pool.Reach (sending plainConfig).traced
    (Pool.start (inSession, [])) ⟨sentTwice, [], fin⟩ := by
  have hsmooth : ∀ (_ : Nat) o (w : World InMemoryConversations),
      Answers o w (w.smooth o).1 (w.smooth o).2 := fun _ o w => answers_smooth o w
  have hfirst := Pool.Reach.traced_play (A := sending plainConfig) (t := 0) hsmooth
    (p := send plainConfig answerText) (w := inSession) [] [] ⟨_, rfl⟩ rfl List.not_mem_nil
  have hsecond := Pool.Reach.traced_play (A := sending plainConfig) (t := 1) hsmooth
    (p := send plainConfig answerText)
    (w := (play (fun _ o w => World.smooth w o) 0 (send plainConfig answerText) inSession).2)
    ([] ++ (transcript (fun _ o w => World.smooth w o) 0 (send plainConfig answerText)
      inSession).map fun c => (0, c))
    ([] ++ [(0, (play (fun _ o w => World.smooth w o) 0 (send plainConfig answerText)
      inSession).1)]) ⟨_, rfl⟩ (own_map_of_ne (by decide) _) (by simp)
  exact ⟨_, hfirst.trans hsecond⟩

/-- It applies to a message that is sent twice, and delivered once. -/
theorem sentTwice_once :
    sentTwice.2.countP (fun x => delivers "k" x.2) = 1 ∧
      ∀ key, sentTwice.2.countP (fun x => delivers key x.2) ≤ 1 := by
  obtain ⟨fin, hreach⟩ := sentTwice_reached
  exact ⟨by decide, (delivered_once_gated plainConfig inSession hreach).1⟩

end NxTutors.DemoAgent
