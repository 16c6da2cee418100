import NxTutors.DemoAgent.Drafts
import NxTutors.DemoAgent.Ingress
import NxTutors.DemoAgent.Serving
import NxTutors.Text.Joined

/-!
# What the key of a message leaves out

The boundary sends one message for each key, so two messages that are different had better have
different keys. A key is the digest of a few parts, and the tag among them tells which message it
is. It does not tell everything the message is about, though: the key of a shortlist has the match
session and not the candidates, the key of slot proposals has their number, and the keys of what is
said about a demo its revision. `Draft.Agrees` says that two drafts with the same key agree in what
the key leaves out, and where the drafts of a run agree, a key identifies a message.
`queued_grounded` says what a message rests on.
-/

namespace NxTutors.DemoAgent

open Effect Text

/-! ## The parts of a key -/

/-- What messages show of a demo, besides its identifier. -/
structure DemoView where
  demoId : String
  slot : Option TimeSlot
  meetUrl : Option String
  locationLabel : Option String
  language : Language

def Demo.view (d : Demo) : DemoView := ⟨d.demoId, d.slot, d.meetUrl, d.locationLabel, d.language⟩

namespace Draft

/-- **What the key leaves out is the same**, if what is in the key is. -/
def Agrees (ref : String) : Draft → Draft → Prop
  | tutorOptions session candidates, tutorOptions session' candidates' =>
    session = session' → candidates = candidates'
  | slotProposal tutorRef proposals, slotProposal tutorRef' proposals' =>
    tutorRef = tutorRef' → proposals.length = proposals'.length → proposals = proposals'
  | tutorRequest demo tutor, tutorRequest demo' tutor'
  | tutorExpired demo tutor, tutorExpired demo' tutor' =>
    demo.demoId = demo'.demoId → demo.revision = demo'.revision →
      tutor.ref = tutor'.ref ∧ demo.view = demo'.view
  | confirmation demo, confirmation demo' =>
    demo.demoId = demo'.demoId → demo.revision = demo'.revision → demo.view = demo'.view
  | followup demo body, followup demo' body' =>
    demo.demoId = demo'.demoId → demo.revision = demo'.revision →
      body = body' ∧ demo.view = demo'.view
  | paymentLink orderRef offer link, paymentLink orderRef' offer' link' =>
    orderRef = orderRef' → offer.amountMinor = offer'.amountMinor ∧
      offer.validUntil = offer'.validUntil ∧ link = link'
  | cancellation demo, cancellation demo' =>
    (demo.map (·.demoId)).getD ref = (demo'.map (·.demoId)).getD ref →
      demo.map Demo.view = demo'.map Demo.view
  | _, _ => True

/-- The part that tells which message it is. -/
def tag : Draft → String
  | question .. => "ask"
  | tutorOptions .. => "options"
  | slotProposal .. => "slots"
  | tutorRequest .. => "tutor_req"
  | tutorExpired .. => "tutor_expired"
  | confirmation _ => "confirm"
  | followup .. => "followup"
  | paymentLink .. => "pay"
  | welcome _ => "welcome"
  | cancellation _ => "cancel"

/-- What the key says besides, in one part or two. -/
def detail (ref : String) : Draft → String × List String
  | question first count => (first, [toString count])
  | tutorOptions session _ => (session, [])
  | slotProposal tutorRef proposals => (tutorRef, [toString proposals.length])
  | tutorRequest demo _ | tutorExpired demo _ | confirmation demo | followup demo _ =>
    (demo.demoId, [toString demo.revision])
  | paymentLink orderRef _ _ => (orderRef, [])
  | welcome subscriptionRef => (subscriptionRef, [])
  | cancellation demo => ((demo.map (·.demoId)).getD ref, [])

/-- Whether it is for the tutor. The keys of these do not name the conversation. -/
def forTutor : Draft → Bool
  | tutorRequest .. | tutorExpired .. => true
  | _ => false

variable {ref : String} {d d' : Draft}

theorem keyParts_eq (ref : String) (d : Draft) : d.keyParts ref =
    (if d.forTutor then [] else [ref]) ++ d.tag :: (d.detail ref).1 :: (d.detail ref).2 := by
  cases d <;> rfl

theorem tag_plain (d : Draft) : '\x1f' ∉ d.tag.toList := by
  have hplain : ∀ t ∈ ["ask", "options", "slots", "tutor_req", "tutor_expired", "confirm",
      "followup", "pay", "welcome", "cancel"], '\x1f' ∉ t.toList := by decide
  refine hplain _ ?_
  cases d <;> simp [tag]

/-- A tag for the tutor begins like no reference of a conversation. -/
theorem tag_forTutor (h : d.forTutor = true) : d.tag.toList.head? = some 't' := by
  have htags : ∀ t ∈ ["tutor_req", "tutor_expired"], t.toList.head? = some 't' := by decide
  refine htags _ ?_
  cases d with
  | tutorRequest | tutorExpired => simp [tag]
  | _ => cases h

end Draft

/-- The references of conversations, as callers hand them in. -/
def Config.Pseudonym (cfg : Config) (ref : String) : Prop :=
  ∃ value, ref = cfg.conversation value ∨ ref = cfg.phone value

theorem Config.Pseudonym.head {cfg : Config} {ref : String} (h : cfg.Pseudonym ref) :
    ref.toList.head? = some 'c' ∨ ref.toList.head? = some 'p' := by
  obtain ⟨value, rfl | rfl⟩ := h
  · left
    rw [Config.conversation, String.toList_append]
    rfl
  · right
    rw [Config.phone, String.toList_append]
    rfl

/-- The text of which the key is a digest. -/
def keyText (parts : List String) : String := "\x1f".intercalate parts

section Keys

variable {cfg : Config} {ref : String} {d d' : Draft}

theorem sep_toList : ("\x1f" : String).toList = ['\x1f'] := by decide

/-- A text that begins with a tag for the tutor is not one that begins with a conversation. -/
theorem keyText_forTutor_ne (href : cfg.Pseudonym ref) (hd : d.forTutor = true)
    (hd' : d'.forTutor = false) : keyText (d.keyParts ref) ≠ keyText (d'.keyParts ref) := by
  intro h
  rw [d.keyParts_eq, d'.keyParts_eq, hd, hd', if_pos rfl, if_neg Bool.false_ne_true] at h
  have hchars := congrArg (fun s : String => s.toList.head?) h
  simp only [keyText, List.nil_append, List.cons_append, toList_join_cons sep_toList] at hchars
  have hlead : ∀ (s : String) (rest : List Char) (c : Char), s.toList.head? = some c →
      (s.toList ++ rest).head? = some c := fun s rest c hs => by
    rw [List.head?_append, hs, Option.some_or]
  rw [hlead _ _ _ (Draft.tag_forTutor hd)] at hchars
  rcases href.head with hc | hc
  · rw [hlead _ _ _ hc] at hchars
    exact absurd hchars (by decide)
  · rw [hlead _ _ _ hc] at hchars
    exact absurd hchars (by decide)

/-- **The tag can be read off the text**, and so can what comes after it. -/
theorem keyText_inj (href : cfg.Pseudonym ref)
    (h : keyText (d.keyParts ref) = keyText (d'.keyParts ref)) :
    d.tag = d'.tag ∧ keyText ((d.detail ref).1 :: (d.detail ref).2) =
      keyText ((d'.detail ref).1 :: (d'.detail ref).2) := by
  have htail : keyText (d.tag :: (d.detail ref).1 :: (d.detail ref).2) =
      keyText (d'.tag :: (d'.detail ref).1 :: (d'.detail ref).2) := by
    cases hd : d.forTutor with
    | true =>
      cases hd' : d'.forTutor with
      | true =>
        rw [d.keyParts_eq, d'.keyParts_eq, hd, hd', if_pos rfl] at h
        exact h
      | false => exact absurd h (keyText_forTutor_ne href hd hd')
    | false =>
      cases hd' : d'.forTutor with
      | true => exact absurd h.symm (keyText_forTutor_ne href hd' hd)
      | false =>
        rw [d.keyParts_eq, d'.keyParts_eq, hd, hd', if_neg Bool.false_ne_true] at h
        exact join_cons_cancel sep_toList h
  exact join_cons_inj sep_toList d.tag_plain d'.tag_plain htail

/-- A detail and a number can be read off their text. -/
theorem detail_inj {a b : String} {n m : Nat}
    (h : keyText [a, toString n] = keyText [b, toString m]) : a = b ∧ n = m := by
  obtain ⟨hfirst, hlast⟩ := join_pair_inj sep_toList (notMem_toString n (by decide))
    (notMem_toString m (by decide)) h
  exact ⟨hfirst, toString_inj hlast⟩

theorem detail_single {a b : String} (h : keyText [a] = keyText [b]) : a = b := by
  rwa [keyText, keyText, String.intercalate_singleton, String.intercalate_singleton] at h

/-! ## The content of a message -/

theorem Demo.view_eq {demo demo' : Demo} (h : demo.view = demo'.view) :
    demo.demoId = demo'.demoId ∧ demo.slot = demo'.slot ∧ demo.meetUrl = demo'.meetUrl ∧
      demo.locationLabel = demo'.locationLabel ∧ demo.language = demo'.language := by
  simpa only [Demo.view, DemoView.mk.injEq] using h

/-- What is said of two demos that show the same is the same. -/
theorem confirmation_view {demo demo' : Demo} (h : demo.view = demo'.view) :
    confirmation cfg demo = confirmation cfg demo' := by
  obtain ⟨-, hslot, hmeet, hplace, -⟩ := Demo.view_eq h
  rw [confirmation, confirmation, hslot, hmeet, hplace]

theorem tutorConfirmationTemplate_view {demo demo' : Demo} (h : demo.view = demo'.view) :
    tutorConfirmationTemplate cfg demo = tutorConfirmationTemplate cfg demo' := by
  obtain ⟨hid, hslot, -, -, hlanguage⟩ := Demo.view_eq h
  rw [tutorConfirmationTemplate, tutorConfirmationTemplate, hid, hslot, hlanguage]

theorem cancellation_view {demo demo' : Option Demo}
    (h : demo.map Demo.view = demo'.map Demo.view) :
    cancellation cfg demo = cancellation cfg demo' := by
  have hslot : demo.bind Demo.slot = demo'.bind Demo.slot := by
    have hview : ∀ x : Option Demo, x.bind Demo.slot = (x.map Demo.view).bind DemoView.slot := by
      intro x
      cases x <;> rfl
    rw [hview, hview, h]
  rw [cancellation, cancellation, hslot]

theorem templateValue_view {demo demo' : Option Demo}
    (h : demo.map Demo.view = demo'.map Demo.view) :
    templateValue cfg demo = templateValue cfg demo' := by
  funext field
  cases demo with
  | none =>
    cases demo' with
    | none => rfl
    | some d' => cases h
  | some d =>
    cases demo' with
    | none => cases h
    | some d' =>
      obtain ⟨hid, hslot, hmeet, hplace, -⟩ := Demo.view_eq (Option.some.inj h)
      simp only [templateValue, Option.bind_some, Option.map_some, hid, hslot, hmeet, hplace]

theorem windowSafeTemplate_view (kind : MessageKind) {demo demo' : Option Demo}
    (h : demo.map Demo.view = demo'.map Demo.view) :
    windowSafeTemplate cfg kind demo = windowSafeTemplate cfg kind demo' := by
  have hlanguage : (demo.map Demo.language) = demo'.map Demo.language := by
    have hview : ∀ x : Option Demo,
        x.map Demo.language = (x.map Demo.view).map DemoView.language := by
      intro x
      cases x <;> rfl
    rw [hview, hview, h]
  rw [windowSafeTemplate, windowSafeTemplate, templateValue_view h, hlanguage]

/-- **A key is enough**: drafts with the same key that agree in what it leaves out are the same
message. -/
theorem draft_content (href : cfg.Pseudonym ref)
    (h : keyText (d.keyParts ref) = keyText (d'.keyParts ref)) (hagree : d.Agrees ref d') :
    d.recipient ref = d'.recipient ref ∧ d.body cfg = d'.body cfg ∧
      d.template cfg = d'.template cfg := by
  obtain ⟨htag, hdetail⟩ := keyText_inj href h
  cases d with
  | question first count =>
    cases d' with
    | question first' count' =>
      obtain ⟨rfl, rfl⟩ := detail_inj hdetail
      exact ⟨rfl, rfl, rfl⟩
    | _ => simp [Draft.tag] at htag
  | tutorOptions session candidates =>
    cases d' with
    | tutorOptions session' candidates' =>
      obtain rfl := hagree (detail_single hdetail)
      exact ⟨rfl, rfl, rfl⟩
    | _ => simp [Draft.tag] at htag
  | slotProposal tutorRef proposals =>
    cases d' with
    | slotProposal tutorRef' proposals' =>
      obtain ⟨htutor, hcount⟩ := detail_inj hdetail
      obtain rfl := hagree htutor hcount
      exact ⟨rfl, rfl, rfl⟩
    | _ => simp [Draft.tag] at htag
  | tutorRequest demo tutor =>
    cases d' with
    | tutorRequest demo' tutor' =>
      obtain ⟨hid, hrevision⟩ := detail_inj hdetail
      obtain ⟨htutor, hview⟩ := hagree hid hrevision
      exact ⟨htutor, rfl, tutorConfirmationTemplate_view hview⟩
    | _ => simp [Draft.tag] at htag
  | tutorExpired demo tutor =>
    cases d' with
    | tutorExpired demo' tutor' =>
      obtain ⟨hid, hrevision⟩ := detail_inj hdetail
      obtain ⟨htutor, hview⟩ := hagree hid hrevision
      obtain ⟨hid', -, -, -, hlanguage⟩ := Demo.view_eq hview
      refine ⟨htutor, rfl, ?_⟩
      rw [Draft.template, Draft.template, hid', hlanguage]
    | _ => simp [Draft.tag] at htag
  | confirmation demo =>
    cases d' with
    | confirmation demo' =>
      obtain ⟨hid, hrevision⟩ := detail_inj hdetail
      have hview := hagree hid hrevision
      have hview' : (some demo).map Demo.view = (some demo').map Demo.view := congrArg some hview
      exact ⟨rfl, confirmation_view hview, windowSafeTemplate_view .confirmation hview'⟩
    | _ => simp [Draft.tag] at htag
  | followup demo body =>
    cases d' with
    | followup demo' body' =>
      obtain ⟨hid, hrevision⟩ := detail_inj hdetail
      obtain ⟨rfl, hview⟩ := hagree hid hrevision
      have hview' : (some demo).map Demo.view = (some demo').map Demo.view := congrArg some hview
      exact ⟨rfl, rfl, windowSafeTemplate_view .followup hview'⟩
    | _ => simp [Draft.tag] at htag
  | paymentLink orderRef offer link =>
    cases d' with
    | paymentLink orderRef' offer' link' =>
      obtain ⟨hamount, hvalid, rfl⟩ := hagree (detail_single hdetail)
      refine ⟨rfl, ?_, rfl⟩
      rw [Draft.body, Draft.body, paymentLinkText, paymentLinkText, hamount, hvalid]
    | _ => simp [Draft.tag] at htag
  | welcome subscriptionRef =>
    cases d' with
    | welcome subscriptionRef' => exact ⟨rfl, rfl, rfl⟩
    | _ => simp [Draft.tag] at htag
  | cancellation demo =>
    cases d' with
    | cancellation demo' =>
      have hview := hagree (detail_single hdetail)
      exact ⟨rfl, cancellation_view hview, windowSafeTemplate_view .cancellation hview⟩
    | _ => simp [Draft.tag] at htag

end Keys

/-! ## The messages of a run -/

/-- The messages that a call has queued. -/
def queuedBy : Call ports Exn → List OutboundMessage
  | ⟨.execute _ ctx _, .ok effect⟩ => effect.queued ctx
  | _ => []

/-- The messages that were queued in the course of a record. -/
def queuedIn (record : Record) : List OutboundMessage := record.flatMap fun x => queuedBy x.call

/-- What was said in the course of a record: the drafts of the commands that had something to
say. -/
def DraftedIn (cfg : Config) (record : Record) (d : Draft) : Prop :=
  ∃ x ∈ record, queuedBy x.call ≠ [] ∧ ∃ command ctx payload r,
    Executes x command ctx payload r ∧ Drafted cfg ctx payload x.inner command d

section Runs

variable {C : Type} [ConversationRepository C] {cfg : Config} {ref : String} {w : World C}
  {deeds : List Deed} {s : World C × Record}

/-- **Whatever a run has queued was written from what it said.** -/
theorem queued_drafted (hrun : Path (Serves cfg ref) (w, []) deeds s) {m : OutboundMessage}
    (hm : m ∈ queuedIn s.2) : ∃ d, DraftedIn cfg s.2 d ∧ WrittenFrom cfg ref d m := by
  obtain ⟨⟨⟨o, r⟩, inner⟩, hx, hmx⟩ := List.mem_flatMap.mp hm
  have hqueued : queuedBy ⟨o, r⟩ ≠ [] := List.ne_nil_of_mem hmx
  cases o with
  | execute command ctx payload =>
    cases r with
    | error e => cases hmx
    | ok effect =>
      obtain ⟨rfl, a, b, hcarries⟩ := served_execution hrun rfl hx (by exact rfl)
      obtain ⟨-, hguard⟩ := hcarries.record rfl
      obtain ⟨d, hd, hwritten⟩ := (hguard _ _ execute_drafts).2 effect rfl m hmx
      exact ⟨d, ⟨_, hx, hqueued, command, ctx, payload, .ok effect, rfl, hd⟩, hwritten⟩
  | _ => cases hmx

/-- **A key identifies one message**, where all that is said agrees in what the keys leave out, and
the digests of keys that are used tell them apart. -/
theorem key_identifies_message (hrun : Path (Serves cfg ref) (w, []) deeds s)
    (href : cfg.Pseudonym ref)
    (hdigests : ∀ d d', DraftedIn cfg s.2 d → DraftedIn cfg s.2 d' →
      cfg.idempotencyKey (d.keyParts ref) = cfg.idempotencyKey (d'.keyParts ref) →
        keyText (d.keyParts ref) = keyText (d'.keyParts ref))
    (hagree : ∀ d d', DraftedIn cfg s.2 d → DraftedIn cfg s.2 d' → d.Agrees ref d')
    {m m' : OutboundMessage} (hm : m ∈ queuedIn s.2) (hm' : m' ∈ queuedIn s.2)
    (hkey : m.idempotencyKey = m'.idempotencyKey) :
    m.recipientRef = m'.recipientRef ∧ m.body = m'.body ∧ m.template = m'.template := by
  obtain ⟨d, hd, hwritten⟩ := queued_drafted hrun hm
  obtain ⟨d', hd', hwritten'⟩ := queued_drafted hrun hm'
  rw [hwritten.key, hwritten'.key] at hkey
  obtain ⟨hrecipient, hbody, htemplate⟩ :=
    draft_content href (hdigests d d' hd hd' hkey) (hagree d d' hd hd')
  rw [hwritten.recipient, hwritten'.recipient, hwritten.body, hwritten'.body, hwritten.template,
    hwritten'.template]
  exact ⟨hrecipient, hbody, htemplate⟩

/-- What a message rests on: it is for whom the conversation is with, or for the tutor of the demo
that was found; a link to pay is of an order, for an offer that the decision found approves. -/
structure Grounded (cfg : Config) (ref : String) (record : Record) (m : OutboundMessage) : Prop where
  addressed : m.recipientRef = ref ∨ m.kind = .tutorRequest ∧ ∃ x ∈ record, ∃ demo tutor,
    ⟨.demoForConversation ref, .ok (some demo)⟩ ∈ x.inner ∧ demo.attendee .tutor = some tutor ∧
      m.recipientRef = tutor.ref
  approved : m.kind = .paymentLink → ∃ x ∈ record, ∃ ctx payload r demoId decision offer order link,
    Executes x .createPaymentOrder ctx payload r ∧
      ⟨.loadDecision demoId, .ok (some decision)⟩ ∈ x.inner ∧ decision.approve ctx.now = .ok offer ∧
      Linked cfg offer x.inner order link ∧ m.body = paymentLinkText offer link

end Runs

/-! ## A question, and two shortlists -/

/-- The command a call executes. -/
def commandRun : Call ports Exn → Option Command
  | ⟨.execute command _ _, _⟩ => some command
  | _ => none

/-- The request a call has read. -/
def requestRead : Call ports Exn → Option (Option DemoRequest)
  | ⟨.requestForConversation _, .ok request⟩ => some request
  | _ => none

/-- A conversation is handed over and asked about itself, twice. -/
def asking : List Task :=
  [.handle (occurs "1" .handoffReceived .agent), .handle (occurs "2" .ownershipAcquired .system),
    .handle (occurs "3" .identityUnresolved .system),
    .handle (occurs "4" .requirementsUpdated .user)]

def askedTwice : List Deed × (World InMemoryConversations × Record) :=
  attendAll plainConfig (fun o w => w.smooth o) ({ conversations := {} }, []) asking

/-- Both times the same question is asked. -/
theorem asked_drafts {d : Draft} (hd : DraftedIn plainConfig askedTwice.2.2 d) :
    d = .question "service" 1 := by
  have hread : ∀ x ∈ askedTwice.2.2, queuedBy x.call ≠ [] →
      commandRun x.call = some .askMissingRequirements ∧
        ∀ c ∈ x.inner, requestRead c = none ∨ requestRead c = some none := by decide +kernel
  obtain ⟨x, hx, hqueued, command, ctx, payload, r, hexec, hdraft⟩ := hd
  obtain ⟨hcommand, hrequests⟩ := hread x hx hqueued
  rw [show x.call = _ from hexec] at hcommand
  obtain rfl := Option.some.inj hcommand
  cases hdraft with
  | question hmem hmissing =>
    rcases hrequests _ hmem with hnone | hsome
    · cases hnone
    · cases hsome
      obtain ⟨rfl, rfl⟩ := List.cons.inj hmissing
      rfl

theorem asked_twice : ∃ m ∈ queuedIn askedTwice.2.2, ∃ m' ∈ queuedIn askedTwice.2.2, m.traceId ≠ m'.traceId ∧
    m.idempotencyKey = m'.idempotencyKey ∧
      m.recipientRef = m'.recipientRef ∧ m.body = m'.body ∧ m.template = m'.template := by
  have hsmooth : ∀ (o : Op) (w : World InMemoryConversations),
      Answers o w (w.smooth o).1 (w.smooth o).2 := fun o w => answers_smooth o w
  have hrun : Path (Serves plainConfig "cv_c") ({ conversations := {} }, []) askedTwice.1 askedTwice.2 :=
    attendAll_path hsmooth (by decide) _
  have hkeys : ∃ m ∈ queuedIn askedTwice.2.2, ∃ m' ∈ queuedIn askedTwice.2.2, m.traceId ≠ m'.traceId ∧
      m.idempotencyKey = m'.idempotencyKey := by decide +kernel
  obtain ⟨m, hm, m', hm', htrace, hkey⟩ := hkeys
  refine ⟨m, hm, m', hm', htrace, hkey, key_identifies_message hrun ⟨"c", .inl (by decide)⟩ ?_ ?_
    hm hm' hkey⟩
  · intro d d' hd hd' _
    rw [asked_drafts hd, asked_drafts hd']
  · intro d d' hd hd'
    rw [asked_drafts hd, asked_drafts hd']
    trivial

/-- A shortlist is presented, and rejected, and another is presented. -/
def presenting : List Task :=
  [.handle (occurs "1" .handoffReceived .agent), .handle (occurs "2" .ownershipAcquired .system),
    .handle (occurs "3" .identityUnresolved .system),
    .handle (occurs "4" .requirementsComplete .system),
    .handle (occurs "5" .matchSucceeded .system), .handle (occurs "6" .optionsPresented .system),
    .handle (occurs "7" .optionsRejected .user), .handle (occurs "8" .matchSucceeded .system)]

/-- **A new shortlist has the key of the old one.** The match session is put on the facts by a
command, and those are not stored, so the key has nothing in its place. -/
theorem shortlists_share_key : ∃ (w : World InMemoryConversations) (deeds : List Deed)
    (s : World InMemoryConversations × Record), Path (Serves plainConfig "cv_c") (w, []) deeds s ∧
      plainConfig.Pseudonym "cv_c" ∧ (∀ text, plainConfig.sha256 text = text) ∧
      ∃ m ∈ queuedIn s.2, ∃ m' ∈ queuedIn s.2, m.idempotencyKey = "cv_c\x1foptions\x1f" ∧
        m'.idempotencyKey = "cv_c\x1foptions\x1f" ∧ m.body ≠ m'.body := by
  refine ⟨introduced, _, _,
    attendAll_path answers_obliging (by decide : ∀ task ∈ presenting, task.Of "cv_c") _,
    ⟨"c", .inl (by decide)⟩, fun _ => rfl, ?_⟩
  decide +kernel

end NxTutors.DemoAgent
