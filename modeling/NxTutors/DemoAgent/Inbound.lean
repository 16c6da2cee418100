import NxTutors.DemoAgent.TutorSelection
import NxTutors.Text.Regex

/-!
# What a parent's message means

`route` decides which trigger an inbound message means. Every branch asks the machine whether
the trigger is available before it returns it, so the router cannot offer what the table does
not; and it refuses rather than guesses. A refusal is answered with a `clarification`.

`capture` folds an answer into the requirement of a request. It only ever adds: a field that
has been answered is never rewritten.
-/

namespace NxTutors.DemoAgent

open Text (Tables Re)

/-! ## The vocabulary -/

/-- Escape hatches. -/
def CANCEL : List String :=
  ["cancel", "stop", "unsubscribe", "not interested", "no longer", "band karo", "nahi chahiye",
    "rehne do"]

def HUMAN : List String :=
  ["human", "agent", "representative", "real person", "manager", "complaint", "speak to",
    "talk to a", "call me", "insaan", "baat karni"]

def RESCHEDULE : List String :=
  ["reschedule", "postpone", "change the time", "change time", "another time",
    "different time", "move it", "shift", "not free", "samay badal", "time badal"]

def REJECT_OPTIONS : List String :=
  ["someone else", "other tutor", "others", "different tutor", "more options", "alternatives",
    "none of", "neither", "koi aur", "dusra dikhao"]

def ORDINAL_WORDS : List (String × Nat) :=
  [("one", 1), ("first", 1), ("pehla", 1), ("two", 2), ("second", 2), ("dusra", 2),
    ("three", 3), ("third", 3), ("teesra", 3)]

/-- A digit from `lo` to `hi`. -/
def digitBetween (lo hi : Char) : Re := .one fun c => lo ≤ c && c ≤ hi

/-- `\b(?:option\s*)?([1-3])\b|\b(one|two|three|first|...)\b`. -/
def ORDINAL (t : Tables) : Re :=
  .alt
    (.seqs [.boundary, .opt (.seqs [.word "option", .many t.isSpace]),
      .group 1 (digitBetween '1' '3'), .boundary])
    (.seqs [.boundary,
      .group 2 (.words ["one", "two", "three", "first", "second", "third", "pehla", "dusra",
        "teesra"]),
      .boundary])

/-- The position an ordinal of the text stands for. -/
def ordinal (t : Tables) (text : String) : Option Nat :=
  (Re.search t (ORDINAL t) text).bind fun groups =>
    match groups 1 with
    | some digit => (String.ofList digit).toNat?
    | none => ORDINAL_WORDS.lookup (String.ofList ((groups 2).getD []))

/-- `re.search(r"[a-z]{3,}", text)`. -/
def hasLetters (text : String) : Bool := nameTokens text ≠ []

/-! ## Routing -/

/-- A routing decision. No trigger means: ask, do not act. -/
structure Routed where
  trigger : Option Trigger := none
  payload : Facts := Facts.empty
  /-- for metrics, and for choosing the clarifying reply -/
  reason : String := ""

/-- The trigger, if the machine permits it from here. -/
def offer (allowed : List Trigger) (text : String) (trigger : Trigger) (reason : String)
    (payload : List (String × Value)) : Option Routed :=
  if trigger ∈ allowed then
    some { trigger := some trigger, payload := Facts.ofList (("text", .str text) :: payload),
           reason }
  else none

/-- The route of a button that was tapped. -/
def routeButton (t : Tables) (allowed : List Trigger) (text buttonId : String) : Routed :=
  let tapped := t.lower (Text.strip t buttonId)
  let tap (label : String) (trigger : Trigger) (reason : String) : Option Routed :=
    (buttonOrdinal label tapped).bind fun n =>
      offer allowed text trigger reason [("button_id", .str tapped), ("ordinal", .int n)]
  ((tap "tutor" .tutorChosen "button_tutor").or (tap "slot" .slotAgreed "button_slot")).getD
    { reason := "button_not_valid_here:" ++ Text.take tapped 24 }

/-- What the text offers, the first of these that the machine permits. -/
def routeText (t : Tables) (allowed : List Trigger) (text lowered : String) :
    Option Routed :=
  let said (phrases : List String) (trigger : Trigger) (reason : String) : Option Routed :=
    if Text.containsAny lowered phrases then offer allowed text trigger reason [] else none
  let position (trigger : Trigger) (reason : String) : Option Routed :=
    (ordinal t lowered).bind fun n => offer allowed text trigger reason [("ordinal", .int n)]
  -- the escape hatches come before anything positional
  (said HUMAN .humanRequested "asked_for_a_human").or <|
  (said CANCEL .cancelledByUser "asked_to_cancel").or <|
  (said REJECT_OPTIONS .optionsRejected "rejected_the_shortlist").or <|
  (said RESCHEDULE .rescheduleRequested "asked_to_reschedule").or <|
  (position .tutorChosen "ordinal_tutor").or <|
  (position .slotAgreed "ordinal_slot").or <|
  (if hasLetters lowered then offer allowed text .tutorChosen "possible_name_selection" []
    else none).or <|
  offer allowed text .requirementsUpdated "requirement_text" []

/-- Decide which trigger one inbound message means, if any. -/
def route (t : Tables) (text : String) (buttonId : Option String) (snapshot : StateSnapshot)
    (actor : Actor := .user) : Routed :=
  let allowed := available snapshot actor
  match buttonId with
  | some buttonId => routeButton t allowed text buttonId
  | none =>
    let lowered := Text.squash t text
    if lowered = "" then { reason := "empty_message" }
    else
      (routeText t allowed text lowered).getD
        { reason := "no_trigger_for_state:" ++ snapshot.state.value }

/-- What to say when we did not understand. -/
def clarification (routed : Routed) (snapshot : StateSnapshot) : String :=
  if "button_not_valid_here".toList.isPrefixOf routed.reason.toList then
    "That option has expired. Could you tell me in words what you would like to do?"
  else if routed.reason = "empty_message" then
    "Sorry, I did not catch that — could you send it again?"
  else
    match snapshot.state with
    | .awaitingTutorSelection =>
      "Reply 1, 2 or 3 to pick a tutor — or say 'show me others'."
    | .negotiatingSlot | .tutorSelected =>
      "Reply with the option number, or suggest another time."
    | .collectingRequirements =>
      "Could you tell me the subject, class and board you need help with?"
    | .paymentPending =>
      "Your payment link is above. Reply CANCEL to stop, or ask for a human."
    | _ =>
      "I did not quite follow. You can reply CANCEL to stop, or ask to speak to a human."

/-! ## What is routed -/

section Routing

variable {t : Tables} {allowed : List Trigger} {text lowered reason : String}
  {trigger : Trigger} {payload : List (String × Value)} {routed : Routed}

/-- An offer of one of the permitted triggers. Beside the text it says at most which button was
tapped, and an ordinal. -/
inductive Offered (allowed : List Trigger) (text : String) : Routed → Prop
  | offer {trigger : Trigger} {reason : String} {payload : List (String × Value)}
      (hmem : trigger ∈ allowed) (hnames : ∀ entry ∈ payload, entry.1 ∈ ["button_id", "ordinal"]) :
      Offered allowed text { trigger := some trigger,
                             payload := Facts.ofList (("text", .str text) :: payload), reason }

theorem offer_offered (hnames : ∀ entry ∈ payload, entry.1 ∈ ["button_id", "ordinal"])
    (h : offer allowed text trigger reason payload = some routed) :
    Offered allowed text routed := by
  unfold offer at h
  split at h
  · rename_i hmem
    cases h
    exact .offer hmem hnames
  · cases h

/-- The first of two offers is one if both are. -/
theorem or_offered {a b : Option Routed} (ha : ∀ r, a = some r → Offered allowed text r)
    (hb : ∀ r, b = some r → Offered allowed text r) :
    ∀ r, a.or b = some r → Offered allowed text r := by
  intro r hr
  cases a with
  | none => exact hb r (by simpa using hr)
  | some r' => exact ha r (by simpa using hr)

theorem routeText_offered :
    ∀ r, routeText t allowed text lowered = some r → Offered allowed text r := by
  have hsaid : ∀ (c : Prop) [Decidable c] trigger reason r,
      (if c then offer allowed text trigger reason [] else none) = some r →
        Offered allowed text r := by
    intro c _ trigger reason r hr
    split at hr
    · exact offer_offered (by simp) hr
    · cases hr
  have hposition : ∀ trigger reason r, ((ordinal t lowered).bind fun n =>
      offer allowed text trigger reason [("ordinal", .int n)]) = some r →
        Offered allowed text r := by
    intro trigger reason r hr
    obtain ⟨n, _, hn⟩ := Option.bind_eq_some_iff.mp hr
    exact offer_offered (by simp) hn
  unfold routeText
  refine or_offered (hsaid _ _ _) ?_
  refine or_offered (hsaid _ _ _) ?_
  refine or_offered (hsaid _ _ _) ?_
  refine or_offered (hsaid _ _ _) ?_
  refine or_offered (hposition _ _) ?_
  refine or_offered (hposition _ _) ?_
  refine or_offered (hsaid _ _ _) ?_
  exact fun r hr => offer_offered (by simp) hr

theorem routeButton_offered {buttonId : String}
    (h : (routeButton t allowed text buttonId).trigger ≠ none) :
    Offered allowed text (routeButton t allowed text buttonId) := by
  have htap : ∀ label tapped trigger reason r, ((buttonOrdinal label tapped).bind fun n =>
      offer allowed text trigger reason [("button_id", .str tapped), ("ordinal", .int n)]) =
        some r → Offered allowed text r := by
    intro label tapped trigger reason r hr
    obtain ⟨n, _, hn⟩ := Option.bind_eq_some_iff.mp hr
    exact offer_offered (by simp) hn
  unfold routeButton at h ⊢
  have hor := or_offered (htap "tutor" (t.lower (Text.strip t buttonId)) .tutorChosen
    "button_tutor") (htap "slot" (t.lower (Text.strip t buttonId)) .slotAgreed "button_slot")
  cases htapped : ((buttonOrdinal "tutor" (t.lower (Text.strip t buttonId))).bind fun n =>
      offer allowed text .tutorChosen "button_tutor"
        [("button_id", .str (t.lower (Text.strip t buttonId))), ("ordinal", .int n)]).or
      ((buttonOrdinal "slot" (t.lower (Text.strip t buttonId))).bind fun n =>
        offer allowed text .slotAgreed "button_slot"
          [("button_id", .str (t.lower (Text.strip t buttonId))), ("ordinal", .int n)]) with
  | none =>
    simp only [htapped, Option.getD_none] at h
    exact absurd rfl h
  | some r =>
    simp only [htapped, Option.getD_some]
    exact hor r htapped

/-- **The router offers only what the machine permits**, and its payload is what was said. -/
theorem route_offered {buttonId : Option String} {snapshot : StateSnapshot} {actor : Actor}
    (h : (route t text buttonId snapshot actor).trigger ≠ none) :
    Offered (available snapshot actor) text (route t text buttonId snapshot actor) := by
  unfold route at h ⊢
  cases buttonId with
  | some b => exact routeButton_offered h
  | none =>
    simp only at h ⊢
    split
    · rename_i hempty
      rw [if_pos hempty] at h
      exact absurd rfl h
    · rename_i hsaid
      rw [if_neg hsaid] at h
      cases hr : routeText t (available snapshot actor) text (Text.squash t text) with
      | none =>
        rw [hr, Option.getD_none] at h
        exact absurd rfl h
      | some r => exact routeText_offered r hr

/-- What is offered has no other entry. -/
theorem Offered.payload_eq_none {name : String} (h : Offered allowed text routed)
    (hname : name ∉ ["text", "button_id", "ordinal"]) : routed.payload name = none := by
  cases h with
  | @offer trigger reason payload hmem hnames =>
    have hnone : (("text", .str text) :: payload).find? (fun e => e.1 = name) = none := by
      rw [List.find?_eq_none]
      intro e he heq
      have hentry : e.1 ∈ ["text", "button_id", "ordinal"] := by
        rcases List.mem_cons.mp he with rfl | he
        · exact List.mem_cons_self
        · exact List.mem_cons_of_mem _ (hnames e he)
      exact hname (of_decide_eq_true heq ▸ hentry)
    change (_ : Option (String × Value)).map Prod.snd = none
    rw [hnone, Option.map_none]

end Routing

/-! ## Capturing requirements -/

def SUBJECTS : List (List String × String) :=
  [(["maths", "math", "mathematics", "ganit"], "Mathematics"), (["physics"], "Physics"),
    (["chemistry"], "Chemistry"), (["biology", "bio"], "Biology"), (["science"], "Science"),
    (["english"], "English"), (["hindi"], "Hindi"),
    (["social", "sst", "history", "geography", "civics"], "Social Studies"),
    (["accounts", "accountancy"], "Accountancy"), (["economics", "eco"], "Economics"),
    (["computer", "coding", "programming"], "Computer Science")]

def BOARDS : List (List String × String) :=
  [(["cbse"], "CBSE"), (["icse", "isc"], "ICSE"), (["igcse"], "IGCSE"),
    (["ib ", "international baccalaureate"], "IB"),
    (["state board", "state-board", "stateboard"], "State Board")]

/-- The services, which name tutor scoring policies; the order matters. -/
def SERVICES : List (List String × String) :=
  [(["jee", "neet", "olympiad", "competitive", "entrance"], "competitive_exam"),
    (["board exam", "boards", "board prep", "board preparation"], "board_exam_prep"),
    (["urgent", "asap", "immediately", "kal se", "turant"], "urgent_tuition"),
    (["school", "regular", "tuition", "homework", "weak in"], "regular_school_support")]

/-- `([1-9]|1[0-2])`. -/
def CLASS_NUMBER : Re :=
  .alt (digitBetween '1' '9') (.seqs [.one (· == '1'), digitBetween '0' '2'])

/-- `\b(?:class|grade|std|standard)\s*([1-9]|1[0-2])\b|\b([1-9]|1[0-2])\s*th\b`. -/
def CLASS (t : Tables) : Re :=
  .alt
    (.seqs [.boundary, .words ["class", "grade", "std", "standard"], .many t.isSpace,
      .group 1 CLASS_NUMBER, .boundary])
    (.seqs [.boundary, .group 2 CLASS_NUMBER, .many t.isSpace, .word "th", .boundary])

/-- The name of the first row one of whose words is in the text. -/
def firstIn (lowered : String) (table : List (List String × String)) : Option String :=
  (table.find? fun row => Text.containsAny lowered row.1).map Prod.snd

/-- The class a text mentions. -/
def classIn (t : Tables) (lowered : String) : Option String :=
  (Re.search t (CLASS t) lowered).bind fun groups =>
    ((groups 1).or (groups 2)).map String.ofList

/-- The mode a text asks for. -/
def modeIn (lowered : String) : Option DemoMode :=
  if Text.containsAny lowered ["online", "video", "zoom", "remote"] then some .online
  else if Text.containsAny lowered ["home", "at my place", "offline", "in person", "ghar"] then
    some .home
  else none

/-- What a text in lower case adds to a requirement: only what it does not say yet. -/
def captureIn (t : Tables) (lowered : String) (current : Requirement) : Requirement :=
  { current with
    subject := current.subject.or (firstIn lowered SUBJECTS)
    board := current.board.or (firstIn lowered BOARDS)
    studentClass := current.studentClass.or (classIn t lowered)
    mode := current.mode.or (modeIn lowered)
    service := current.service.or (firstIn lowered SERVICES) }

/-- Fold what the parent said into the requirement. -/
def capture (t : Tables) (text : String) (current : Requirement) : Requirement :=
  if Text.squash t text = "" then current else captureIn t (Text.squash t text) current

example : capture Text.ascii "Maths for class 10, CBSE please" {} =
    { board := some "CBSE", studentClass := some "10", subject := some "Mathematics" } := by
  decide

end NxTutors.DemoAgent
