import NxTutors.DemoAgent.Ports
import NxTutors.DemoAgent.Templates

/-!
# What is said

Every text a customer gets is put together here from data that was handed over; a field that is
not there produces no sentence. `composeMessage` is the one place where a message to a customer is
built, and `OutboundMessage.deliverable` what every message must satisfy.
-/

namespace NxTutors.DemoAgent

/-! ## Texts -/

/-- What is asked for each missing field. -/
def QUESTIONS : List (String × String) :=
  [("service",
      "What kind of tuition are you looking for — school support, " ++
        "board exam prep, or a competitive exam?"),
    ("board", "Which board is the student following (CBSE, ICSE, State Board)?"),
    ("student_class", "Which class is the student in?"),
    ("subject", "Which subject would you like the demo class for?"),
    ("mode", "Would you prefer an online demo or a home tuition demo?"),
    ("region", "Which area or locality should we look in?")]

/-- The question for a field. It is asked in English, whatever the language. -/
def askFor (field : String) (_language : Option Language) : String :=
  (QUESTIONS.lookup field).getD "Could you tell me a little more about what you need?"

/-- `"\n".join(lines)`. -/
def joinLines (lines : List String) : String := "\n".intercalate lines

/-- The lines about one tutor. -/
def candidateLines (c : TutorCandidate) : List String :=
  [toString c.rank ++ ". " ++ c.name] ++
  (c.quotableReasons.take 2).map (fun reason => "   • " ++ reason) ++
  ([c.availabilityLabel, c.localityLabel, c.feeLabel].filter Requirement.present).map
    (fun label => "   • " ++ label.getD "") ++
  ["   " ++ c.profileUrl, ""]

/-- The ranks to choose from. -/
def rankChoice (candidates : List TutorCandidate) : String :=
  let ranks := candidates.map fun c => toString c.rank
  if 1 < ranks.length then ", ".intercalate ranks.dropLast ++ " or " ++ ranks.getLastD ""
  else ranks.headD ""

/-- Present two or three tutors. -/
def tutorOptions (cfg : Config) (candidates : List TutorCandidate) : String :=
  Text.strip cfg.tables (joinLines
    (["Here are the tutors I would recommend for the demo class:", ""] ++
      candidates.flatMap candidateLines ++
      ["Open a tutor's link above to read their full profile, or reply " ++
          rankChoice candidates ++ " to book a free demo class with them.",
        "Prefer someone else? Say 'show me others'."]))

def slotOptions (cfg : Config) (proposals : List SlotProposal) : String :=
  joinLines (["These times work for both of you:", ""] ++
    proposals.map (fun p => toString p.rank ++ ". " ++ p.slot.label cfg.zones) ++
    ["", "Reply with the option number, or suggest another time."])

/-- The booking confirmation. There is a link only if we have one. -/
def confirmation (cfg : Config) (demo : Demo) : String :=
  match demo.slot with
  | none => "Your demo class is confirmed."
  | some slot =>
    joinLines (["Your demo class is confirmed.", "", "When: " ++ slot.label cfg.zones] ++
      (if Requirement.present demo.meetUrl then ["Join here: " ++ demo.meetUrl.getD ""]
      else if Requirement.present demo.locationLabel then
        ["Where: " ++ demo.locationLabel.getD ""]
      else []) ++
      ["", "You will get reminders before the class. Reply RESCHEDULE to change it."])

def cancellation (cfg : Config) (demo : Option Demo) : String :=
  match demo.bind Demo.slot with
  | none => "Your demo class has been cancelled. Reply BOOK to arrange a new one."
  | some slot =>
    "Your demo class on " ++ slot.label cfg.zones ++ " has been cancelled.\n\n" ++
      "Reply BOOK if you would like me to find another slot."

/-- Digits, the last one first, with a comma after every third. -/
def grouped : List Char → List Char
  | a :: b :: c :: d :: rest => a :: b :: c :: ',' :: grouped (d :: rest)
  | digits => digits

/-- `₹1,200.00`. -/
def displayAmount (minor : Nat) : String :=
  "₹" ++ String.ofList (grouped (toString (minor / 100)).toList.reverse).reverse ++ "." ++
    twoDigits (minor % 100)

/-- Never asks for card details; only ever links out. -/
def paymentLinkText (offer : ApprovedOffer) (link : String) : String :=
  joinLines
    (["Here is your secure payment link for " ++ displayAmount offer.amountMinor ++ ":", "", link,
        ""] ++
      (match offer.validUntil with
      | none => []
      | some moment =>
        ["The link is valid until " ++ dayAndMonth moment ++ ", " ++
          twoDigits (hourOfTwelve moment) ++ ":" ++ minuteAndHalf moment ++ " UTC."]) ++
      ["Never share card or UPI details over chat — always pay on the linked page."])

def welcome : String :=
  "Welcome to NXTutors! Your subscription is active.\n\n" ++
    "Our onboarding team will take it from here and set up your regular classes."

def calendarSummary : String := "NXTutors Demo Class"

/-- What every invitee may see. -/
def calendarDescription (demo : Demo) : String :=
  " ".intercalate (["NXTutors demo class."] ++
    (match demo.slot with
    | none => []
    | some slot => ["Duration: " ++ toString slot.durationMinutes ++ " minutes."]) ++
    ["Reference: " ++ demo.demoId])

/-! ## Templates -/

/-- The request to the tutor, if its template is approved and the demo has a time. -/
def tutorConfirmationTemplate (cfg : Config) (demo : Demo) : Option TemplateBinding :=
  demo.slot.bind fun slot =>
    (Template.bind cfg.tables TEMPLATE_TUTOR_CONFIRMATION demo.language.value
      [slot.labelWithoutZone cfg.zones, slot.timezone, demo.demoId]).toOption

/-- Which template carries a kind when the session window has closed. -/
def TEMPLATE_FOR_KIND : List (MessageKind × String) :=
  [(.confirmation, TEMPLATE_SCHEDULED_CONFIRMATION), (.cancellation, TEMPLATE_CANCELLED),
    (.followup, TEMPLATE_FOLLOWUP)]

/-- The value of a template's variable, for a demo that may not be there. -/
def templateValue (cfg : Config) (demo : Option Demo) (field : String) : String :=
  let slot := demo.bind Demo.slot
  let value :=
    match field with
    | "demo_datetime" => (slot.map (·.labelWithoutZone cfg.zones)).getD ""
    | "timezone" => (slot.map (·.timezone)).getD ""
    | "join_link" =>
      let link := (demo.bind Demo.meetUrl).getD ""
      if link = "" then (demo.bind Demo.locationLabel).getD "" else link
    | "reference" => (demo.map (·.demoId)).getD ""
    | _ => ""
  if value = "" then "-" else value

/-- The template that lets a message survive a closed session window. -/
def windowSafeTemplate (cfg : Config) (kind : MessageKind) (demo : Option Demo) :
    Option TemplateBinding :=
  let language : Language := (demo.map Demo.language).getD .en
  (TEMPLATE_FOR_KIND.lookup kind).bind fun name =>
    (Template.get name).toOption.bind fun template =>
      (Template.bind cfg.tables name language.value
        (template.positionalVariables.map (templateValue cfg demo))).toOption

/-! ## Messages -/

/-- WhatsApp's own caps. -/
def MAX_BODY_CHARS : Nat := 4096
def MAX_BUTTONS : Nat := 3

/-- A message can be built: it has a body or a template, and is within its bounds. -/
def OutboundMessage.deliverable (cfg : Config) (m : OutboundMessage) : Bool :=
  m.conversationRef.length ≤ 128 && m.recipientRef.length ≤ 128 &&
  m.body.length ≤ MAX_BODY_CHARS && m.idempotencyKey.length ≤ 128 &&
  m.demoId.text.length ≤ 64 && m.traceId.length ≤ 64 &&
  (Text.strip cfg.tables m.body ≠ "" || m.template.isSome) &&
  m.buttons.length ≤ MAX_BUTTONS && (m.buttons.map (·.replyId)).Nodup &&
  (m.kind ∉ TEMPLATE_REQUIRED || m.template.isSome)

/-- The truncated name of a tutor, with the rank kept. -/
def buttonTitle (name : String) (rank : Nat) : String :=
  Text.take (toString rank ++ ". " ++ name) 20

/-- The one place where messages to customers are built. An approved template carries its own
quick replies, so a message has no buttons beside it. -/
def composeMessage (cfg : Config) (ctx : TurnContext) (kind : MessageKind) (recipientRef : String)
    (body : String) (keyParts : List String) (buttons : List Button := [])
    (demoId : Option String := none) (demo : Option Demo := none) : OutboundMessage :=
  let binding := windowSafeTemplate cfg kind demo
  { conversationRef := ctx.conversationRef, recipientRef, kind, body,
    buttons := if binding.isSome then [] else buttons, template := binding,
    idempotencyKey := cfg.idempotencyKey (ctx.conversationRef :: keyParts),
    demoId :=
      if Requirement.present demoId then .ofOption demoId else ctx.facts.get "demo_id",
    traceId := ctx.traceId, createdAt := ctx.now }

/-! ## Attendance -/

/-- Whether the first of a role said that he would come, or that he would not. -/
def responded (event : CalendarEvent) (role : String) : Option Bool :=
  match event.attendees.find? fun person => person.1 = role with
  | some (_, "accepted") => some true
  | some (_, "declined") => some false
  | _ => none

/-- Attendance as the calendar saw it: by who was there, or else by who said what. -/
def attendanceFromCalendar (event : CalendarEvent) : DemoOutcomeRecord :=
  let (tutorAttended, studentAttended) : Option Bool × Option Bool :=
    match event.participantCount with
    | none => (responded event "tutor", responded event "student")
    | some 0 => (some false, some false)
    -- one person alone may be either of them
    | some 1 => (none, none)
    | some _ => (some true, some true)
  let evidenceSource : AttendanceSignal :=
    if event.participantCount.isSome then .meetParticipation
    else if tutorAttended.isNone && studentAttended.isNone then .none
    else .calendarResponse
  let outcome : DemoOutcome :=
    if studentAttended = some true && tutorAttended = some true then .neutral
    else if studentAttended = some false || tutorAttended = some false then .notHeld
    else .unknown
  { outcome, studentAttended, tutorAttended, evidenceSource,
    durationMinutes := event.durationMinutes }

end NxTutors.DemoAgent
