import NxTutors.MatchAgent.Requirements

/-!
# What to ask next

A field is missing only if its absence would change the match, and at most one question is asked.
A requirement is ready when nothing that blocks is missing and two of four fields are known.
-/

namespace NxTutors.MatchAgent

/-- What the agent knows about classes and subjects. -/
structure Domain where
  /-- the grade a class label stands for -/
  classNumber : Option String → Option Nat
  /-- whether a subject is an umbrella for several -/
  isAmbiguous : String → Bool
  /-- the subjects under an umbrella, in order -/
  partsOf : String → List String
  /-- whether the syllabus of a board diverges in that grade -/
  boardIsMandatory : String → Option Nat → Bool

structure MissingField where
  field : String
  blocking : Bool
  askPriority : Nat
  deriving DecidableEq, Repr

structure NextQuestion where
  field : String
  text : String
  acknowledgement : Option String := none
  deriving DecidableEq, Repr

def NextQuestion.render (q : NextQuestion) : String :=
  if present q.acknowledgement then q.acknowledgement.getD "" ++ " " ++ q.text else q.text

structure Readiness where
  missing : List MissingField
  readyToMatch : Bool
  nextQuestion : Option NextQuestion
  deriving DecidableEq, Repr

namespace MatchRequirement

variable (r : MatchRequirement)

/-- `value_of("subject")`, and so on. -/
def subjectValue : Option String := r.subject.map Tracked.value
def classValue : Option String := r.studentClass.map Tracked.value
def boardValue : Option String := r.board.map Tracked.value
def modeValue : Option TuitionMode := r.mode.map Tracked.value

/-- `location.city or location.pincode`. -/
def placed : Bool := present r.location.city || present r.location.pincode

/-- Only fields whose absence changes the match. -/
def missingFields (d : Domain) : List MissingField :=
  let grade := d.classNumber r.classValue
  (if !present r.subjectValue then [⟨"subject", true, 10⟩]
    else if d.isAmbiguous (r.subjectValue.getD "") && grade.any (11 ≤ ·) then
      [⟨"subject_detail", true, 15⟩]
    else []) ++
  (if !present r.classValue then [⟨"student_class", true, 20⟩] else []) ++
  (if r.modeValue ≠ some .online && !r.placed then
    [⟨"location", r.modeValue = some .home, 30⟩] else []) ++
  (if r.modeValue = none then [⟨"mode", false, 40⟩] else []) ++
  (if !present r.boardValue && d.boardIsMandatory "CBSE" grade then [⟨"board", false, 50⟩]
    else []) ++
  (if r.preferredSchedule = none then [⟨"schedule", false, 60⟩] else []) ++
  if !r.budget.truthy then [⟨"budget", false, 70⟩] else []

/-- What was understood, echoed back. -/
def acknowledgement : Option String :=
  let parts := [r.classValue, r.boardValue, r.subjectValue].filter present
  if parts = [] then none
  else
    let mode := match r.modeValue with
      | some .home => " at home"
      | some .online => " online"
      | _ => ""
    let place := if present r.location.locality then r.location.locality else r.location.city
    some ("Got it — " ++ " ".intercalate (parts.map (·.getD "")) ++ mode ++
      (if present place then " in " ++ place.getD "" else "") ++ ".")

/-- `", ".join(parts[:-1]) + " or " + parts[-1]`. -/
def orList : List String → String
  | [] => ""
  | [part] => part
  | parts => ", ".intercalate parts.dropLast ++ " or " ++ parts.getLastD ""

/-- One question for a field. -/
def questionFor (d : Domain) (field : String) : NextQuestion :=
  let ask (field text : String) : NextQuestion := ⟨field, text, r.acknowledgement⟩
  if field = "subject" then
    let who := if present r.classValue then "for " ++ r.classValue.getD "" else "for your child"
    ask "subject" ("Which subject do you need help with " ++ who ++ "?")
  else if field = "subject_detail" then
    let parts := d.partsOf (r.subjectValue.getD "")
    ask "subject" ("Is that " ++
      orList (if parts = [] then ["Physics", "Chemistry", "Biology"] else parts) ++ "?")
  else if field = "student_class" then
    let what := if present r.subjectValue then " for " ++ r.subjectValue.getD "" else ""
    ask "student_class" ("Which class is your child in" ++ what ++ "?")
  else if field = "location" then
    ask "location" (if r.modeValue = some .home then "Which area should the tutor come to?"
      else "Which city are you in?")
  else if field = "mode" then ask "mode" "Would you prefer home tuition or online?"
  else if field = "board" then ask "board" "Which board — CBSE, ICSE or something else?"
  else if field = "schedule" then
    ask "schedule" "Which days and times usually work for you?"
  else if field = "budget" then ask "budget" "What budget did you have in mind?"
  else ask field "Could you tell me a little more about what you need?"

/-- `min(fields, key=ask_priority)`: the first of those that are asked first. -/
def askedFirst : List MissingField → Option MissingField
  | [] => none
  | m :: ms =>
    match askedFirst ms with
    | none => some m
    | some later => if later.askPriority < m.askPriority then some later else some m

/-- Whether we can match, and what to ask if not. -/
def assess (d : Domain) : Readiness :=
  let missing := r.missingFields d
  let blocking := missing.filter (·.blocking)
  let known := [present r.subjectValue, present r.classValue, r.modeValue.isSome, r.placed].count true
  if blocking = [] ∧ 2 ≤ known then ⟨missing, true, none⟩
  else
    let target := askedFirst (if blocking = [] then missing else blocking)
    ⟨missing, false, target.map fun m => r.questionFor d m.field⟩

end MatchRequirement

end NxTutors.MatchAgent
