import NxTutors.MatchAgent.MissingInfo
import NxTutors.MatchAgent.OutputGuard

/-!
# What the parent is told

The staged pipeline ends with the entries of a shortlist, or with the reason why there is none, and
the message is composed from these and the requirement. A shortlist is a header, one block for each
tutor with blank lines between, and a closing line; where that is longer than a phone shows, it is
cut off at the end of a line.
-/

namespace NxTutors.MatchAgent

open Text

/-- What the staged pipeline found. -/
inductive Pipeline
  /-- no candidate passed, and why -/
  | unmatched (candidateIds : List String) (reason : String)
  /-- entries with a link, what they say without support, and whether the evidence is thin -/
  | shortlisted (candidateIds : List String) (entries : List ShortlistEntry)
    (violations : List String) (thin : Bool)
  deriving DecidableEq, Repr

/-- What a run of the pipeline hands back. -/
structure PipelineRun where
  matchSessionId : String
  found : Pipeline
  /-- the dependencies that were down -/
  degraded : List String := []
  deriving DecidableEq, Repr

namespace Explanation

def MAX_MESSAGE_CHARS : Nat := 900

/-- How messages are composed. -/
structure Speech where
  t : Tables
  /-- the upper case of one character, which may be several -/
  upper : Char → String

/-- `text[:1].upper() + text[1:]`. -/
def sentenceCase (s : Speech) (text : String) : String :=
  match text.toList with
  | [] => text
  | c :: cs => s.upper c ++ String.ofList cs

/-- The lines of one tutor. -/
def entryLines (s : Speech) (e : ShortlistEntry) : List String :=
  let detail := ([e.modeLabel, e.localityLabel, e.feeLabel].filter present).map (·.getD "")
  ["*" ++ e.name ++ "*"] ++
  (if detail ≠ [] then [" · ".intercalate detail] else []) ++
  (if e.reasons ≠ [] then [sentenceCase s ("; ".intercalate (e.reasons.take 3))] else []) ++
  (if present e.availabilityLabel then ["Can do: " ++ e.availabilityLabel.getD ""] else []) ++
  [e.profileUrl]

def renderEntry (s : Speech) (e : ShortlistEntry) : String := "\n".intercalate (entryLines s e)

/-- `f"{class} {subject}"`, of those that are known. -/
def descriptor (r : MatchRequirement) : String :=
  " ".intercalate (([r.classValue, r.subjectValue].filter present).map (·.getD ""))

def header (entries : List ShortlistEntry) (r : MatchRequirement) : String :=
  if entries.length = 1 then
    if descriptor r ≠ "" then "One tutor stands out for " ++ descriptor r ++ ":"
    else "One tutor stands out:"
  else
    "Here are " ++ toString entries.length ++
      if descriptor r ≠ "" then " tutors for " ++ descriptor r ++ ":" else " tutors who fit:"

def closing (entries : List ShortlistEntry) : String :=
  if 1 < entries.length then "Reply with a name and I'll set up a demo class."
  else "Reply here and I'll set up a demo class."

/-- The text before the last line break, if there is one. -/
def beforeLastLine (cs : List Char) : List Char :=
  if '\n' ∈ cs then ((cs.reverse.dropWhile (· ≠ '\n')).drop 1).reverse else cs

/-- `text.rstrip()`. -/
def rstrip (t : Tables) (cs : List Char) : List Char := (cs.reverse.dropWhile t.isSpace).reverse

/-- Cut to whole lines. -/
def truncate (t : Tables) (text : String) (limit : Nat) : String :=
  if text.length ≤ limit then text
  else String.ofList (rstrip t (beforeLastLine (text.toList.take limit)))

/-- The whole text of a shortlist, before it is cut. -/
def fullText (s : Speech) (entries : List ShortlistEntry) (r : MatchRequirement) : String :=
  strip s.t ("\n".intercalate
    (header entries r :: "" :: (entries.flatMap fun e => [renderEntry s e, ""]) ++
      [closing entries]))

/-- The one thing that could be relaxed. -/
def looseningSuggestion (t : Tables) (r : MatchRequirement) (blockingRule : String) : String :=
  let rule := t.lower blockingRule
  if contains rule "board_supported" then
    let label := if present r.boardValue then r.boardValue.getD "" ++ " " else ""
    "None of our " ++ label ++ "tutors cover that class yet. " ++
      "Would a tutor from a different board be acceptable?"
  else if contains rule "subject_supported" then
    "Shall I look at a related subject, or widen the area?"
  else if contains rule "class_supported" then
    "Shall I include tutors who teach nearby classes?"
  else if contains rule "fee_negotiable" then
    "The tutors who fit are above that budget. Shall I ask about package rates?"
  else if contains rule "within_travel_radius" || contains rule "city_reachable" then
    "Would online work, or shall I widen the area?"
  else if contains rule "gender" then "Shall I include tutors of any gender?"
  else if contains rule "below_quality_threshold" then
    "The closest options were weak fits. Shall I relax one of the requirements?"
  else if r.modeValue = some .online then "Shall I check a slightly different time or budget?"
  else if r.budget.truthy then "Shall I widen the area, or look slightly above that budget?"
  else "Would online work, or shall I widen the area?"

/-- No candidate cleared the bar. -/
def composeNoMatch (t : Tables) (r : MatchRequirement) (blockingRule : String) : String :=
  let place := if present r.location.locality then r.location.locality else r.location.city
  let what := if present r.subjectValue then r.subjectValue.getD "" ++ " " else ""
  let near := if present place then " near " ++ place.getD "" else ""
  "I couldn't find a " ++ what ++ "tutor who fits everything" ++ near ++ " right now. " ++
    looseningSuggestion t r blockingRule

def composeHandoff : String :=
  "Let me get one of our coordinators to look at this personally — they'll message you shortly."

/-- The message about a shortlist. -/
def composeMessage (s : Speech) (entries : List ShortlistEntry) (r : MatchRequirement) : String :=
  if entries = [] then composeNoMatch s.t r ""
  else truncate s.t (fullText s entries r) MAX_MESSAGE_CHARS

end Explanation

open Explanation

/-- A run that found nobody. -/
def noMatch (s : Speech) (r : MatchRequirement) (degraded : List String) (sessionId : String)
    (candidateIds : List String) (reason : String) (requiresHuman : Bool) : MatchOutcome where
  decision :=
    { matchSessionId := sessionId, conversationId := r.conversationId, candidateIds
      noMatchReason := some reason, requiresHumanReview := requiresHuman
      degradedSources := asTuple degraded }
  message := if requiresHuman then composeHandoff else composeNoMatch s.t r reason

/-- What a run of the pipeline amounts to, with the dependencies that were down until then. -/
def outcomeOf (s : Speech) (r : MatchRequirement) (degraded : List String) (run : PipelineRun) :
    MatchOutcome :=
  match run.found with
  | .unmatched candidateIds reason =>
    noMatch s r degraded run.matchSessionId candidateIds reason false
  | .shortlisted candidateIds entries violations thin =>
    -- every survivor failed link resolution: no shortlist is sent without links
    if entries = [] then
      noMatch s r degraded run.matchSessionId candidateIds "no_resolvable_profile_links" true
    else
      { decision :=
          { matchSessionId := run.matchSessionId, conversationId := r.conversationId, candidateIds
            shortlist := entries, requiresHumanReview := violations ≠ [] || thin
            degradedSources := asTuple degraded }
        message := if violations ≠ [] then composeHandoff else composeMessage s entries r }

variable {s : Speech} {r : MatchRequirement} {degraded : List String} {run : PipelineRun}

end NxTutors.MatchAgent
