import NxTutors.DemoAgent.Records

/-!
# The contract with Tutor Intelligence

What the agent asks for, and what comes back. A result is not trusted because it is well formed:
it is validated for staleness and for evidence before any candidate is presented, and then only
the bookable candidates are, ranked densely.
-/

namespace NxTutors.DemoAgent

/-- A result older than this may not be presented. -/
def MAX_RESULT_AGE : Time := 15 * minute

/-- How many options a parent is shown. -/
def MAX_OPTIONS : Nat := 3

/-- What the agent asks for. -/
structure TutorMatchRequest where
  traceId : String
  conversationRef : String
  studentRef : Option String := none
  subject : String
  studentClass : String
  board : String
  mode : DemoMode
  region : Option String := none
  locality : Option String := none
  timezone : String := "Asia/Kolkata"
  language : Language := .en
  /-- tutors that have been seen already -/
  excludeTutorRefs : List String := []
  deriving DecidableEq, Repr

/-- A text has between one and `max` characters. -/
def bounded (max : Nat) (s : String) : Bool := 1 ≤ s.length && s.length ≤ max

/-- Whether the request can be built. -/
def TutorMatchRequest.wellFormed (r : TutorMatchRequest) : Bool :=
  bounded 64 r.subject && bounded 16 r.studentClass && bounded 32 r.board

/-- What Tutor Intelligence returns. -/
structure TutorMatchResult where
  matchSessionId : String
  candidates : List TutorCandidate := []
  noMatchReason : Option String := none
  requiresHumanReview : Bool := false
  generatedAt : Time
  /-- it has confirmed that it sent nothing -/
  senderWasSilent : Bool := true
  deriving DecidableEq, Repr

namespace TutorMatchResult

def age (r : TutorMatchResult) (now : Time) : Time := now - r.generatedAt

def stale (r : TutorMatchResult) (now : Time) : Bool := MAX_RESULT_AGE < r.age now

/-- Every reason this result must not be shown. -/
def validateForPresentation (r : TutorMatchResult) (now : Time) : List String :=
  (if r.senderWasSilent then [] else ["tutor_agent_may_have_sent_a_message"]) ++
  (if r.stale now then ["result_stale:" ++ toString (r.age now / 1000000) ++ "s"] else []) ++
  (if now + minute < r.generatedAt then ["result_generated_in_the_future"] else []) ++
  (if r.requiresHumanReview then ["tutor_agent_requested_human_review"] else []) ++
  (if r.candidates = [] then
    [if Requirement.present r.noMatchReason then r.noMatchReason.getD "" else "no_candidates"]
  else []) ++
  if r.candidates ≠ [] && r.candidates.all fun c => !c.bookable then ["all_candidates_stale"]
  else []

/-- The bookable candidates, capped, and ranked densely from one. -/
def presentable (r : TutorMatchResult) : List TutorCandidate :=
  ((r.candidates.filter (·.bookable)).take MAX_OPTIONS).mapIdx fun i c => { c with rank := i + 1 }

end TutorMatchResult

end NxTutors.DemoAgent
