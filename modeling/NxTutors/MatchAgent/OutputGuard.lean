import NxTutors.MatchAgent.Contracts
import NxTutors.Text.Regex

/-!
# The last gate

Every generated message is validated as a whole before it goes out, and one that fails is replaced,
never edited. So what goes out is the message or the fallback (`enforce_fst`), and what a message
may say is a property of its text and of the decision it was made from.
-/

namespace NxTutors.MatchAgent

namespace OutputGuard

open Text

def MAX_MESSAGE_CHARS : Nat := 1400
def MIN_MESSAGE_CHARS : Nat := 8

/-- An internal failure that escaped into the reply. -/
def LEAK_MARKERS : List String :=
  ["traceback (most recent call last)", "sqlalchemy", "asyncpg", "psycopg", "integrityerror",
    "operationalerror", "relation \"", "syntax error at or near", "none type object", "nonetype",
    "<class '", "object at 0x", "internal server error", "stacktrace"]

/-- A prompt, or scaffolding. -/
def PROMPT_MARKERS : List String :=
  ["<<<untrusted_data", "untrusted_data>>>", "system prompt", "you are an assistant", "as an ai",
    "[removed-directive]", "json schema", "additionalproperties"]

/-- How tutors are scored. -/
def INTERNAL_MARKERS : List String :=
  ["replacement risk", "risk score", "weight coverage", "confidence score", "policy_id",
    "policy checksum", "data_quality", "hard filter", "pseudonym", "cand_", "internal score"]

def FORBIDDEN_CLAIM_MARKERS : List String :=
  ["guarantee", "guaranteed", "assured", "100%", "sure shot", "definitely score",
    "rank improvement", "admission guaranteed"]

def UNSUPPORTED_SUPERLATIVES : List String :=
  ["best tutor in", "top tutor in", "number one tutor", "the best teacher", "most qualified in"]

inductive Violation
  | tooLong | tooShort | controlCharacters | unknownTutor | nonCanonicalLink | piiLeak
  | internalLeak | promptLeak | errorLeak | unsupportedGuarantee | unsupportedSuperlative
  | unauthorisedFee
  deriving DecidableEq, Repr

def SAFE_FALLBACK : String :=
  "Let me get one of our coordinators to look at this and come back to you " ++
    "with the right tutor options."

/-- What the guard is told of the deployment. -/
structure Rules where
  t : Tables
  /-- the kinds of personal data in a text, a link among them -/
  foundPiiKinds : String → List String
  publicBaseUrl : String

/-- `https?://[^\s<>\"')]+`. -/
def url (t : Tables) : Re :=
  let linked : Char → Bool := fun c => !t.isSpace c && !"<>\"')".toList.contains c
  .seqs [.wordIgnoreCase "http", .opt (.ignoreCase 's'), .word "://", .one linked, .many linked]

/-- `[\x00-\x08\x0b\x0c\x0e-\x1f\x7f]`. -/
def isControl (c : Char) : Bool :=
  (c.toNat ≤ 0x1f && c ≠ '\t' && c ≠ '\n' && c ≠ '\r') || c.toNat = 0x7f

/-- `(?:₹|rs\.?\s*|inr\s*)\s*([\d,]+)`. -/
def feeAmount (t : Tables) : Re :=
  let figure : Char → Bool := fun c => t.isDigit c || c = ','
  .seqs [.alt (.word "₹") (.alt
      (.seqs [.wordIgnoreCase "rs", .opt (.word "."), .many t.isSpace])
      (.seqs [.wordIgnoreCase "inr", .many t.isSpace])),
    .many t.isSpace, .group 1 (.seq (.one figure) (.many figure))]

/-- `url.rstrip(".,;:)")`. -/
def clean (found : List Char) : String :=
  String.ofList (found.reverse.dropWhile ['.', ',', ';', ':', ')'].contains).reverse

/-- The links in a text. -/
def links (t : Tables) (message : String) : List String :=
  ((url t).findall t message).map fun found => clean found.1

/-- The amounts in a text, without their commas. -/
def amounts (t : Tables) (message : String) : List String :=
  ((feeAmount t).findall t message).map fun found =>
    String.ofList (((found.2 1).getD []).filter (· ≠ ','))

/-- The amounts that nothing authorises. -/
def unauthorisedFees (t : Tables) (message : String) (decision : Option MatchDecision)
    (authorisedFees : List String) : List String :=
  let shortlist := (decision.map (·.shortlist)).getD []
  let authorised := (shortlist.filterMap (·.feeLabel) ++ authorisedFees).flatMap (amounts t)
  (amounts t message).filter fun a => a ∉ authorised

/-- `public_base_url.rstrip('/')` and a slash. -/
def Rules.linkPrefix (g : Rules) : String :=
  String.ofList (g.publicBaseUrl.toList.reverse.dropWhile (· = '/')).reverse ++ "/"

/-- Why a link may not be shown. -/
def linkViolations (g : Rules) (decision : Option MatchDecision) (link : String) :
    List Violation :=
  if !g.linkPrefix.toList.isPrefixOf link.toList then [.nonCanonicalLink]
  else
    match decision with
    | none => []
    | some d => if link ∈ d.shortlist.map (·.profileUrl) then [] else [.unknownTutor]

/-- An id of a tutor is in the message, and is no name that is. -/
def namesCandidate (t : Tables) (d : MatchDecision) (message : String) : Bool :=
  let shortlisted := (d.shortlist.map fun e => t.lower (strip t e.name)).filter (· ≠ "")
  d.candidateIds.any fun id =>
    id ≠ "" && contains (t.lower message) (t.lower id) && t.lower id ∉ shortlisted

/-- A violation, if it is one. -/
def flagged (violation : Violation) (found : Bool) : List Violation :=
  if found then [violation] else []

/-- What is wrong with a finished message, in the order in which it is looked for. -/
def findings (g : Rules) (message : String) (decision : Option MatchDecision)
    (authorisedFees : List String) : List Violation :=
  let lowered := g.t.lower message
  -- structural
  flagged .tooLong (MAX_MESSAGE_CHARS < message.length) ++
  flagged .tooShort ((strip g.t message).length < MIN_MESSAGE_CHARS) ++
  flagged .controlCharacters (message.toList.any isControl) ++
  -- leakage
  flagged .piiLeak ((g.foundPiiKinds message).any (· ≠ "url")) ++
  flagged .errorLeak (containsAny lowered LEAK_MARKERS) ++
  flagged .promptLeak (containsAny lowered PROMPT_MARKERS) ++
  flagged .internalLeak (containsAny lowered INTERNAL_MARKERS) ++
  -- claims
  flagged .unsupportedGuarantee (containsAny lowered FORBIDDEN_CLAIM_MARKERS) ++
  flagged .unsupportedSuperlative (containsAny lowered UNSUPPORTED_SUPERLATIVES) ++
  -- links, tutors and fees
  (links g.t message).flatMap (linkViolations g decision) ++
  flagged .internalLeak (decision.any fun d => namesCandidate g.t d message) ++
  flagged .unauthorisedFee (unauthorisedFees g.t message decision authorisedFees ≠ [])

/-- `tuple(dict.fromkeys(violations))`. -/
def validate (g : Rules) (message : String) (decision : Option MatchDecision)
    (authorisedFees : List String) : List Violation :=
  (findings g message decision authorisedFees).eraseDups

/-- The message, or the fallback on any violation; and what was wrong. -/
def enforce (g : Rules) (message : String) (decision : Option MatchDecision)
    (authorisedFees : List String) : String × List Violation :=
  let violations := validate g message decision authorisedFees
  if violations = [] then (message, violations) else (SAFE_FALLBACK, violations)

variable {g : Rules} {message : String} {decision : Option MatchDecision} {fees : List String}

/-- **The message or the fallback**, and nothing in between. -/
theorem enforce_fst :
    (enforce g message decision fees).1 =
      if validate g message decision fees = [] then message else SAFE_FALLBACK := by
  unfold enforce
  dsimp only
  split <;> rfl

/-- What passes has no finding. -/
theorem not_mem_of_valid (h : validate g message decision fees = []) (v : Violation) :
    v ∉ findings g message decision fees := by
  intro hv
  have hmem : v ∈ validate g message decision fees := List.mem_eraseDups.mpr hv
  rw [h] at hmem
  exact absurd hmem List.not_mem_nil

/-- What passes is not blank: it has eight characters besides the white space around it. -/
theorem long_of_valid (h : validate g message decision fees = []) :
    MIN_MESSAGE_CHARS ≤ (strip g.t message).length := by
  by_contra hshort
  have hflag : Violation.tooShort ∈
      flagged .tooShort (decide ((strip g.t message).length < MIN_MESSAGE_CHARS)) := by
    rw [flagged, if_pos (decide_eq_true (Nat.lt_of_not_le hshort))]
    exact List.mem_singleton.mpr rfl
  refine not_mem_of_valid h .tooShort ?_
  simp only [findings, List.mem_append, hflag, true_or, or_true]

/-- What passes can be read on a phone. -/
theorem short_of_valid (h : validate g message decision fees = []) :
    message.length ≤ MAX_MESSAGE_CHARS := by
  by_contra hlong
  refine not_mem_of_valid h .tooLong ?_
  simp [findings, flagged, Nat.lt_of_not_le hlong]

end OutputGuard

end NxTutors.MatchAgent
