import NxTutors.Website.Contracts

/-!
# The tutor feed

A page of the feed is fetched, checked against the schema, and made into tutors, record by record.
Where the fetch fails or the schema refuses the page, the feed is said to be unavailable. Where a
record that the schema accepts cannot be made into a tutor, something else is raised.
-/

namespace NxTutors.Website

open Text Scheduling
open MatchAgent (Time TuitionMode)
open Matching (FeePlatform TutorCapabilities normalizeSubject normalizeBoard normalizeClass
  normalizeKey parseTutorFee parseExperienceYears roundTo)

/-- What a page is read with. -/
structure FeedPlatform extends FeePlatform where
  /-- `str.isdigit`, which knows more digits than `\d` -/
  isDigitOf : Char → Bool

/-! ## Public references -/

/-- `encode_public_ref`. -/
def encodePublicRef (userId : String) : Except Raised String :=
  if userId = "" then .error (.valueError "user_id is required to build a public ref")
  else .ok (String.ofList (urlSafe (userId ++ "-nxt").toUTF8.data.toList))

/-! ## Modes -/

def ONLINE_TERMS : List String :=
  ["online", "remote", "virtual", "zoom", "video", "skype", "digital"]

def HOME_TERMS : List String :=
  ["home", "offline", "inperson", "person", "academic", "doorstep", "athome", "ghar"]

def BOTH_TERMS : List String := ["both", "hybrid", "any", "either", "flexible"]

section Records

variable (p : FeedPlatform)

/-- The modes of one text. -/
def parseModeTokens (raw : String) : List TuitionMode :=
  if raw = "" then []
  else
    let key := normalizeKey p.toPlatform raw
    if containsAny key BOTH_TERMS then [.online, .home]
    else
      (if containsAny key ONLINE_TERMS then [.online] else []) ++
        if containsAny key HOME_TERMS then [.home] else []

/-- The modes of all texts, each once. -/
def unionModes (rawValues : List String) : List TuitionMode :=
  (rawValues.flatMap (parseModeTokens p)).eraseDups

/-! ## Records -/

/-- `clean(value)`. -/
def cleaned {n : Nat} (value : Option (AtMost n)) : String :=
  clean p.toTables (value.map Subtype.val)

/-- `clean(value) or None`. -/
def cleanedOrNone {n : Nat} (value : Option (AtMost n)) : Option String :=
  if cleaned p value = "" then none else some (cleaned p value)

/-- `_gender`. -/
def gender (value : Option (AtMost 20)) : Option String :=
  let text := p.lower (cleaned p value)
  if text = "male" then some "Male" else if text = "female" then some "Female" else none

/-- `_pincode`. -/
def pincode (value : Option (AtMost 20)) : Option String :=
  let digits := String.ofList (((value.map Subtype.val).getD "").toList.filter p.isDigitOf)
  if digits.length = 6 then some digits else none

/-- `_round`. -/
def round (value : Option Rating) : Option Rat := value.map fun x => roundTo 2 x

/-- `_reviews`. -/
def reviews (row : FeedReviews) : Except Raised ReviewAggregate :=
  ReviewAggregate.make {
    count := row.count
    ratingAvg := round row.ratingAvg
    expertiseAvg := round row.expertiseAvg
    patienceAvg := round row.patienceAvg
    reliabilityAvg := round row.reliabilityAvg
    communicationAvg := round row.communicationAvg
    latestReviewAt := row.latestReviewAt }

/-- `time.fromisoformat`, of an hour and a minute. It knows ASCII digits only. -/
def fromIsoformat (text : String) : Except Raised ClockTime :=
  match text.toList with
  | [a, b, ':', c, d] =>
    let hour := 10 * (a.toNat - '0'.toNat) + (b.toNat - '0'.toNat)
    let minute := 10 * (c.toNat - '0'.toNat) + (d.toNat - '0'.toNat)
    if [a, b, c, d].all Char.isDigit ∧ hour < 24 ∧ minute < 60 then .ok (.ofParts hour minute)
    else .error (.valueError ("Invalid isoformat string: '" ++ text ++ "'"))
  | _ => .error (.valueError ("Invalid isoformat string: '" ++ text ++ "'"))

def DAY_NAMES : List String := ["Mon", "Tue", "Wed", "Thu", "Fri", "Sat", "Sun"]

/-- `TimeWindow(...)`. -/
def timeWindow (weekday : Weekday) (start finish : ClockTime) : Except Raised TimeWindow :=
  match TimeWindow.make? weekday start finish with
  | some window => .ok window
  | none => .error (.validationError "TimeWindow"
      ["window end must be after start: " ++ DAY_NAMES.getD weekday "" ++ " " ++
        Sync.isoformat start ++ "-" ++ Sync.isoformat finish])

/-- A window of the feed. -/
def FeedWindow.read {t : Tables} (window : FeedWindow t) : Except Raised TimeWindow := do
  let start ← fromIsoformat window.start.val
  let finish ← fromIsoformat window.finish.val
  timeWindow window.weekday start finish

/-- `_availability`. -/
def availability {t : Tables} (row : Option (FeedAvailability t)) :
    Except Raised (Option WeeklySchedule) :=
  match row with
  | none => .ok none
  | some row =>
    if row.windows.val = [] then .ok none
    else do
      let windows ← row.windows.val.mapM FeedWindow.read
      return some (.make row.timezone.val windows)

/-- `parse_tutor_fee`. -/
def tutorFee (budget : String) : Except Raised Matching.FeeBand :=
  match parseTutorFee p.toFeePlatform budget with
  | some fee => .ok fee
  | none => .error (.validationError "FeeBand" [])

/-- `tuple(dict.fromkeys(c for x in xs if (c := normalize(clean(x)))))[:n]`. -/
def normalized (normalize : Option String → Option String) (xs : List String) (n : Nat) :
    List String :=
  ((xs.filterMap fun x => (normalize (some (clean p.toTables (some x)))).filter (· ≠ ""))
    ).eraseDups.take n

/-- What a tutor is made with, out of a record. -/
def tutorFields (record : FeedTutor p.toTables) (stamp : Time) (publicRef : String)
    (fee : Matching.FeeBand) (reviews : ReviewAggregate) (availability : Option WeeklySchedule) :
    TutorFields where
  tutorId := record.userId.val
  publicRef := publicRef
  name := (cleanedOrNone p record.name).getD "Tutor"
  gender := gender p record.gender
  avatarUrl := cleanedOrNone p record.avatar
  city := cleanedOrNone p record.city
  locality := cleanedOrNone p record.locality
  district := cleanedOrNone p record.district
  state := cleanedOrNone p record.state
  pincode := pincode p record.pincode
  capabilities := {
    subjects := normalized p (normalizeSubject p.toPlatform) record.subjects.val 12
    boards := normalized p (normalizeBoard p.toPlatform) record.boards.val 8
    classes := normalized p (normalizeClass p.toPlatform) record.classes.val 16
    modes := unionModes p record.modes.val }
  experienceYears := parseExperienceYears p.toPlatform (cleaned p record.experience)
  education := (some (Text.take (cleaned p record.education) 400)).filter (· ≠ "")
  profileSummary := (some (Text.take (cleaned p record.profileSummary) 1200)).filter (· ≠ "")
  fee := fee
  reviews := reviews
  availability := availability
  sourceUpdatedAt := record.updatedAt.getD stamp
  syncedAt := stamp

/-- `_to_candidate`. -/
def toCandidate (record : FeedTutor p.toTables) (stamp : Time) : Except Raised TutorCandidate := do
  let publicRef ← encodePublicRef record.userId.val
  let fee ← tutorFee p (cleaned p record.budget)
  let reviews ← reviews record.reviews
  let availability ← availability record.availability
  TutorCandidate.make (tutorFields p record stamp publicRef fee reviews availability)

/-! ## Pages -/

/-- What comes back from the website. -/
inductive Response (t : Tables)
  /-- no answer, or none that can be read -/
  | unavailable (reason : String)
  /-- the schema refuses it, with so many errors -/
  | malformed (errors : Nat)
  | page (page : FeedPage t)

/-- What `fetch_page` raises. -/
inductive FetchError
  | feedUnavailable (reason : String)
  | other (raised : Raised)
  deriving DecidableEq, Repr

structure SyncPage where
  tutors : List TutorCandidate
  hasMore : Bool

/-- `fetch_page`. -/
def fetchPage (response : Response p.toTables) (stamp : Time) : Except FetchError SyncPage :=
  match response with
  | .unavailable reason => .error (.feedUnavailable reason)
  | .malformed errors =>
    .error (.feedUnavailable ("malformed feed page: " ++ toString errors ++ " errors"))
  | .page page =>
    match page.tutors.val.mapM (toCandidate p · stamp) with
    | .ok tutors => .ok ⟨tutors, page.hasMore && tutors.length ≠ 0⟩
    | .error raised => .error (.other raised)

end Records

end NxTutors.Website
