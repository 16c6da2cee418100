import NxTutors.Matching.Fees
import NxTutors.Matching.Scores
import NxTutors.Sync.Projection
import NxTutors.Text.Base64

/-!
# Two contracts

The feed of the website has a schema, and a record that it refuses is refused with its page. What is
made of a record is a tutor, and tutors have a contract of their own, whose bounds are not those of
the schema. Both are types here whose values are what is accepted. Ratings are rational numbers.
-/

namespace NxTutors.Website

open Text Scheduling
open MatchAgent (Time TuitionMode)
open Matching (FeeBand FeePlatform TutorCapabilities)

/-! ## The schema of the feed -/

/-- A text of at most so many characters. -/
abbrev AtMost (n : Nat) := { s : String // s.length ≤ n }

/-- An average of ratings. -/
abbrev Rating := { x : Rat // 0 ≤ x ∧ x ≤ 5 }

structure FeedReviews where
  count : Fin 100001 := 0
  ratingAvg : Option Rating := none
  expertiseAvg : Option Rating := none
  patienceAvg : Option Rating := none
  reliabilityAvg : Option Rating := none
  communicationAvg : Option Rating := none
  latestReviewAt : Option Time := none

/-- `^([01]\d|2[0-3]):[0-5]\d$`. -/
def clockPattern (t : Tables) (s : String) : Bool :=
  match s.toList with
  | [a, b, ':', c, d] =>
    (((a = '0' || a = '1') && t.isDigit b) || (a = '2' && '0' ≤ b && b ≤ '3')) &&
      ('0' ≤ c && c ≤ '5') && t.isDigit d
  | _ => false

/-- One availability window, as the website publishes it. The source has `end` for `finish`. -/
structure FeedWindow (t : Tables) where
  weekday : Weekday
  start : { s : String // clockPattern t s = true }
  finish : { s : String // clockPattern t s = true }

structure FeedAvailability (t : Tables) where
  timezone : AtMost 48 := ⟨"Asia/Kolkata", by decide⟩
  windows : { ws : List (FeedWindow t) // ws.length ≤ 64 }

/-- One record as the website publishes it. -/
structure FeedTutor (t : Tables) where
  userId : { s : String // 1 ≤ s.length ∧ s.length ≤ 64 }
  name : Option (AtMost 200) := none
  gender : Option (AtMost 20) := none
  avatar : Option (AtMost 500) := none
  city : Option (AtMost 120) := none
  locality : Option (AtMost 120) := none
  district : Option (AtMost 120) := none
  state : Option (AtMost 120) := none
  pincode : Option (AtMost 20) := none
  experience : Option (AtMost 120) := none
  education : Option (AtMost 600) := none
  profileSummary : Option (AtMost 4000) := none
  budget : Option (AtMost 120) := none
  subjects : { xs : List String // xs.length ≤ 64 } := ⟨[], by decide⟩
  boards : { xs : List String // xs.length ≤ 32 } := ⟨[], by decide⟩
  classes : { xs : List String // xs.length ≤ 64 } := ⟨[], by decide⟩
  modes : { xs : List String // xs.length ≤ 8 } := ⟨[], by decide⟩
  reviews : FeedReviews := {}
  availability : Option (FeedAvailability t) := none
  updatedAt : Option Time := none

def MAX_PAGE_RECORDS : Nat := 500

structure FeedPage (t : Tables) where
  tutors : { records : List (FeedTutor t) // records.length ≤ MAX_PAGE_RECORDS }
  hasMore : Bool := false

/-! ## The contract of a tutor -/

/-- What is raised. -/
inductive Raised
  | valueError (message : String)
  /-- with the fields that are refused, or the message of a validator of the whole -/
  | validationError (model : String) (details : List String)
  deriving DecidableEq, Repr

/-- The names of the checks that fail. -/
def failing (checks : List (String × Bool)) : List String := (checks.filter (!·.2)).map Prod.fst

theorem failing_eq_nil_iff {checks : List (String × Bool)} :
    failing checks = [] ↔ ∀ check ∈ checks, check.2 = true := by
  rw [failing, List.map_eq_nil_iff, List.filter_eq_nil_iff]
  simp

/-- What reviews are made with. -/
structure ReviewFields where
  count : Nat
  ratingAvg : Option Rat
  expertiseAvg : Option Rat
  patienceAvg : Option Rat
  reliabilityAvg : Option Rat
  communicationAvg : Option Rat
  latestReviewAt : Option Time
  deriving DecidableEq, Repr

/-- `ge=0, le=5`, where there is one. -/
def rated (average : Option Rat) : Bool := average.all fun x => 0 ≤ x ∧ x ≤ 5

def ReviewFields.errors (r : ReviewFields) : List String :=
  failing [("rating_avg", rated r.ratingAvg), ("expertise_avg", rated r.expertiseAvg),
    ("patience_avg", rated r.patienceAvg), ("reliability_avg", rated r.reliabilityAvg),
    ("communication_avg", rated r.communicationAvg)]

structure ReviewAggregate extends ReviewFields where
  valid : toReviewFields.errors = []

/-- The reviews, unless they are refused. -/
def ReviewAggregate.make (r : ReviewFields) : Except Raised ReviewAggregate :=
  if h : r.errors = [] then .ok ⟨r, h⟩ else .error (.validationError "ReviewAggregate" r.errors)

/-- What a tutor is made with. -/
structure TutorFields where
  tutorId : String
  publicRef : String
  name : String
  gender : Option String
  avatarUrl : Option String
  city : Option String
  locality : Option String
  district : Option String
  state : Option String
  pincode : Option String
  capabilities : TutorCapabilities
  experienceYears : Option Nat
  education : Option String
  profileSummary : Option String
  fee : FeeBand
  reviews : ReviewAggregate
  availability : Option WeeklySchedule
  sourceUpdatedAt : Time
  syncedAt : Time

/-- `max_length`, where there is a text. -/
def atMost (n : Nat) (text : Option String) : Bool := text.all fun s => s.length ≤ n

/-- The bounds of the fields, in their order. -/
def TutorFields.checks (f : TutorFields) : List (String × Bool) :=
  [("tutor_id", atMost 128 (some f.tutorId)), ("public_ref", atMost 256 (some f.publicRef)),
    ("name", atMost 160 (some f.name)), ("gender", atMost 16 f.gender),
    ("avatar_url", atMost 512 f.avatarUrl), ("city", atMost 80 f.city),
    ("locality", atMost 120 f.locality), ("district", atMost 80 f.district),
    ("state", atMost 80 f.state), ("pincode", atMost 12 f.pincode),
    ("experience_years", f.experienceYears.all (· ≤ 70)), ("education", atMost 400 f.education),
    ("profile_summary", atMost 1200 f.profileSummary)]

/-- One active tutor. -/
structure TutorCandidate extends TutorFields where
  valid : failing toTutorFields.checks = []

/-- The tutor, unless it is refused. -/
def TutorCandidate.make (f : TutorFields) : Except Raised TutorCandidate :=
  if h : failing f.checks = [] then .ok ⟨f, h⟩
  else .error (.validationError "TutorCandidate" (failing f.checks))

end NxTutors.Website
