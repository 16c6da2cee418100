import Mathlib.Algebra.Order.BigOperators.Group.List
import NxTutors.Matching.Evaluators
import NxTutors.Numbers.Binary64
import NxTutors.Numbers.Calendar

/-!
# Reviews

A row of the reviews has five ratings and a date, all of them text. A row counts as soon as one of
its ratings can be read, but only the overall ones make up the average; which is mixed with a prior
that weighs as much as so many reviews, and is pulled towards the prior again as the latest review
grows old.

The rounding is given as a function, so that the same definitions say what is computed to a few
decimals, and what would be computed exactly.
-/

namespace NxTutors.Matching.Reviews

open Text MatchAgent
open Numbers (Numerals Written written natOf dayNumber)

/-! ## Rows -/

/-- `RawReview`. -/
structure RawReview where
  rating : Option String := none
  expertise : Option String := none
  patience : Option String := none
  reliability : Option String := none
  communication : Option String := none
  date : Option String := none
  deriving DecidableEq, Repr

def RATING_MIN : Rat := 0

def RATING_MAX : Rat := 5

section Reading

variable (t : Numerals)

/-- `\d+`. -/
def digits : Re := .seq (.one t.isDigit) (.many t.isDigit)

/-- `_NUMBER`. -/
def NUMBER : Re :=
  .group 0 (.seqs [.opt (.one (· = '-')), digits t, .opt (.seq (.one (· = '.')) (digits t))])

/-- `parse_rating`, of the number that is written. -/
def parseRating (raw : Option String) : Option Rat :=
  raw.bind fun text =>
    match (Re.search t.toTables (NUMBER t) text).bind (· 0) with
    | none => none
    | some found =>
      match written t (String.ofList found) with
      | some (.number value) => if RATING_MIN ≤ value ∧ value ≤ RATING_MAX then some value else none
      | _ => none

/-! ## Dates -/

/-- A digit out of a range of ASCII ones. -/
def digitIn (low high : Char) : Re := .one fun c => low ≤ c ∧ c ≤ high

/-- `%Y`, `%m`, `%d`, `%H`, `%M` and `%S`, as `strptime` has them, each in its group. -/
def YEAR : Re := .group 1 (.seqs (List.replicate 4 (.one t.isDigit)))

def MONTH : Re :=
  .group 2 (.alt (.seq (.word "1") (digitIn '0' '2')) (.alt (.seq (.word "0") (digitIn '1' '9'))
    (digitIn '1' '9')))

def DAY : Re :=
  .group 3 (.alt (.seq (.word "3") (digitIn '0' '1')) (.alt (.seq (digitIn '1' '2') (.one t.isDigit))
    (.alt (.seq (.word "0") (digitIn '1' '9')) (.alt (digitIn '1' '9')
      (.seq (.word " ") (digitIn '1' '9'))))))

def HOUR : Re :=
  .group 4 (.alt (.seq (.word "2") (digitIn '0' '3')) (.alt (.seq (digitIn '0' '1') (.one t.isDigit))
    (.one t.isDigit)))

def MINUTE : Re := .group 5 (.alt (.seq (digitIn '0' '5') (.one t.isDigit)) (.one t.isDigit))

def SECOND : Re :=
  .group 6 (.alt (.seq (.word "6") (digitIn '0' '1'))
    (.alt (.seq (digitIn '0' '5') (.one t.isDigit)) (.one t.isDigit)))

/-- The formats, in the order in which they are tried. White space of a format is any, but some. -/
def FORMATS : List Re :=
  [.seqs [YEAR t, .word "-", MONTH, .word "-", DAY t, .one t.isSpace, .many t.isSpace, HOUR t,
      .word ":", MINUTE t, .word ":", SECOND t],
    .seqs [YEAR t, .word "-", MONTH, .word "-", DAY t],
    .seqs [DAY t, .word "-", MONTH, .word "-", YEAR t],
    .seqs [DAY t, .word "/", MONTH, .word "/", YEAR t],
    .seqs [YEAR t, .word "/", MONTH, .word "/", DAY t]]

/-- `datetime.strptime(text, fmt)`, in UTC. None is raising. -/
def strptime (format : Re) (text : String) : Option Time := do
  let found ← format.run t.toTables some ⟨none, text.toList, fun _ => none⟩
  -- `unconverted data remains`
  if found.rest ≠ [] then none
  else
    let part (n : Nat) : Nat := natOf t (((found.groups n).getD []).filter t.isDigit)
    let day ← dayNumber (part 1) (part 2) (part 3)
    -- a minute of 61 seconds is read, but there is no such time
    if 60 ≤ part 6 then none
    else some (1000000 * (86400 * day + 3600 * part 4 + 60 * part 5 + part 6))

/-- `parse_review_date`. -/
def parseReviewDate (raw : Option String) : Option Time :=
  raw.bind fun text =>
    let text := strip t.toTables text
    if text = "" then none else (FORMATS t).findSome? fun format => strptime t format text

/-! ## What rows come to -/

/-- The ratings of a row. -/
def RawReview.ratings (review : RawReview) : List (Option Rat) :=
  [review.rating, review.expertise, review.patience, review.reliability, review.communication].map
    (parseRating t)

/-- A row counts if any of them can be read. -/
def RawReview.counts (review : RawReview) : Bool := (review.ratings t).any Option.isSome

/-- There is a usable overall rating. -/
def RawReview.rated (review : RawReview) : Bool := (parseRating t review.rating).isSome

/-- What has been collected on the way through the rows. The other buckets are read by nothing
here. -/
structure Collected where
  overall : List Rat := []
  reliability : List Rat := []
  latest : Option Time := none
  counted : Nat := 0

/-- The later of two dates. -/
def later (latest when' : Option Time) : Option Time :=
  match when', latest with
  | none, latest => latest
  | some when', none => some when'
  | some when', some latest => if latest < when' then some when' else some latest

/-- One row. -/
def Collected.add (c : Collected) (review : RawReview) : Collected :=
  if review.counts t then {
    overall := c.overall ++ (parseRating t review.rating).toList
    reliability := c.reliability ++ (parseRating t review.reliability).toList
    latest := later c.latest (parseReviewDate t review.date)
    counted := c.counted + 1 }
  else c

variable (round : Nat → Rat → Rat)

/-- `_mean`. -/
def mean (values : List Rat) : Option Rat :=
  if values = [] then none else some (round 2 (values.sum / values.length))

/-- `aggregate`. -/
def aggregate (reviews : List RawReview) : ReviewAggregate :=
  let collected := reviews.foldl (Collected.add t) {}
  { count := collected.counted
    ratingAvg := mean round collected.overall
    reliabilityAvg := mean round collected.reliability
    latestReviewAt := collected.latest }

end Reading

/-! ## What they are worth -/

section Worth

variable (round : Nat → Rat → Rat) (halved : Rat → Rat) (now : Time) (policy : ReviewPrior)

/-- `shrunk_rating`, with a rounding. -/
def shrunk (ratingAvg : Option Rat) (count : Nat) : Option Rat :=
  if count = 0 then none
  else ratingAvg.map fun rating =>
    round 3 ((count * rating + policy.priorWeight * policy.priorMean) / (count + policy.priorWeight))

/-- `recency_factor`, with a rounding. -/
def recency (latest : Option Time) : Rat :=
  match latest with
  | none => 1
  | some at' =>
    if policy.recencyHalfLifeDays ≤ 0 then 1
    else
      let ageDays : Rat := max 0 ((now - at' : Int) / (86400 * 1000000))
      round 3 (max (1 / 4) (halved (ageDays / policy.recencyHalfLifeDays)))

/-- The rating component of the score, where the reviews are scored by their ratings. -/
def ratingComponent (reviews : ReviewAggregate) : Option Rat :=
  if reviews.count = 0 then none
  else if reviews.count < policy.minReviewsForRating then none
  else
    (shrunk round policy reviews.ratingAvg reviews.count).map fun shrunk =>
      let prior := clamp (policy.priorMean / 5) 0 1
      prior + (clamp (shrunk / 5) 0 1 - prior) * recency round halved now policy reviews.latestReviewAt

end Worth

/-- With the rounding of the source, they are what the evaluator computes with. -/
theorem shrunk_roundTo (policy : ReviewPrior) : shrunk roundTo policy = fun ratingAvg count =>
    shrunkRating ratingAvg count policy := rfl

theorem recency_roundTo (f : Floating) (now : Time) (policy : ReviewPrior) :
    recency roundTo f.halved now policy = fun latest =>
      recencyFactor f now latest policy.recencyHalfLifeDays := rfl

/-- **The component is what the score is built of**, with the reliability beside it. -/
theorem performance_of_component {f : Floating} {now : Time} {tutor : TutorCandidate}
    {c : EvaluationContext} {component : Rat}
    (h : ratingComponent roundTo f.halved now c.policy.reviews tutor.reviews = some component) :
    (performance f now tutor c).score = roundTo 4 (clamp
      (match tutor.reviews.reliabilityAvg with
        | none => component
        | some reliability => 75 / 100 * component + 25 / 100 * clamp (reliability / 5) 0 1) 0 1) := by
  unfold ratingComponent at h
  split at h
  · cases h
  · rename_i hzero
    split at h
    · cases h
    · rename_i hmin
      rw [shrunk_roundTo, recency_roundTo, Option.map_eq_some_iff] at h
      obtain ⟨s, hs, rfl⟩ := h
      unfold performance
      have hs' : shrunkRating tutor.reviews.ratingAvg tutor.reviews.count c.policy.reviews = some s :=
        hs
      rw [if_neg hzero, if_neg hmin, hs']
      rfl

end NxTutors.Matching.Reviews
