import NxTutors.Matching.Tutors
import NxTutors.Store.Table
import Mathlib.Algebra.Order.Ring.Unbundled.Rat
import Mathlib.Data.Prod.Lex
import Mathlib.Data.String.Basic

/-!
# The candidate pool

A requirement is turned into structured filters, and the repository returns the first few tutors
that pass them, those with the most reviews first. Filters are coarse, and a tutor about whom
something is not known passes them.
-/

namespace NxTutors.Matching

open Text MatchAgent Store

/-! ## Queries -/

/-- Structured filters. -/
structure CandidateQuery where
  limit : Nat
  subjects : List String := []
  boards : List String := []
  classNumber : Option Nat := none
  classLabels : List String := []
  cityAliases : List String := []
  pincode : Option String := none
  mode : Option TuitionMode := none
  gender : Option String := none
  maxFee : Option Nat := none
  minFreshness : List Freshness := [.fresh, .aging]
  publicRef : Option String := none
  nameTerms : List String := []
  deriving DecidableEq, Repr

variable (p : Platform)

/-- Each subject under its canonical name, with the parts of an umbrella. -/
def subjectTerms (subjects : List String) : List String :=
  (subjects.flatMap fun subject =>
    match normalizeSubject p (some subject) with
    | none => []
    | some canonical => if canonical = "" then [] else canonical :: partsOf p canonical).eraseDups

/-- `query_from_requirement`. -/
def queryFromRequirement (r : MatchRequirement) (limit : Nat) : CandidateQuery :=
  let classLabel := normalizeClass p r.classValue
  { limit
    subjects := if usableForHardFilter r.subject then subjectTerms p r.allSubjects else []
    classNumber := classNumber p classLabel
    classLabels := if present classLabel then [classLabel.getD ""] else []
    cityAliases :=
      if present r.location.city then cityAliases p (r.location.city.getD "") else []
    pincode := r.location.pincode
    mode := if usableForHardFilter r.mode then r.modeValue else none
    gender :=
      if usableForHardFilter r.tutorGenderPreference then
        (some (p.lower (r.genderValue.getD ""))).filter (· ≠ "")
      else none
    maxFee := r.budget.maximum
    publicRef := r.explicitTutorRef }

/-! ## The order of a pool -/

section Order

variable {R : Type} [LinearOrder R]

/-- More reviews first, then the better rating, then by id. -/
def RanksBefore (rating : ReviewAggregate → R) (t u : TutorCandidate) : Prop :=
  u.reviews.count < t.reviews.count ∨ t.reviews.count = u.reviews.count ∧
    (rating u.reviews < rating t.reviews ∨ rating t.reviews = rating u.reviews ∧
      t.tutorId ≤ u.tutorId)

instance (rating : ReviewAggregate → R) : DecidableRel (RanksBefore rating) := fun t u =>
  inferInstanceAs (Decidable (_ ∨ _))

/-- What is compared, part by part. -/
def rankKey (rating : ReviewAggregate → R) (t : TutorCandidate) : ℕᵒᵈ ×ₗ Rᵒᵈ ×ₗ String :=
  toLex (OrderDual.toDual t.reviews.count, toLex (OrderDual.toDual (rating t.reviews), t.tutorId))

theorem ranksBefore_iff {rating : ReviewAggregate → R} {t u : TutorCandidate} :
    RanksBefore rating t u ↔ rankKey rating t ≤ rankKey rating u := by
  rw [rankKey, rankKey, Prod.Lex.toLex_le_toLex, Prod.Lex.toLex_le_toLex]
  simp only [OrderDual.toDual_lt_toDual, EmbeddingLike.apply_eq_iff_eq]
  rfl

instance (rating : ReviewAggregate → R) : Std.Total (RanksBefore rating) where
  total t u := by
    rw [ranksBefore_iff, ranksBefore_iff]
    exact le_total _ _

instance (rating : ReviewAggregate → R) : IsTrans TutorCandidate (RanksBefore rating) where
  trans t u v := by
    rw [ranksBefore_iff, ranksBefore_iff, ranksBefore_iff]
    exact le_trans

/-- Two tutors that rank the same have one id. -/
theorem tutorId_eq_of_ranksBefore {rating : ReviewAggregate → R} {t u : TutorCandidate}
    (h : RanksBefore rating t u) (h' : RanksBefore rating u t) : t.tutorId = u.tutorId := by
  rw [ranksBefore_iff] at h h'
  have hkey : rankKey rating t = rankKey rating u := le_antisymm h h'
  exact congrArg (fun key => (ofLex (ofLex key).2).2) hkey

end Order

/-! ## The repository in memory -/

/-- Tutors by id. -/
abbrev TutorTable := Table TutorCandidate.tutorId

/-- `any(matches_any(want, taught) for want in wanted)`, or the tutor has not said. -/
def teachesSome (wanted taught : List String) : Bool :=
  wanted = [] || taught = [] || wanted.any fun want => matchesAny p want taught

/-- The first label is covered, or the tutor has not said. -/
def coversLabel (labels taught : List String) : Bool :=
  match labels with
  | [] => true
  | label :: _ => taught = [] || teachesClass p (some label) taught

/-- The floor of a fee is at most twice the ceiling, or one of them is not known. -/
def floorWithin : Option Nat → Option Nat → Bool
  | some ceiling, some floor => floor ≤ ceiling * 2
  | _, _ => true

/-- `InMemoryTutorRepository._matches`. -/
def matchesQuery (t : TutorCandidate) (q : CandidateQuery) : Bool :=
  t.freshness ∈ q.minFreshness &&
  teachesSome p q.subjects t.capabilities.subjects &&
  coversLabel p q.classLabels t.capabilities.classes &&
  -- the same pincode stands in for the same city
  (q.cityAliases = [] || !present t.city || p.lower (t.city.getD "") ∈ q.cityAliases ||
    (present q.pincode && t.pincode = q.pincode)) &&
  q.mode.all (t.supportsMode ·) &&
  (!present q.gender || !present t.gender || p.lower (t.gender.getD "") = q.gender.getD "") &&
  floorWithin q.maxFee t.fee.minimum

/-- `t.reviews.rating_avg or 0.0`. -/
def ratingOrZero (reviews : ReviewAggregate) : Rat := reviews.ratingAvg.getD 0

def getByPublicRef (table : TutorTable) (ref : String) : Option TutorCandidate :=
  table.rows.find? (·.publicRef = ref)

/-- `InMemoryTutorRepository.search`. -/
def search (table : TutorTable) (q : CandidateQuery) : List TutorCandidate :=
  if present q.publicRef then (getByPublicRef table (q.publicRef.getD "")).toList
  else
    ((table.rows.filter (matchesQuery p · q)).insertionSort (RanksBefore ratingOrZero)).take q.limit

end NxTutors.Matching
