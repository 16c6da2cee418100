import NxTutors.Matching.Retrieval
import NxTutors.Store.Ranking
import Mathlib.Order.WithBot

/-!
# The repository in PostgreSQL

The same filters once more, some as conditions of a query and some in Python on what the query
returned. A condition on a column that is `NULL` does not hold, and the query returns at most twice
as many rows as are wanted before the rest is filtered.
-/

namespace NxTutors.Matching

open Text MatchAgent Store

/-- How old a row may be, as the validator of the settings has it. -/
structure FreshnessWindow where
  freshHours : Nat
  agingHours : Nat
  fresh_lt_aging : freshHours < agingHours

def HOUR : Time := 3600 * 1000000

/-- The age of a row of the projection. -/
def freshnessFor (w : FreshnessWindow) (syncedAt : Option Time) (now : Time) : Freshness :=
  match syncedAt with
  | none => .unknown
  | some synced =>
    if now - synced ≤ w.freshHours * HOUR then .fresh
    else if now - synced ≤ w.agingHours * HOUR then .aging
    else .stale

variable (p : Platform) (w : FreshnessWindow) (now : Time)

/-- `_to_candidate`: the row, with its age. -/
def toCandidate (t : TutorCandidate) : TutorCandidate :=
  { t with freshness := freshnessFor w t.syncedAt now }

/-- The conditions of the query. -/
def conditions (t : TutorCandidate) (q : CandidateQuery) : List Truth :=
  if present q.publicRef then [compared (some t.publicRef) (some · = q.publicRef)]
  else
    [compared t.syncedAt (now - w.agingHours * HOUR ≤ ·)] ++
    (if q.cityAliases ≠ [] ∨ present q.pincode then
      [Truth.any
        ((if q.cityAliases ≠ [] then [compared t.city (p.lower · ∈ q.cityAliases)] else []) ++
          if present q.pincode then [compared t.pincode (some · = q.pincode)] else [])]
      else []) ++
    ((q.nameTerms.take 4).map fun term =>
      compared (some t.name) fun name => Text.contains (p.lower name) term) ++
    (if present q.gender then [compared t.gender (fun gender => some (p.lower gender) = q.gender)] else []) ++
    match q.maxFee with
    | none => []
    | some ceiling => [(isNull t.fee.minimum).or (compared t.fee.minimum (· ≤ ceiling * 2))]

/-- A row of the query. -/
def selected (t : TutorCandidate) (q : CandidateQuery) : Bool :=
  (Truth.all (conditions p w now t q)).holds

/-- `rating_avg DESC NULLS LAST`. -/
def ratingNullsLast (reviews : ReviewAggregate) : WithBot Rat :=
  match reviews.ratingAvg with
  | none => ⊥
  | some rating => rating

theorem ratingNullsLast_of_none {reviews : ReviewAggregate} (h : reviews.ratingAvg = none) :
    ratingNullsLast reviews = ⊥ := by
  rw [ratingNullsLast, h]

theorem ratingNullsLast_of_some {reviews : ReviewAggregate} {x : Rat}
    (h : reviews.ratingAvg = some x) : ratingNullsLast reviews = x := by
  rw [ratingNullsLast, h]

/-- What is filtered in Python. -/
def filteredLater (t : TutorCandidate) (q : CandidateQuery) : Bool :=
  teachesSome p q.subjects t.capabilities.subjects &&
  coversLabel p q.classLabels t.capabilities.classes &&
  q.mode.all (t.supportsMode ·)

/-- `PostgresTutorRepository.search`. -/
def pgSearch (table : TutorTable) (q : CandidateQuery) : List TutorCandidate :=
  let rows := ((table.rows.filter (selected p w now · q)).insertionSort
    (RanksBefore ratingNullsLast)).take (if present q.publicRef then 1 else q.limit * 2)
  ((rows.map (toCandidate w now)).filter (filteredLater p · q)).take q.limit

/-! ## The rows with their age -/

/-- The table, with the age of every row. -/
def classified (table : TutorTable) : TutorTable := table.map (toCandidate w now) fun _ => rfl

variable {p w now} {table : TutorTable} {q : CandidateQuery} {t u : TutorCandidate}

theorem ranksBefore_toCandidate {R : Type} [LinearOrder R] {rating : ReviewAggregate → R} :
    RanksBefore rating (toCandidate w now t) (toCandidate w now u) ↔ RanksBefore rating t u :=
  Iff.rfl

/-- It makes no difference when the age is put in. -/
theorem pgSearch_eq :
    pgSearch p w now table q =
      ((((((classified w now table).rows.filter (selected p w now · q)).insertionSort
        (RanksBefore ratingNullsLast)).take (if present q.publicRef then 1 else q.limit * 2)).filter
          (filteredLater p · q)).take q.limit) := by
  have hrows : ((table.rows.filter (selected p w now · q)).insertionSort
        (RanksBefore ratingNullsLast)).map (toCandidate w now)
      = ((classified w now table).rows.filter (selected p w now · q)).insertionSort
        (RanksBefore ratingNullsLast) := by
    rw [List.map_insertionSort (RanksBefore ratingNullsLast) (RanksBefore ratingNullsLast)
      (toCandidate w now) _ fun _ _ _ _ => ranksBefore_toCandidate.symm]
    have hclassified : (classified w now table).rows = table.rows.map (toCandidate w now) := rfl
    rw [hclassified, List.filter_map]
    rfl
  rw [← hrows, ← List.map_take]
  rfl

/-- Two rows that rank the same are one row. -/
theorem eq_of_ranksBefore {R : Type} [LinearOrder R] {rating : ReviewAggregate → R}
    {rows : List TutorCandidate} (hrows : rows.Sublist table.rows) :
    ∀ a ∈ rows, ∀ b ∈ rows, RanksBefore rating a b → RanksBefore rating b a → a = b :=
  fun _ ha _ hb h h' => table.eq_of_key (hrows.mem ha) (hrows.mem hb) (tutorId_eq_of_ranksBefore h h')

/-! ## Condition by condition -/

/-- The row has been written lately enough. -/
def recent (w : FreshnessWindow) (now : Time) (t : TutorCandidate) : Bool :=
  t.syncedAt.any (now - w.agingHours * HOUR ≤ ·)

/-- The place is known to be one that is asked for. -/
def placeKnown (p : Platform) (q : CandidateQuery) (t : TutorCandidate) : Bool :=
  (q.cityAliases = [] && !present q.pincode) ||
    (q.cityAliases ≠ [] && t.city.any (p.lower · ∈ q.cityAliases)) ||
    (present q.pincode && t.pincode = q.pincode)

/-- The gender is known to be the one that is asked for. -/
def genderKnown (p : Platform) (q : CandidateQuery) (t : TutorCandidate) : Bool :=
  !present q.gender || t.gender.any (fun gender => some (p.lower gender) = q.gender)

/-- The name has every term. -/
def named (p : Platform) (q : CandidateQuery) (t : TutorCandidate) : Bool :=
  (q.nameTerms.take 4).all fun term => Text.contains (p.lower t.name) term

/-- **What the query returns**, said without `NULL`. -/
theorem selected_eq (h : present q.publicRef = false) :
    selected p w now t q = (recent w now t && placeKnown p q t && named p q t && genderKnown p q t &&
      floorWithin q.maxFee t.fee.minimum) := by
  have hplace : (if q.cityAliases ≠ [] ∨ present q.pincode then
      [Truth.any
        ((if q.cityAliases ≠ [] then [compared t.city (p.lower · ∈ q.cityAliases)] else []) ++
          if present q.pincode then [compared t.pincode (some · = q.pincode)] else [])]
      else []).all Truth.holds = placeKnown p q t := by
    have hpin (hp : present q.pincode = true) :
        t.pincode.any (fun pin => decide (some pin = q.pincode)) = decide (t.pincode = q.pincode) := by
      cases ht : t.pincode with
      | none =>
        cases hq : q.pincode with
        | none =>
          rw [hq] at hp
          cases hp
        | some pin => rfl
      | some pin => rfl
    by_cases ha : q.cityAliases = []
    · cases hp : present q.pincode with
      | false => simp [ha, hp, placeKnown]
      | true => simp [ha, hp, placeKnown, Truth.holds_any, holds_compared, hpin hp]
    · cases hp : present q.pincode with
      | false => simp [ha, hp, placeKnown, Truth.holds_any, holds_compared]
      | true => simp [ha, hp, placeKnown, Truth.holds_any, holds_compared, hpin hp]
  have hname : ((q.nameTerms.take 4).map fun term =>
      compared (some t.name) fun name => Text.contains (p.lower name) term).all Truth.holds
      = named p q t := by
    rw [List.all_map, named]
    refine congrArg (List.all _) (funext fun term => ?_)
    exact holds_compared _ _
  have hgender : (if present q.gender then
      [compared t.gender fun gender => some (p.lower gender) = q.gender] else []).all Truth.holds
      = genderKnown p q t := by
    cases hg : present q.gender with
    | false => simp [hg, genderKnown]
    | true => simp [hg, genderKnown, holds_compared]
  have hfee : (match q.maxFee with
      | none => []
      | some ceiling => [(isNull t.fee.minimum).or (compared t.fee.minimum (· ≤ ceiling * 2))]).all
        Truth.holds = floorWithin q.maxFee t.fee.minimum := by
    cases q.maxFee with
    | none => rfl
    | some ceiling =>
      cases t.fee.minimum with
      | none => simp [floorWithin, Truth.holds_or, holds_isNull]
      | some floor => simp [floorWithin, Truth.holds_or, holds_isNull, holds_compared]
  rw [selected, conditions, if_neg (by rw [h]; exact Bool.false_ne_true), Truth.holds_all,
    List.all_append, List.all_append, List.all_append, List.all_append, hplace, hname, hgender, hfee]
  simp [recent, holds_compared]

end NxTutors.Matching
