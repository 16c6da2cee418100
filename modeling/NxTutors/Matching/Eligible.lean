import NxTutors.Matching.HardFilters
import NxTutors.Matching.Mirroring

/-!
# Who is lost before the rules run

The rules decide who is eligible, and retrieval should let all of them through: its filters are the
rules in a coarser form. Some are not coarser. Retrieval looks for the city of the parent whatever
the mode is, asks for the class though it is not trusted, compares the gender without stripping it,
and draws the line for fees at twice the budget where a policy may draw it at three times. And
tutors who pass retrieval only to be rejected by a rule take the places of others. `kept_iff` and
`pgKept_iff` say that there is nothing else.
-/

namespace NxTutors.Matching

open Text MatchAgent Store

variable (p : Platform) (m : Measures) (policy : ScoringPolicy) (r : MatchRequirement)

/-- Those no rule objects to. -/
def eligible (rows : List TutorCandidate) : List TutorCandidate :=
  rows.filter fun t => accepted p m t ⟨r, policy⟩

/-- **Nobody eligible is lost**: where somebody is eligible somebody is found, and where no more are
eligible than are wanted all of them are found. -/
def KeepsEligible (limit : Nat) (rows found : List TutorCandidate) : Prop :=
  (eligible p m policy r rows ≠ [] → found ≠ []) ∧
  ((eligible p m policy r rows).length ≤ limit → ∀ t ∈ eligible p m policy r rows, t ∈ found)

/-! ## The filters of retrieval -/

/-- The gender is not the one that is asked for, to the letter. -/
def genderAllowed (q : CandidateQuery) (t : TutorCandidate) : Bool :=
  !present q.gender || !present t.gender || p.lower (t.gender.getD "") = q.gender.getD ""

/-- The city is spelled in a way that is asked for, or the pincode is the same. -/
def cityAllowed (q : CandidateQuery) (t : TutorCandidate) : Bool :=
  q.cityAliases = [] || !present t.city || p.lower (t.city.getD "") ∈ q.cityAliases ||
    (present q.pincode && t.pincode = q.pincode)

/-- What retrieval asks about subjects, classes and fees. -/
def offers (q : CandidateQuery) (t : TutorCandidate) : Bool :=
  teachesSome p q.subjects t.capabilities.subjects &&
  coversLabel p q.classLabels t.capabilities.classes && floorWithin q.maxFee t.fee.minimum

variable {p m policy r} {t : TutorCandidate} {limit : Nat}

theorem matchesQuery_eq {q : CandidateQuery} :
    matchesQuery p t q = (decide (t.freshness ∈ q.minFreshness) && q.mode.all (t.supportsMode ·) &&
      (offers p q t && cityAllowed p q t && genderAllowed p q t)) := by
  rw [matchesQuery, offers, cityAllowed, genderAllowed]
  ac_rfl

/-- A tutor whom the rules accept does not fail by the mode. -/
theorem mode_of_accepted (h : accepted p m t ⟨r, policy⟩) :
    (queryFromRequirement p r limit).mode.all (t.supportsMode ·) = true := by
  have hmode : modeSupported t ⟨r, policy⟩ = none := (accepted_iff.mp h).2.2.2.2.2.1
  have hquery : (queryFromRequirement p r limit).mode
      = if usableForHardFilter r.mode then r.modeValue else none := rfl
  rw [hquery]
  unfold modeSupported at hmode
  dsimp only at hmode
  cases husable : usableForHardFilter r.mode with
  | false => rfl
  | true =>
    rw [husable] at hmode
    cases hvalue : r.modeValue with
    | none => rfl
    | some required =>
      rw [hvalue] at hmode
      cases hsupports : t.supportsMode required with
      | true => exact hsupports
      | false =>
        dsimp only at hmode
        rw [hsupports] at hmode
        cases hmode

theorem fresh_of_accepted (h : accepted p m t ⟨r, policy⟩) :
    t.freshness ∈ RECOMMENDABLE_FRESHNESS := by
  have hactive : activeTutor t ⟨r, policy⟩ = none := (accepted_iff.mp h).1
  by_contra hnot
  rw [activeTutor, if_neg hnot] at hactive
  cases hactive

/-- **What is left for retrieval to ask** of a tutor whom the rules accept. -/
theorem matchesQuery_of_accepted (h : accepted p m t ⟨r, policy⟩) :
    matchesQuery p t (queryFromRequirement p r limit)
      = (offers p (queryFromRequirement p r limit) t &&
        cityAllowed p (queryFromRequirement p r limit) t &&
        genderAllowed p (queryFromRequirement p r limit) t) := by
  have hfresh : decide (t.freshness ∈ (queryFromRequirement p r limit).minFreshness) = true :=
    decide_eq_true (fresh_of_accepted h)
  rw [matchesQuery_eq, hfresh, mode_of_accepted h]
  rfl

/-! ## In memory -/

/-- How many tutors that pass stand before one. -/
def before (p : Platform) (q : CandidateQuery) (rows : List TutorCandidate) (t : TutorCandidate) :
    Nat :=
  (rows.filter (matchesQuery p · q)).countP fun u => ¬RanksBefore ratingOrZero t u

/-- **Retrieval lets the eligible through**: where somebody is eligible, somebody passes the filters
and somebody is wanted, and where no more are eligible than are wanted, each of them passes what is
asked about subjects, classes, fees, the city and the gender, and not too many stand before. -/
def LetsThrough (p : Platform) (m : Measures) (policy : ScoringPolicy) (r : MatchRequirement)
    (limit : Nat) (table : TutorTable) : Prop :=
  (eligible p m policy r table.rows ≠ [] →
    1 ≤ limit ∧ ∃ t ∈ table.rows, matchesQuery p t (queryFromRequirement p r limit)) ∧
  ((eligible p m policy r table.rows).length ≤ limit → ∀ t ∈ eligible p m policy r table.rows,
    (offers p (queryFromRequirement p r limit) t ∧
      cityAllowed p (queryFromRequirement p r limit) t ∧
      genderAllowed p (queryFromRequirement p r limit) t) ∧
    before p (queryFromRequirement p r limit) table.rows t < limit)

section Memory

variable {table : TutorTable}

theorem mem_search_iff {q : CandidateQuery} (h : present q.publicRef = false) :
    t ∈ search p table q ↔
      (t ∈ table.rows ∧ matchesQuery p t q = true) ∧ before p q table.rows t < q.limit := by
  unfold search
  rw [if_neg (by rw [h]; exact Bool.false_ne_true),
    mem_take_ranked_iff (eq_of_ranksBefore List.filter_sublist), List.mem_filter]
  rfl

theorem search_ne_nil_iff {q : CandidateQuery} (h : present q.publicRef = false) :
    search p table q ≠ [] ↔ 1 ≤ q.limit ∧ ∃ t ∈ table.rows, matchesQuery p t q = true := by
  unfold search
  rw [if_neg (by rw [h]; exact Bool.false_ne_true), ne_eq, List.take_eq_nil_iff, not_or,
    ← List.length_eq_zero_iff, List.length_insertionSort, List.length_eq_zero_iff,
    List.filter_eq_nil_iff]
  push Not
  exact and_congr_left fun _ => Nat.pos_iff_ne_zero.symm

theorem keepsEligible_search_iff (hexplicit : present r.explicitTutorRef = false) :
    KeepsEligible p m policy r limit table.rows (search p table (queryFromRequirement p r limit)) ↔
      LetsThrough p m policy r limit table := by
  have href : present (queryFromRequirement p r limit).publicRef = false := hexplicit
  unfold KeepsEligible LetsThrough
  rw [search_ne_nil_iff href]
  refine and_congr_right fun _ => imp_congr_right fun _ => forall₂_congr fun t ht => ?_
  obtain ⟨hrow, hacc⟩ := List.mem_filter.mp ht
  rw [mem_search_iff href, matchesQuery_of_accepted (of_decide_eq_true hacc), Bool.and_eq_true,
    Bool.and_eq_true, and_assoc (b := _ = true)]
  exact and_congr_left fun _ => ⟨fun hall => hall.2, fun hall => ⟨hrow, hall⟩⟩

end Memory

/-! ## In PostgreSQL -/

/-- How many rows of the query stand before one. -/
def selectedBefore (p : Platform) (w : FreshnessWindow) (now : Time) (q : CandidateQuery)
    (rows : List TutorCandidate) (t : TutorCandidate) : Nat :=
  (rows.filter (selected p w now · q)).countP fun u => ¬RanksBefore ratingNullsLast t u

/-- How many of them pass what is filtered later. -/
def passedBefore (p : Platform) (w : FreshnessWindow) (now : Time) (q : CandidateQuery)
    (rows : List TutorCandidate) (t : TutorCandidate) : Nat :=
  ((rows.filter (selected p w now · q)).filter (filteredLater p · q)).countP fun u =>
    ¬RanksBefore ratingNullsLast t u

/-- **The query lets the eligible through**: where somebody is eligible, somebody passes both halves
of the filters and is among the first rows, and where no more are eligible than are wanted, each of
them passes what is asked about subjects, classes and fees, is known to have the place and the
gender that are asked for, and not too many stand before, neither in the query nor in what is left
of it. -/
def PgLetsThrough (p : Platform) (m : Measures) (policy : ScoringPolicy) (w : FreshnessWindow)
    (now : Time) (r : MatchRequirement) (limit : Nat) (rows : List TutorCandidate) : Prop :=
  (eligible p m policy r rows ≠ [] →
    ∃ t ∈ rows, passesBoth p w now (queryFromRequirement p r limit) t ∧
      selectedBefore p w now (queryFromRequirement p r limit) rows t < limit * 2) ∧
  ((eligible p m policy r rows).length ≤ limit → ∀ t ∈ eligible p m policy r rows,
    (offers p (queryFromRequirement p r limit) t ∧
      placeKnown p (queryFromRequirement p r limit) t ∧
      genderKnown p (queryFromRequirement p r limit) t) ∧
    selectedBefore p w now (queryFromRequirement p r limit) rows t < limit * 2 ∧
    passedBefore p w now (queryFromRequirement p r limit) rows t < limit)

section Postgres

variable {w : FreshnessWindow} {now : Time} {table : TutorTable}

/-- A row that is fresh enough to be recommended is recent. -/
theorem recent_of_fresh (ht : t ∈ (classified w now table).rows)
    (h : t.freshness ∈ RECOMMENDABLE_FRESHNESS) : recent w now t = true := by
  have hrows : (classified w now table).rows = table.rows.map (toCandidate w now) := rfl
  rw [hrows] at ht
  obtain ⟨u, -, rfl⟩ := List.mem_map.mp ht
  have hfresh : freshnessFor w u.syncedAt now ∈ RECOMMENDABLE_FRESHNESS := h
  have hlt := w.fresh_lt_aging
  unfold recent
  change u.syncedAt.any _ = true
  cases hsynced : u.syncedAt with
  | none =>
    rw [hsynced] at hfresh
    have hunknown : Freshness.unknown ∉ RECOMMENDABLE_FRESHNESS := by decide
    exact absurd hfresh hunknown
  | some synced =>
    rw [hsynced, freshnessFor] at hfresh
    rw [Option.any_some, decide_eq_true_eq]
    split at hfresh
    · rename_i hnew
      have hhour : (w.freshHours : Int) * HOUR ≤ w.agingHours * HOUR :=
        Int.mul_le_mul_of_nonneg_right (by omega) (by decide)
      exact sub_le_comm.mp (hnew.trans hhour)
    · split at hfresh
      · rename_i hnew
        exact sub_le_comm.mp hnew
      · exact absurd hfresh (by decide)

/-- **What is left for the query to ask** of a tutor whom the rules accept. -/
theorem passesBoth_of_accepted (hexplicit : present r.explicitTutorRef = false)
    (ht : t ∈ (classified w now table).rows) (h : accepted p m t ⟨r, policy⟩) :
    passesBoth p w now (queryFromRequirement p r limit) t
      = (offers p (queryFromRequirement p r limit) t &&
        placeKnown p (queryFromRequirement p r limit) t &&
        genderKnown p (queryFromRequirement p r limit) t) := by
  have href : present (queryFromRequirement p r limit).publicRef = false := hexplicit
  have hname : named p (queryFromRequirement p r limit) t = true := rfl
  rw [passesBoth, selected_eq href, recent_of_fresh ht (fresh_of_accepted h), hname, filteredLater,
    mode_of_accepted h, offers]
  simp only [Bool.true_and, Bool.and_true]
  ac_rfl

theorem mem_pgSearch_iff {q : CandidateQuery} (h : present q.publicRef = false) :
    t ∈ pgSearch p w now table q ↔
      (t ∈ (classified w now table).rows ∧ passesBoth p w now q t = true) ∧
        selectedBefore p w now q (classified w now table).rows t < q.limit * 2 ∧
        passedBefore p w now q (classified w now table).rows t < q.limit := by
  rw [pgSearch_eq, if_neg (by rw [h]; exact Bool.false_ne_true),
    mem_take_filter_take_iff (eq_of_ranksBefore List.filter_sublist), List.mem_filter, passesBoth,
    Bool.and_eq_true, and_assoc (a := t ∈ _)]
  rfl

/-- Somebody is found where somebody passes who is among the first rows. -/
theorem pgSearch_ne_nil_iff {q : CandidateQuery} (h : present q.publicRef = false) :
    pgSearch p w now table q ≠ [] ↔
      ∃ t ∈ (classified w now table).rows, passesBoth p w now q t = true ∧
        selectedBefore p w now q (classified w now table).rows t < q.limit * 2 := by
  have hfirst : ∀ t, t ∈ ((ordered p w now table q).take (q.limit * 2)).filter
      (filteredLater p · q) ↔ (t ∈ (classified w now table).rows ∧ passesBoth p w now q t = true) ∧
        selectedBefore p w now q (classified w now table).rows t < q.limit * 2 := by
    intro t
    rw [List.mem_filter, ordered, mem_take_ranked_iff (eq_of_ranksBefore List.filter_sublist),
      List.mem_filter, passesBoth, Bool.and_eq_true]
    constructor
    · rintro ⟨⟨⟨hrow, hsel⟩, hlt⟩, hlater⟩
      exact ⟨⟨hrow, hsel, hlater⟩, hlt⟩
    · rintro ⟨⟨hrow, hsel, hlater⟩, hlt⟩
      exact ⟨⟨⟨hrow, hsel⟩, hlt⟩, hlater⟩
  rw [pgSearch_eq, if_neg (by rw [h]; exact Bool.false_ne_true)]
  change (((ordered p w now table q).take (q.limit * 2)).filter (filteredLater p · q)).take q.limit
    ≠ [] ↔ _
  rw [ne_eq, List.take_eq_nil_iff, not_or]
  constructor
  · rintro ⟨-, hne⟩
    obtain ⟨t, ht⟩ := List.exists_mem_of_ne_nil _ hne
    obtain ⟨⟨hrow, hpass⟩, hlt⟩ := (hfirst t).mp ht
    exact ⟨t, hrow, hpass, hlt⟩
  · rintro ⟨t, hrow, hpass, hlt⟩
    refine ⟨by omega, fun hnil => ?_⟩
    have ht := (hfirst t).mpr ⟨⟨hrow, hpass⟩, hlt⟩
    rw [hnil] at ht
    exact absurd ht List.not_mem_nil

theorem keepsEligible_pgSearch_iff (hexplicit : present r.explicitTutorRef = false) :
    KeepsEligible p m policy r limit (classified w now table).rows
        (pgSearch p w now table (queryFromRequirement p r limit)) ↔
      PgLetsThrough p m policy w now r limit (classified w now table).rows := by
  have href : present (queryFromRequirement p r limit).publicRef = false := hexplicit
  unfold KeepsEligible PgLetsThrough
  rw [pgSearch_ne_nil_iff href]
  refine and_congr_right fun _ => imp_congr_right fun _ => forall₂_congr fun t ht => ?_
  obtain ⟨hrow, hacc⟩ := List.mem_filter.mp ht
  rw [mem_pgSearch_iff href, passesBoth_of_accepted hexplicit hrow (of_decide_eq_true hacc),
    Bool.and_eq_true, Bool.and_eq_true, and_assoc (b := _ = true)]
  exact and_congr_left fun _ => ⟨fun hall => hall.2, fun hall => ⟨hrow, hall⟩⟩

end Postgres

/-- **No eligible tutor is lost** by the one repository or by the other, exactly under these
conditions. -/
theorem keepsEligible_iff (p : Platform) (m : Measures) (policy : ScoringPolicy)
    {r : MatchRequirement} (hexplicit : present r.explicitTutorRef = false) (limit : Nat)
    (table : TutorTable) :
    (KeepsEligible p m policy r limit table.rows
        (search p table (queryFromRequirement p r limit)) ↔
      LetsThrough p m policy r limit table) ∧
    ∀ (w : FreshnessWindow) (now : Time),
      (KeepsEligible p m policy r limit (classified w now table).rows
          (pgSearch p w now table (queryFromRequirement p r limit)) ↔
        PgLetsThrough p m policy w now r limit (classified w now table).rows) :=
  ⟨keepsEligible_search_iff hexplicit, fun _ _ => keepsEligible_pgSearch_iff hexplicit⟩

/-! ## An online tutor from another city -/

/-- Online lessons, for a child in Delhi. -/
def onlineInDelhi : MatchRequirement where
  conversationId := "c1"
  mode := some { value := .online }
  location := { city := some "Delhi" }

/-- One tutor, in Pune, who teaches online. -/
def tutorInPune : TutorTable :=
  ⟨[{ tutorId := "t1", publicRef := "dDEtbnh0", name := "Asha", city := some "Pune",
      capabilities := { modes := [.online] }, syncedAt := some 0, freshness := .fresh }],
    List.nodup_singleton _⟩

/-- No rule objects, and neither repository finds the tutor. -/
theorem online_tutor_lost :
    eligible ascii meridian basePolicy onlineInDelhi tutorInPune.rows = tutorInPune.rows ∧
    ¬KeepsEligible ascii meridian basePolicy onlineInDelhi 10 tutorInPune.rows
      (search ascii tutorInPune (queryFromRequirement ascii onlineInDelhi 10)) ∧
    ¬KeepsEligible ascii meridian basePolicy onlineInDelhi 10
      (classified defaultWindow 0 tutorInPune).rows
      (pgSearch ascii defaultWindow 0 tutorInPune (queryFromRequirement ascii onlineInDelhi 10)) := by
  have hfound : search ascii tutorInPune (queryFromRequirement ascii onlineInDelhi 10) = [] := by
    decide
  have hpg : pgSearch ascii defaultWindow 0 tutorInPune
      (queryFromRequirement ascii onlineInDelhi 10) = [] := by
    decide
  have heligible : eligible ascii meridian basePolicy onlineInDelhi tutorInPune.rows ≠ [] := by
    decide
  have heligible' : eligible ascii meridian basePolicy onlineInDelhi
      (classified defaultWindow 0 tutorInPune).rows ≠ [] := by
    decide
  exact ⟨by decide, fun h => h.1 heligible hfound, fun h => h.1 heligible' hpg⟩

theorem online_tutor_lost_iff :
    KeepsEligible ascii meridian basePolicy onlineInDelhi 10 tutorInPune.rows
        (search ascii tutorInPune (queryFromRequirement ascii onlineInDelhi 10)) ↔
      LetsThrough ascii meridian basePolicy onlineInDelhi 10 tutorInPune :=
  (keepsEligible_iff ascii meridian basePolicy (by decide) 10 tutorInPune).1

end NxTutors.Matching
