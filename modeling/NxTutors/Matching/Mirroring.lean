import NxTutors.Matching.Projection

/-!
# Two repositories

The repository in memory is meant to behave like the one in PostgreSQL. A tutor passes the filters
of the one and not those of the other when something is missing that a column is compared with, when
a name is asked for, or when another freshness is; the order differs where a rating of zero meets a
missing one; and the query may cut off rows that would have passed. Those are all the differences:
`repositories_agree_iff`.
-/

namespace NxTutors.Matching

open Text MatchAgent Store

variable {p : Platform} {w : FreshnessWindow} {now : Time} {table : TutorTable}
  {q : CandidateQuery} {t u : TutorCandidate}

/-! ## Which tutors pass -/

/-- A tutor passes both halves of the filters of the query. -/
def passesBoth (p : Platform) (w : FreshnessWindow) (now : Time) (q : CandidateQuery)
    (t : TutorCandidate) : Bool :=
  selected p w now t q && filteredLater p t q

/-- A place that is known passes where one that is not known would. -/
theorem city_of_placeKnown (h : placeKnown p q t = true) :
    (q.cityAliases = [] || !present t.city || p.lower (t.city.getD "") ∈ q.cityAliases ||
      (present q.pincode && t.pincode = q.pincode)) = true := by
  simp only [placeKnown, Bool.or_eq_true, Bool.and_eq_true, decide_eq_true_eq] at h ⊢
  rcases h with (⟨hnone, -⟩ | ⟨-, hcity⟩) | hpin
  · exact .inl (.inl (.inl hnone))
  · cases hsome : t.city with
    | none =>
      rw [hsome] at hcity
      cases hcity
    | some city =>
      rw [hsome] at hcity
      exact .inl (.inr (by simpa using hcity))
  · exact .inr hpin

theorem gender_of_genderKnown (h : genderKnown p q t = true) :
    (!present q.gender || !present t.gender || p.lower (t.gender.getD "") = q.gender.getD "")
      = true := by
  simp only [genderKnown, Bool.or_eq_true, decide_eq_true_eq] at h ⊢
  rcases h with hnone | hgender
  · exact .inl (.inl hnone)
  · cases hsome : t.gender with
    | none =>
      rw [hsome] at hgender
      cases hgender
    | some gender =>
      rw [hsome] at hgender
      refine .inr ?_
      have heq : some (p.lower gender) = q.gender := by simpa using hgender
      rw [← heq]
      rfl

/-- **Who passes in memory** passes in the query too, unless something is missing that it compares;
and the other way round, unless another freshness is asked for. -/
theorem matchesQuery_eq_passesBoth_iff (h : present q.publicRef = false) :
    matchesQuery p t q = passesBoth p w now q t ↔
      (matchesQuery p t q → recent w now t ∧ placeKnown p q t ∧ genderKnown p q t ∧ named p q t) ∧
      (passesBoth p w now q t → t.freshness ∈ q.minFreshness) := by
  have hboth : passesBoth p w now q t = true ↔
      (((recent w now t = true ∧ placeKnown p q t = true) ∧ named p q t = true) ∧
        genderKnown p q t = true) ∧ floorWithin q.maxFee t.fee.minimum = true ∧
        filteredLater p t q = true := by
    rw [passesBoth, selected_eq h]
    simp only [Bool.and_eq_true, and_assoc]
  constructor
  · intro heq
    constructor
    · intro hmem
      rw [heq] at hmem
      obtain ⟨⟨⟨⟨hrecent, hplace⟩, hname⟩, hgender⟩, -⟩ := hboth.mp hmem
      exact ⟨hrecent, hplace, hgender, hname⟩
    · intro hpass
      rw [← heq] at hpass
      simp only [matchesQuery, Bool.and_eq_true, decide_eq_true_eq] at hpass
      exact hpass.1.1.1.1.1.1
  · rintro ⟨hknown, hfresh⟩
    refine Bool.eq_iff_iff.mpr ⟨fun hmem => ?_, fun hpass => ?_⟩
    · obtain ⟨hrecent, hplace, hgender, hname⟩ := hknown hmem
      simp only [matchesQuery, Bool.and_eq_true] at hmem
      obtain ⟨⟨⟨⟨⟨⟨-, hsubjects⟩, hclasses⟩, -⟩, hmode⟩, -⟩, hfee⟩ := hmem
      refine hboth.mpr ⟨⟨⟨⟨hrecent, hplace⟩, hname⟩, hgender⟩, hfee, ?_⟩
      rw [filteredLater, hsubjects, hclasses, hmode]
      rfl
    · have hfreshness := hfresh hpass
      obtain ⟨⟨⟨⟨-, hplace⟩, -⟩, hgender⟩, hfee, hlater⟩ := hboth.mp hpass
      simp only [filteredLater, Bool.and_eq_true] at hlater
      obtain ⟨⟨hsubjects, hclasses⟩, hmode⟩ := hlater
      rw [matchesQuery, decide_eq_true hfreshness, hsubjects, hclasses, hmode, hfee,
        city_of_placeKnown hplace, gender_of_genderKnown hgender]
      rfl

/-! ## In which order -/

theorem ranksBefore_of_count {R : Type} [LinearOrder R] {rating : ReviewAggregate → R}
    (h : t.reviews.count = u.reviews.count) :
    RanksBefore rating t u ↔ rating u.reviews < rating t.reviews ∨
      rating t.reviews = rating u.reviews ∧ t.tutorId ≤ u.tutorId := by
  simp [RanksBefore, h]

/-- With `NULL` last, a rating comes before a missing one, whatever it is. -/
theorem ranksBefore_missing {x : Rat} (h : t.reviews.count = u.reviews.count)
    (ht : t.reviews.ratingAvg = some x) (hu : u.reviews.ratingAvg = none) :
    RanksBefore ratingNullsLast t u ∧ ¬RanksBefore ratingNullsLast u t := by
  rw [ranksBefore_of_count h, ranksBefore_of_count h.symm, ratingNullsLast_of_some ht,
    ratingNullsLast_of_none hu]
  refine ⟨.inl (WithBot.bot_lt_coe x), ?_⟩
  rintro (hlt | ⟨heq, -⟩)
  · exact absurd hlt not_lt_bot
  · cases heq

/-- In memory a missing one counts as zero. -/
theorem ranksBefore_zero {x : Rat} (h : t.reviews.count = u.reviews.count)
    (ht : t.reviews.ratingAvg = some x) (hu : u.reviews.ratingAvg = none) :
    (RanksBefore ratingOrZero t u ↔ 0 < x ∨ x = 0 ∧ t.tutorId ≤ u.tutorId) ∧
      (RanksBefore ratingOrZero u t ↔ x < 0 ∨ 0 = x ∧ u.tutorId ≤ t.tutorId) := by
  rw [ranksBefore_of_count h, ranksBefore_of_count h.symm, ratingOrZero, ratingOrZero, ht, hu]
  exact ⟨Iff.rfl, Iff.rfl⟩

/-- Two ratings, or none, are compared alike. -/
theorem ranksBefore_alike
    (h : t.reviews.ratingAvg.isSome = u.reviews.ratingAvg.isSome) :
    RanksBefore ratingOrZero t u ↔ RanksBefore ratingNullsLast t u := by
  unfold RanksBefore ratingOrZero
  cases ht : t.reviews.ratingAvg with
  | none =>
    cases hu : u.reviews.ratingAvg with
    | none =>
      rw [ratingNullsLast_of_none ht, ratingNullsLast_of_none hu]
      simp
    | some y =>
      rw [ht, hu] at h
      cases h
  | some x =>
    cases hu : u.reviews.ratingAvg with
    | none =>
      rw [ht, hu] at h
      cases h
    | some y =>
      rw [ratingNullsLast_of_some ht, ratingNullsLast_of_some hu, WithBot.coe_lt_coe,
        WithBot.coe_inj]
      exact Iff.rfl

/-- **The two orders differ** where a rating that is not positive meets a missing one. -/
theorem ranksBefore_agree_iff {rows : List TutorCandidate} (hrows : rows.Sublist table.rows) :
    (∀ t ∈ rows, ∀ u ∈ rows, RanksBefore ratingOrZero t u ↔ RanksBefore ratingNullsLast t u) ↔
      ∀ t ∈ rows, ∀ u ∈ rows, t.reviews.count = u.reviews.count → u.reviews.ratingAvg = none →
        ∀ x, t.reviews.ratingAvg = some x → 0 < x ∨ x = 0 ∧ t.tutorId ≤ u.tutorId := by
  constructor
  · intro hagree t ht u hu hcount hnone x hsome
    exact (ranksBefore_zero hcount hsome hnone).1.mp
      ((hagree t ht u hu).mpr (ranksBefore_missing hcount hsome hnone).1)
  · intro hrated t ht u hu
    by_cases hcount : t.reviews.count = u.reviews.count
    · cases hx : t.reviews.ratingAvg with
      | none =>
        cases hy : u.reviews.ratingAvg with
        | none => exact ranksBefore_alike (by rw [hx, hy])
        | some y =>
          have hnot : ¬RanksBefore ratingOrZero t u := by
            rw [(ranksBefore_zero hcount.symm hy hx).2]
            rintro (hneg | ⟨rfl, hid⟩)
            · rcases hrated u hu t ht hcount.symm hx y hy with hpos | ⟨hzero, -⟩
              · exact absurd hpos (not_lt.mpr hneg.le)
              · exact absurd hneg (by rw [hzero]; exact lt_irrefl 0)
            · rcases hrated u hu t ht hcount.symm hx 0 hy with hpos | ⟨-, hid'⟩
              · exact absurd hpos (lt_irrefl 0)
              · have hsame : t = u :=
                  table.eq_of_key (hrows.mem ht) (hrows.mem hu) (le_antisymm hid hid')
                rw [hsame, hy] at hx
                cases hx
          exact iff_of_false hnot (ranksBefore_missing hcount.symm hy hx).2
      | some x =>
        cases hy : u.reviews.ratingAvg with
        | none =>
          exact iff_of_true ((ranksBefore_zero hcount hx hy).1.mpr (hrated t ht u hu hcount hy x hx))
            (ranksBefore_missing hcount hx hy).1
        | some y => exact ranksBefore_alike (by rw [hx, hy]; rfl)
    · unfold RanksBefore
      simp [hcount]

/-! ## The two searches -/

/-- The rows of the query in their order, before any is cut off. -/
def ordered (p : Platform) (w : FreshnessWindow) (now : Time) (table : TutorTable)
    (q : CandidateQuery) : List TutorCandidate :=
  ((classified w now table).rows.filter (selected p w now · q)).insertionSort
    (RanksBefore ratingNullsLast)

/-- **The same is known to both**: whoever passes in memory was written lately and is known to have
the place, the gender and the name that are asked for, whoever passes in the query has the freshness
that is asked for, no rating that is not positive comes before a missing one out of turn, and of the
first so many rows, twice as many as are wanted, enough pass. -/
structure Mirrored (p : Platform) (w : FreshnessWindow) (now : Time) (table : TutorTable)
    (q : CandidateQuery) : Prop where
  known : ∀ t ∈ (classified w now table).rows, matchesQuery p t q →
    recent w now t ∧ placeKnown p q t ∧ genderKnown p q t ∧ named p q t
  fresh : ∀ t ∈ (classified w now table).rows, passesBoth p w now q t →
    t.freshness ∈ q.minFreshness
  rated : ∀ t ∈ (classified w now table).rows, ∀ u ∈ (classified w now table).rows,
    matchesQuery p t q → matchesQuery p u q → t.reviews.count = u.reviews.count →
    u.reviews.ratingAvg = none →
    ∀ x, t.reviews.ratingAvg = some x → 0 < x ∨ x = 0 ∧ t.tutorId ≤ u.tutorId
  enough : ∀ n, min n ((ordered p w now table q).countP (filteredLater p · q))
    ≤ ((ordered p w now table q).take (n * 2)).countP (filteredLater p · q)

section Searches

theorem search_limit_eq (h : present q.publicRef = false) (n : Nat) :
    search p (classified w now table) { q with limit := n }
      = (((classified w now table).rows.filter (matchesQuery p · q)).insertionSort
        (RanksBefore ratingOrZero)).take n := by
  unfold search
  dsimp only
  rw [if_neg (by rw [h]; exact Bool.false_ne_true)]
  rfl

theorem pgSearch_limit_eq (h : present q.publicRef = false) (n : Nat) :
    pgSearch p w now table { q with limit := n }
      = (((ordered p w now table q).take (n * 2)).filter (filteredLater p · q)).take n := by
  rw [pgSearch_eq]
  dsimp only
  rw [if_neg (by rw [h]; exact Bool.false_ne_true)]
  rfl

/-- What passes both halves, in its order. -/
theorem filter_ordered :
    (ordered p w now table q).filter (filteredLater p · q)
      = ((classified w now table).rows.filter (passesBoth p w now q)).insertionSort
        (RanksBefore ratingNullsLast) := by
  rw [ordered, filter_insertionSort (eq_of_ranksBefore (List.filter_sublist)), List.filter_filter]
  refine congrArg _ (List.filter_congr fun t _ => ?_)
  exact Bool.and_comm _ _

/-- When one ranking lists what the other does. -/
theorem rankings_eq_iff (h : present q.publicRef = false) :
    ((classified w now table).rows.filter (matchesQuery p · q)).insertionSort
        (RanksBefore ratingOrZero)
      = ((classified w now table).rows.filter (passesBoth p w now q)).insertionSort
        (RanksBefore ratingNullsLast) ↔
      (∀ t ∈ (classified w now table).rows, matchesQuery p t q = passesBoth p w now q t) ∧
      ∀ t ∈ (classified w now table).rows, ∀ u ∈ (classified w now table).rows,
        matchesQuery p t q → matchesQuery p u q → t.reviews.count = u.reviews.count →
        u.reviews.ratingAvg = none →
        ∀ x, t.reviews.ratingAvg = some x → 0 < x ∨ x = 0 ∧ t.tutorId ≤ u.tutorId := by
  have hsub : ((classified w now table).rows.filter (matchesQuery p · q)).Sublist
      (classified w now table).rows := List.filter_sublist
  have horder := insertionSort_eq_iff (r := RanksBefore ratingOrZero)
    (s := RanksBefore ratingNullsLast) (eq_of_ranksBefore hsub) (eq_of_ranksBefore hsub)
  rw [ranksBefore_agree_iff hsub] at horder
  have hspell : (∀ t ∈ (classified w now table).rows.filter (matchesQuery p · q),
      ∀ u ∈ (classified w now table).rows.filter (matchesQuery p · q),
        t.reviews.count = u.reviews.count → u.reviews.ratingAvg = none →
        ∀ x, t.reviews.ratingAvg = some x → 0 < x ∨ x = 0 ∧ t.tutorId ≤ u.tutorId) ↔
      ∀ t ∈ (classified w now table).rows, ∀ u ∈ (classified w now table).rows,
        matchesQuery p t q → matchesQuery p u q → t.reviews.count = u.reviews.count →
        u.reviews.ratingAvg = none →
        ∀ x, t.reviews.ratingAvg = some x → 0 < x ∨ x = 0 ∧ t.tutorId ≤ u.tutorId := by
    simp only [List.mem_filter]
    exact ⟨fun hall t ht u hu hmt hmu => hall t ⟨ht, hmt⟩ u ⟨hu, hmu⟩,
      fun hall t ht u hu => hall t ht.1 u hu.1 ht.2 hu.2⟩
  constructor
  · intro heq
    -- the same tutors are listed, so the same tutors pass
    have hpass : ∀ t ∈ (classified w now table).rows,
        matchesQuery p t q = passesBoth p w now q t := by
      intro t ht
      have hmem := (List.perm_insertionSort (RanksBefore ratingOrZero) _).symm.trans
        (heq ▸ List.perm_insertionSort (RanksBefore ratingNullsLast) _) |>.mem_iff (a := t)
      rw [List.mem_filter, List.mem_filter] at hmem
      exact Bool.eq_iff_iff.mpr ⟨fun hm => (hmem.mp ⟨ht, hm⟩).2, fun hp => (hmem.mpr ⟨ht, hp⟩).2⟩
    refine ⟨hpass, hspell.mp (horder.mp ?_)⟩
    rw [heq, List.filter_congr fun t ht => (hpass t ht).symm]
  · rintro ⟨hpass, hrated⟩
    rw [← List.filter_congr hpass]
    exact horder.mpr (hspell.mpr hrated)

/-- Where no tutor is named. -/
theorem search_eq_iff_mirrored (h : present q.publicRef = false) :
    (∀ n, search p (classified w now table) { q with limit := n }
      = pgSearch p w now table { q with limit := n }) ↔ Mirrored p w now table q := by
  have hranked : (ordered p w now table q).filter (filteredLater p · q)
      = ((classified w now table).rows.filter (passesBoth p w now q)).insertionSort
        (RanksBefore ratingNullsLast) := filter_ordered
  constructor
  · intro heq
    -- with a limit that cuts nothing off, the rankings are the same
    have hwhole : ((classified w now table).rows.filter (matchesQuery p · q)).insertionSort
          (RanksBefore ratingOrZero)
        = ((classified w now table).rows.filter (passesBoth p w now q)).insertionSort
          (RanksBefore ratingNullsLast) := by
      have hn := heq (classified w now table).rows.length
      rw [search_limit_eq h, pgSearch_limit_eq h] at hn
      have hlen : (ordered p w now table q).length ≤ (classified w now table).rows.length := by
        rw [ordered, List.length_insertionSort]
        exact List.length_filter_le _ _
      have hlen' : (((classified w now table).rows.filter (matchesQuery p · q)).insertionSort
          (RanksBefore ratingOrZero)).length ≤ (classified w now table).rows.length := by
        rw [List.length_insertionSort]
        exact List.length_filter_le _ _
      rw [List.take_of_length_le hlen', List.take_of_length_le (l := ordered p w now table q)
        (by omega), List.take_of_length_le ((List.length_filter_le _ _).trans hlen), hranked] at hn
      exact hn
    obtain ⟨hpass, hrated⟩ := (rankings_eq_iff h).mp hwhole
    refine ⟨fun t ht => ((matchesQuery_eq_passesBoth_iff h).mp (hpass t ht)).1,
      fun t ht => ((matchesQuery_eq_passesBoth_iff h).mp (hpass t ht)).2, hrated, fun n => ?_⟩
    have hn := heq n
    rw [search_limit_eq h, pgSearch_limit_eq h, hwhole, ← hranked] at hn
    exact take_filter_take_eq_iff.mp hn.symm
  · rintro ⟨hknown, hfresh, hrated, henough⟩ n
    have hpass : ∀ t ∈ (classified w now table).rows,
        matchesQuery p t q = passesBoth p w now q t := fun t ht =>
      (matchesQuery_eq_passesBoth_iff h).mpr ⟨hknown t ht, hfresh t ht⟩
    rw [search_limit_eq h, pgSearch_limit_eq h, (rankings_eq_iff h).mpr ⟨hpass, hrated⟩, ← hranked]
    exact (take_filter_take_eq_iff.mpr (henough n)).symm

end Searches

/-! ## Where a tutor is named -/

/-- The first tutor with that reference passes what is filtered later and comes first, and somebody
is wanted. -/
def RefMirrored (p : Platform) (w : FreshnessWindow) (now : Time) (table : TutorTable)
    (q : CandidateQuery) : Prop :=
  ∀ t ∈ getByPublicRef (classified w now table) (q.publicRef.getD ""),
    1 ≤ q.limit ∧ filteredLater p t q ∧
      ∀ u ∈ (classified w now table).rows, u.publicRef = q.publicRef.getD "" →
        RanksBefore ratingNullsLast t u

theorem selected_ref (h : present q.publicRef = true) :
    selected p w now t q = decide (t.publicRef = q.publicRef.getD "") := by
  rw [selected, conditions, if_pos h, Truth.holds_all, List.all_cons, List.all_nil, Bool.and_true,
    holds_compared, Option.any_some]
  cases hq : q.publicRef with
  | none =>
    rw [hq] at h
    cases h
  | some ref => simp

/-- A list with at most one element, filtered and cut off, is that element. -/
theorem toList_eq_filter_take_iff {α : Type} {a b : Option α} {p : α → Bool} {n : Nat}
    (h : a.isSome = b.isSome) :
    a.toList = (b.toList.filter p).take n ↔ ∀ x ∈ a, 1 ≤ n ∧ p x = true ∧ b = some x := by
  cases a with
  | none =>
    cases b with
    | none => simp
    | some y => cases h
  | some x =>
    cases b with
    | none => cases h
    | some y =>
      cases n with
      | zero => simp
      | succ n =>
        by_cases hy : p y = true
        · simp only [Option.toList_some, List.filter_cons_of_pos hy, List.filter_nil,
            List.take_succ_cons, List.take_nil, List.cons.injEq, and_true, Option.mem_def,
            Option.some.injEq, forall_eq']
          exact ⟨fun heq => ⟨n.succ_pos, heq ▸ hy, heq.symm⟩, fun hall => hall.2.2.symm⟩
        · simp only [Option.toList_some, List.filter_cons_of_neg hy, List.filter_nil, List.take_nil,
            List.cons_ne_nil, Option.mem_def, Option.some.injEq, forall_eq', false_iff]
          rintro ⟨-, hx, rfl⟩
          exact hy hx

theorem search_eq_iff_refMirrored (h : present q.publicRef = true) :
    search p (classified w now table) q = pgSearch p w now table q ↔
      RefMirrored p w now table q := by
  have hsub : ((classified w now table).rows.filter (selected p w now · q)).Sublist
      (classified w now table).rows := List.filter_sublist
  have hfind : getByPublicRef (classified w now table) (q.publicRef.getD "")
      = ((classified w now table).rows.filter (selected p w now · q)).head? := by
    rw [getByPublicRef, List.head?_filter]
    exact congrArg (List.find? · _) (funext fun t => (selected_ref h).symm)
  have hfirst : (ordered p w now table q).take 1 = (ordered p w now table q).head?.toList := by
    cases ordered p w now table q <;> rfl
  have hsome : ((classified w now table).rows.filter (selected p w now · q)).head?.isSome
      = (ordered p w now table q).head?.isSome := by
    rw [Bool.eq_iff_iff, List.isSome_head?, List.isSome_head?, ordered, ne_eq, ne_eq,
      ← List.length_eq_zero_iff, ← List.length_eq_zero_iff, List.length_insertionSort]
  rw [search, if_pos h, pgSearch_eq, if_pos h]
  change _ = (((ordered p w now table q).take 1).filter (filteredLater p · q)).take q.limit ↔ _
  rw [hfirst, hfind, toList_eq_filter_take_iff hsome, RefMirrored, hfind]
  refine forall₂_congr fun t ht => and_congr_right fun _ => and_congr_right fun _ => ?_
  rw [ordered, head?_ranked_eq_some_iff (eq_of_ranksBefore hsub)]
  constructor
  · rintro ⟨-, hall⟩ u hu href
    exact hall u (List.mem_filter.mpr ⟨hu, by rw [selected_ref h, decide_eq_true href]⟩)
  · intro hall
    refine ⟨List.mem_of_mem_head? ht, fun u hu => ?_⟩
    obtain ⟨hrow, hsel⟩ := List.mem_filter.mp hu
    rw [selected_ref h, decide_eq_true_eq] at hsel
    exact hall u hrow hsel

/-- **The two repositories agree** exactly under these conditions. -/
theorem repositories_agree_iff (p : Platform) (w : FreshnessWindow) (now : Time)
    (table : TutorTable) (q : CandidateQuery) :
    (present q.publicRef = true →
      (search p (classified w now table) q = pgSearch p w now table q ↔
        RefMirrored p w now table q)) ∧
    (present q.publicRef = false →
      ((∀ n, search p (classified w now table) { q with limit := n }
        = pgSearch p w now table { q with limit := n }) ↔ Mirrored p w now table q)) :=
  ⟨search_eq_iff_refMirrored, search_eq_iff_mirrored⟩

/-! ## A tutor whose city is not known -/

/-- Six hours, and a day. -/
def defaultWindow : FreshnessWindow := ⟨6, 24, by decide⟩

def cityless : TutorTable :=
  ⟨[{ tutorId := "t1", publicRef := "dDEtbnh0", name := "Asha", syncedAt := some 0 }],
    List.nodup_singleton _⟩

/-- Tutors in Delhi. -/
def inDelhi : CandidateQuery := { limit := 10, cityAliases := cityAliases ascii "Delhi" }

/-- In memory they are found, and not in the query. -/
theorem cityless_lost :
    search ascii (classified defaultWindow 0 cityless) inDelhi
      ≠ pgSearch ascii defaultWindow 0 cityless inDelhi := by
  decide

theorem cityless_agree_iff :
    (∀ n, search ascii (classified defaultWindow 0 cityless) { inDelhi with limit := n }
      = pgSearch ascii defaultWindow 0 cityless { inDelhi with limit := n }) ↔
      Mirrored ascii defaultWindow 0 cityless inDelhi :=
  (repositories_agree_iff ascii defaultWindow 0 cityless inDelhi).2 (by decide)

end NxTutors.Matching
