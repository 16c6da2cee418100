import NxTutors.Matching.HardFilters
import NxTutors.Matching.Retrieval
import Mathlib.Tactic.Linarith

/-!
# What a guess can do

A value that is not trusted must not delete candidates. Two requirements that differ only in such
values should lead to the same survivors, whatever tutors there are. They need not: retrieval asks
for the class without asking how far it is trusted, the rule for boards looks at the class to see
whether the board matters, and the two rules about places look at the mode to see whether somebody
has to travel. `survivors_eq_iff` says that there is nothing else.
-/

namespace NxTutors.Matching

open Text MatchAgent Store

/-! ## Requirements that differ in guesses -/

/-- The two values are one, or neither is trusted. -/
def GuessedApart {α : Type} (a b : Option (Tracked α)) : Prop :=
  a = b ∨ usableForHardFilter a = false ∧ usableForHardFilter b = false

/-- The same requirement with other values for the five fields that filter. -/
def restated (r : MatchRequirement) (subject studentClass board : Option (Tracked String))
    (mode : Option (Tracked TuitionMode)) (gender : Option (Tracked String)) : MatchRequirement :=
  { r with subject, studentClass, board, mode, tutorGenderPreference := gender }

/-- **They differ only in guesses.** -/
structure SameButGuesses (r s : MatchRequirement) : Prop where
  rest : s = restated r s.subject s.studentClass s.board s.mode s.tutorGenderPreference
  subject : GuessedApart r.subject s.subject
  studentClass : GuessedApart r.studentClass s.studentClass
  board : GuessedApart r.board s.board
  mode : GuessedApart r.mode s.mode
  gender : GuessedApart r.tutorGenderPreference s.tutorGenderPreference

namespace SameButGuesses

variable {r s : MatchRequirement}

theorem location (h : SameButGuesses r s) : s.location = r.location := by
  rw [h.rest]
  rfl

theorem budget (h : SameButGuesses r s) : s.budget = r.budget := by
  rw [h.rest]
  rfl

theorem explicitTutorRef (h : SameButGuesses r s) : s.explicitTutorRef = r.explicitTutorRef := by
  rw [h.rest]
  rfl

theorem additionalSubjects (h : SameButGuesses r s) :
    s.additionalSubjects = r.additionalSubjects := by
  rw [h.rest]
  rfl

end SameButGuesses

/-- What only looks at a value it trusts sees no difference. -/
theorem GuessedApart.eq {α β : Type} {a b : Option (Tracked α)} (h : GuessedApart a b)
    (f : Option (Tracked α) → β) (d : β) :
    (if usableForHardFilter a then f a else d) = if usableForHardFilter b then f b else d := by
  rcases h with rfl | ⟨ha, hb⟩
  · rfl
  · rw [ha, hb]
    rfl

variable (p : Platform) (m : Measures)

/-- Retrieval, and then the rules. -/
def survivors (table : TutorTable) (policy : ScoringPolicy) (limit : Nat) (r : MatchRequirement) :
    List TutorCandidate :=
  (apply p m (search p table (queryFromRequirement p r limit)) ⟨r, policy⟩).survivors

/-- A tutor whom retrieval can find. -/
def retrievable (r : MatchRequirement) (t : TutorCandidate) : Bool :=
  if present r.explicitTutorRef then t.publicRef = r.explicitTutorRef.getD ""
  else matchesQuery p t (queryFromRequirement p r 0)

/-- The class retrieval asks for. -/
def classLabels (r : MatchRequirement) : List String := (queryFromRequirement p r 0).classLabels

/-- The board matters at the grade of the requirement. -/
def boardMatters (r : MatchRequirement) : Bool :=
  boardIsMandatory p (normalizeBoard p r.boardValue) (classNumber p r.classValue)

/-- A tutor of the city can be retrieved, by the city or by the pincode. -/
def cityRetrievable (r : MatchRequirement) (city : String) : Bool :=
  present r.explicitTutorRef || cityAliases p (r.location.city.getD "") = [] ||
    p.lower city ∈ cityAliases p (r.location.city.getD "") || present r.location.pincode

/-- Nobody would have to travel too far: where the parent's city is known, nobody from another city
is retrieved, and where coordinates are known, no place is more than a kilometre away. -/
def NoneTooFar (r : MatchRequirement) : Prop :=
  (present r.location.city → ∀ city ≠ "", cityRetrievable p r city →
    sameCity p r.location.city (some city)) ∧
  (r.location.hasCoordinates → ∀ point, m.haversineKm (parentPoint r.location) point ≤ 1)

/-- **The guesses go nowhere**: retrieval asks for the same classes, a trusted board matters for
both or for neither, and either both are about home tuition or neither is, or that is of no
consequence. -/
structure Unmoved (r s : MatchRequirement) : Prop where
  labels : present r.explicitTutorRef ∨
    ∀ taught, coversLabel p (classLabels p r) taught = coversLabel p (classLabels p s) taught
  board : usableForHardFilter r.board → present (normalizeBoard p r.boardValue) →
    boardMatters p r = boardMatters p s
  home : (r.modeValue = some .home ↔ s.modeValue = some .home) ∨ NoneTooFar p m r

variable {p m} {r s : MatchRequirement} {t : TutorCandidate} {policy : ScoringPolicy}

/-! ## One tutor -/

/-- The table with one tutor. -/
def tableOf (t : TutorCandidate) : TutorTable := ⟨[t], List.nodup_singleton _⟩

theorem search_tableOf :
    search p (tableOf t) (queryFromRequirement p r 1) = if retrievable p r t then [t] else [] := by
  have href : (queryFromRequirement p r 1).publicRef = r.explicitTutorRef := rfl
  have hmatch : matchesQuery p t (queryFromRequirement p r 1)
      = matchesQuery p t (queryFromRequirement p r 0) := rfl
  unfold search retrievable
  rw [href]
  by_cases hexplicit : present r.explicitTutorRef = true
  · rw [if_pos hexplicit, if_pos hexplicit, getByPublicRef, tableOf, List.find?_singleton]
    split <;> rfl
  · rw [if_neg hexplicit, if_neg hexplicit, tableOf, List.filter_singleton, hmatch]
    cases matchesQuery p t (queryFromRequirement p r 0) <;> rfl

/-- **A tutor alone** survives if they are retrieved and no rule objects. -/
theorem survivors_tableOf :
    survivors p m (tableOf t) policy 1 r
      = if retrievable p r t ∧ accepted p m t ⟨r, policy⟩ then [t] else [] := by
  rw [survivors, search_tableOf, (partitioned_apply _ _).survivors]
  by_cases hfound : retrievable p r t = true
  · by_cases hacc : accepted p m t ⟨r, policy⟩
    · rw [if_pos hfound, if_pos ⟨hfound, hacc⟩, List.filter_singleton, decide_eq_true hacc]
      rfl
    · rw [if_pos hfound, if_neg fun h => hacc h.2, List.filter_singleton, decide_eq_false hacc]
      rfl
  · rw [if_neg hfound, if_neg fun h => hfound h.1]
    rfl

/-- What a table with one tutor can tell apart. -/
theorem survives_iff_of_eq
    (h : ∀ table limit, survivors p m table policy limit r = survivors p m table policy limit s)
    (t : TutorCandidate) :
    (retrievable p r t ∧ accepted p m t ⟨r, policy⟩) ↔
      (retrievable p s t ∧ accepted p m t ⟨s, policy⟩) := by
  have heq := h (tableOf t) 1
  rw [survivors_tableOf, survivors_tableOf] at heq
  constructor
  · intro hr
    by_contra hs
    rw [if_pos hr, if_neg hs] at heq
    cases heq
  · intro hs
    by_contra hr
    rw [if_pos hs, if_neg hr] at heq
    cases heq

/-! ## A tutor about whom little is known -/

/-- Nothing is known but the classes, the boards and the place. -/
def bareTutor (r : MatchRequirement) (classes boards : List String) (city : Option String)
    (geo : Option GeoPoint) : TutorCandidate where
  tutorId := "t"
  publicRef := r.explicitTutorRef.getD ""
  name := ""
  city := city
  pincode := r.location.pincode
  geo := geo
  travelRadiusKm := some (1 / 2)
  capabilities := { classes, boards }
  freshness := .fresh

section Bare

variable {classes boards : List String} {city : Option String} {geo : Option GeoPoint}

/-- Only the rules about classes, boards and places have anything to go by. -/
theorem accepted_bareTutor_iff (hs : s.explicitTutorRef = r.explicitTutorRef) :
    accepted p m (bareTutor r classes boards city geo) ⟨s, policy⟩ ↔
      classSupported p (bareTutor r classes boards city geo) ⟨s, policy⟩ = none ∧
      boardSupported p (bareTutor r classes boards city geo) ⟨s, policy⟩ = none ∧
      cityReachable p (bareTutor r classes boards city geo) ⟨s, policy⟩ = none ∧
      withinTravelRadius p m (bareTutor r classes boards city geo) ⟨s, policy⟩ = none := by
  have hactive : activeTutor (bareTutor r classes boards city geo) ⟨s, policy⟩ = none := rfl
  have hexplicit :
      explicitTutorRequest (bareTutor r classes boards city geo) ⟨s, policy⟩ = none := by
    unfold explicitTutorRequest
    dsimp only
    rw [hs]
    cases href : r.explicitTutorRef with
    | none => rfl
    | some ref =>
      split
      · rfl
      · rw [bareTutor, href]
        exact if_pos rfl
  have hsubject : subjectSupported p (bareTutor r classes boards city geo) ⟨s, policy⟩ = none := by
    simp [subjectSupported, bareTutor]
  have hmode : modeSupported (bareTutor r classes boards city geo) ⟨s, policy⟩ = none := by
    unfold modeSupported
    dsimp only
    split
    · rfl
    · split
      · rfl
      · exact if_pos rfl
  have hgender : genderIfRequested p (bareTutor r classes boards city geo) ⟨s, policy⟩ = none := by
    simp [genderIfRequested, bareTutor, present]
  have hfee :
      feeWithinNegotiableRange m (bareTutor r classes boards city geo) ⟨s, policy⟩ = none := by
    simp [feeWithinNegotiableRange, bareTutor, FeeBand.truthy]
  rw [accepted_iff]
  constructor
  · rintro ⟨-, -, -, hclass, hboard, -, -, hcity, -, hradius⟩
    exact ⟨hclass, hboard, hcity, hradius⟩
  · rintro ⟨hclass, hboard, hcity, hradius⟩
    exact ⟨hactive, hexplicit, hsubject, hclass, hboard, hmode, hgender, hcity, hfee, hradius⟩

theorem retrievable_bareTutor (hs : s.explicitTutorRef = r.explicitTutorRef)
    (hloc : s.location = r.location) :
    retrievable p s (bareTutor r classes boards city geo)
      = (present r.explicitTutorRef || (coversLabel p (classLabels p s) classes &&
        (!present r.location.city || !present city || cityRetrievable p r (city.getD "")))) := by
  unfold retrievable
  rw [hs]
  cases hexplicit : present r.explicitTutorRef with
  | true => simp [bareTutor]
  | false =>
    have haliases : (queryFromRequirement p s 0).cityAliases
        = if present r.location.city then cityAliases p (r.location.city.getD "") else [] := by
      rw [← hloc]
      rfl
    have hpincode : (queryFromRequirement p s 0).pincode = r.location.pincode := by
      rw [← hloc]
      rfl
    have hmode : (queryFromRequirement p s 0).mode.all
        ((bareTutor r classes boards city geo).supportsMode ·) = true := by
      cases (queryFromRequirement p s 0).mode <;> rfl
    have hfee : floorWithin (queryFromRequirement p s 0).maxFee
        (bareTutor r classes boards city geo).fee.minimum = true := by
      cases (queryFromRequirement p s 0).maxFee <;> rfl
    have hfresh : decide ((bareTutor r classes boards city geo).freshness ∈
        (queryFromRequirement p s 0).minFreshness) = true := rfl
    have hsubjects : teachesSome p (queryFromRequirement p s 0).subjects
        (bareTutor r classes boards city geo).capabilities.subjects = true := by
      simp [teachesSome, bareTutor]
    have hgender : present (bareTutor r classes boards city geo).gender = false := rfl
    rw [matchesQuery, hfresh, hsubjects, hmode, hfee, hgender, haliases, hpincode]
    cases hplace : present r.location.city <;> cases hcity : present city <;>
      simp [bareTutor, cityRetrievable, classLabels, hexplicit, hcity]

end Bare

/-! ## What makes no difference -/

theorem subjectSupported_congr (h : GuessedApart r.subject s.subject) :
    subjectSupported p t ⟨r, policy⟩ = subjectSupported p t ⟨s, policy⟩ := by
  rcases h with h | ⟨hr, hs⟩
  · unfold subjectSupported MatchRequirement.subjectValue
    dsimp only
    rw [h]
  · simp [subjectSupported, hr, hs]

theorem classSupported_congr (h : GuessedApart r.studentClass s.studentClass) :
    classSupported p t ⟨r, policy⟩ = classSupported p t ⟨s, policy⟩ := by
  rcases h with h | ⟨hr, hs⟩
  · unfold classSupported MatchRequirement.classValue
    dsimp only
    rw [h]
  · simp [classSupported, hr, hs]

theorem modeSupported_congr (h : GuessedApart r.mode s.mode) :
    modeSupported t ⟨r, policy⟩ = modeSupported t ⟨s, policy⟩ := by
  rcases h with h | ⟨hr, hs⟩
  · unfold modeSupported MatchRequirement.modeValue
    dsimp only
    rw [h]
  · simp [modeSupported, hr, hs]

theorem genderIfRequested_congr (h : GuessedApart r.tutorGenderPreference s.tutorGenderPreference) :
    genderIfRequested p t ⟨r, policy⟩ = genderIfRequested p t ⟨s, policy⟩ := by
  rcases h with h | ⟨hr, hs⟩
  · unfold genderIfRequested MatchRequirement.genderValue
    dsimp only
    rw [h]
  · simp [genderIfRequested, hr, hs]

/-- A board is a contradiction for both or for neither, if it matters for both or for neither. -/
theorem boardSupported_congr (h : GuessedApart r.board s.board)
    (hmatters : usableForHardFilter r.board → present (normalizeBoard p r.boardValue) →
      boardMatters p r = boardMatters p s) :
    boardSupported p t ⟨r, policy⟩ = boardSupported p t ⟨s, policy⟩ := by
  rcases h with h | ⟨hr, hs⟩
  · have hvalue : s.boardValue = r.boardValue := by
      rw [MatchRequirement.boardValue, MatchRequirement.boardValue, h]
    unfold boardSupported
    dsimp only
    rw [hvalue, ← h]
    cases husable : usableForHardFilter r.board with
    | false => rfl
    | true =>
      cases hpresent : present (normalizeBoard p r.boardValue) with
      | false => rfl
      | true =>
        have hsame := hmatters husable hpresent
        rw [boardMatters, boardMatters, hvalue] at hsame
        rw [hsame]
  · simp [boardSupported, hr, hs]

theorem cityReachable_congr (hloc : s.location = r.location)
    (hhome : r.modeValue = some .home ↔ s.modeValue = some .home) :
    cityReachable p t ⟨r, policy⟩ = cityReachable p t ⟨s, policy⟩ := by
  unfold cityReachable
  dsimp only
  rw [hloc]
  by_cases h : r.modeValue = some .home
  · rw [if_neg (not_not.mpr h), if_neg (not_not.mpr (hhome.mp h))]
  · rw [if_pos h, if_pos (mt hhome.mpr h)]

theorem withinTravelRadius_congr (hloc : s.location = r.location)
    (hhome : r.modeValue = some .home ↔ s.modeValue = some .home) :
    withinTravelRadius p m t ⟨r, policy⟩ = withinTravelRadius p m t ⟨s, policy⟩ := by
  have hwithin : withinRadius p m t ⟨s, policy⟩ = withinRadius p m t ⟨r, policy⟩ := by
    unfold withinRadius effectiveRadius
    dsimp only
    rw [hloc]
  unfold withinTravelRadius
  rw [hwithin]
  by_cases h : r.modeValue = some .home
  · rw [if_neg (not_not.mpr h), if_neg (not_not.mpr (hhome.mp h))]
  · rw [if_pos h, if_pos (mt hhome.mpr h)]

/-! ### Where nobody has to travel -/

/-- A tutor who is retrieved is one whose city is. -/
theorem cityRetrievable_of_retrievable (h : retrievable p r t) (hplace : present r.location.city)
    (hcity : present t.city) : cityRetrievable p r (t.city.getD "") := by
  unfold cityRetrievable
  unfold retrievable at h
  cases hexplicit : present r.explicitTutorRef with
  | true => rfl
  | false =>
    rw [hexplicit, if_neg Bool.false_ne_true] at h
    have haliases : (queryFromRequirement p r 0).cityAliases
        = cityAliases p (r.location.city.getD "") := if_pos hplace
    have hpincode : (queryFromRequirement p r 0).pincode = r.location.pincode := rfl
    simp only [matchesQuery, Bool.and_eq_true, haliases, hpincode, hcity] at h
    obtain ⟨⟨⟨⟨-, hcity'⟩, -⟩, -⟩, -⟩ := h
    simp only [Bool.or_eq_true, Bool.and_eq_true, Bool.not_true, Bool.false_eq_true, or_false]
      at hcity' ⊢
    rcases hcity' with (hnone | hmem) | ⟨hpin, -⟩
    · exact .inl (.inl (.inr hnone))
    · exact .inl (.inr hmem)
    · exact .inr hpin

theorem cityReachable_of_noneTooFar (hfar : NoneTooFar p m r) (hfound : retrievable p r t)
    (hloc : s.location = r.location) : cityReachable p t ⟨s, policy⟩ = none := by
  unfold cityReachable
  dsimp only
  rw [hloc]
  split
  · rfl
  · split
    · rfl
    · rename_i hknown
      simp only [not_or, Bool.not_eq_true', Bool.not_eq_false] at hknown
      obtain ⟨hplace, hcity⟩ := hknown
      have hret := cityRetrievable_of_retrievable hfound hplace hcity
      cases hsome : t.city with
      | none =>
        rw [hsome] at hcity
        cases hcity
      | some city =>
        rw [hsome] at hcity hret
        exact if_pos (hfar.1 hplace city (by simpa [present] using hcity) hret)

/-- No reach is shorter than a kilometre. -/
theorem one_le_clamp (value : Rat) : 1 ≤ clamp value 1 100 := le_max_left _ _

theorem withinTravelRadius_of_noneTooFar (hfar : NoneTooFar p m r) (hloc : s.location = r.location) :
    withinTravelRadius p m t ⟨s, policy⟩ = none := by
  rw [withinTravelRadius_eq_none_iff]
  dsimp only
  rw [hloc]
  cases hplace : r.location.hasCoordinates with
  | false => exact .inr (.inl rfl)
  | true => exact .inr (.inr fun point _ => (hfar.2 hplace point).trans (one_le_clamp _))

/-! ## Enough -/

section Enough

variable {table : TutorTable} {limit : Nat}

theorem matchesQuery_congr (h : SameButGuesses r s)
    (hlabels : coversLabel p (classLabels p r) t.capabilities.classes
      = coversLabel p (classLabels p s) t.capabilities.classes) :
    matchesQuery p t (queryFromRequirement p r limit)
      = matchesQuery p t (queryFromRequirement p s limit) := by
  have hsubjects : (queryFromRequirement p r limit).subjects
      = (queryFromRequirement p s limit).subjects := by
    refine (h.subject.eq (fun x => subjectTerms p ({ r with subject := x } : MatchRequirement).allSubjects)
      []).trans ?_
    have hall : ({ r with subject := s.subject } : MatchRequirement).allSubjects = s.allSubjects := by
      rw [MatchRequirement.allSubjects, MatchRequirement.allSubjects, h.additionalSubjects]
      rfl
    rw [hall]
    rfl
  have hmodes : (queryFromRequirement p r limit).mode = (queryFromRequirement p s limit).mode :=
    h.mode.eq (fun x => x.map Tracked.value) none
  have hgenders : (queryFromRequirement p r limit).gender
      = (queryFromRequirement p s limit).gender :=
    h.gender.eq (fun x => (some (p.lower ((x.map Tracked.value).getD ""))).filter (· ≠ "")) none
  have hlabels' : coversLabel p (queryFromRequirement p r limit).classLabels t.capabilities.classes
      = coversLabel p (queryFromRequirement p s limit).classLabels t.capabilities.classes := hlabels
  have haliases : (queryFromRequirement p r limit).cityAliases
      = (queryFromRequirement p s limit).cityAliases := by
    rw [queryFromRequirement, queryFromRequirement, h.location]
  have hpincode : (queryFromRequirement p r limit).pincode
      = (queryFromRequirement p s limit).pincode := by
    rw [queryFromRequirement, queryFromRequirement, h.location]
  have hfee : (queryFromRequirement p r limit).maxFee = (queryFromRequirement p s limit).maxFee := by
    rw [queryFromRequirement, queryFromRequirement, h.budget]
  rw [matchesQuery, matchesQuery, hsubjects, hmodes, hgenders, hlabels', haliases, hpincode, hfee]
  rfl

/-- Retrieval finds the same tutors. -/
theorem search_congr (h : SameButGuesses r s) (hu : Unmoved p m r s) :
    search p table (queryFromRequirement p r limit)
      = search p table (queryFromRequirement p s limit) := by
  have href : (queryFromRequirement p s limit).publicRef
      = (queryFromRequirement p r limit).publicRef := h.explicitTutorRef
  unfold search
  rw [href]
  rcases hu.labels with hexplicit | hlabels
  · have hexplicit' : present (queryFromRequirement p r limit).publicRef = true := hexplicit
    rw [if_pos hexplicit', if_pos hexplicit']
  · have hfilter : table.rows.filter (matchesQuery p · (queryFromRequirement p r limit))
        = table.rows.filter (matchesQuery p · (queryFromRequirement p s limit)) :=
      List.filter_congr fun t _ => matchesQuery_congr h (hlabels _)
    rw [hfilter]
    rfl

/-- What is found could be found. -/
theorem retrievable_of_mem_search (h : t ∈ search p table (queryFromRequirement p r limit)) :
    retrievable p r t := by
  have href : (queryFromRequirement p r limit).publicRef = r.explicitTutorRef := rfl
  unfold search at h
  unfold retrievable
  rw [href] at h
  split at h
  · rename_i hexplicit
    rw [if_pos hexplicit]
    have hfound := List.find?_some (Option.mem_toList.mp h)
    exact hfound
  · rename_i hexplicit
    rw [if_neg hexplicit]
    have hmem := (List.mem_insertionSort _).mp (List.mem_of_mem_take h)
    exact (List.mem_filter.mp hmem).2

/-- The rules say the same of a tutor who is found. -/
theorem accepted_congr (h : SameButGuesses r s) (hu : Unmoved p m r s)
    (hfound : retrievable p r t) :
    accepted p m t ⟨r, policy⟩ ↔ accepted p m t ⟨s, policy⟩ := by
  have hplaces : cityReachable p t ⟨r, policy⟩ = cityReachable p t ⟨s, policy⟩ ∧
      withinTravelRadius p m t ⟨r, policy⟩ = withinTravelRadius p m t ⟨s, policy⟩ := by
    rcases hu.home with hhome | hfar
    · exact ⟨cityReachable_congr h.location hhome, withinTravelRadius_congr h.location hhome⟩
    · exact ⟨(cityReachable_of_noneTooFar hfar hfound rfl).trans
          (cityReachable_of_noneTooFar hfar hfound h.location).symm,
        (withinTravelRadius_of_noneTooFar hfar rfl).trans
          (withinTravelRadius_of_noneTooFar hfar h.location).symm⟩
  have hexplicit : explicitTutorRequest t ⟨r, policy⟩ = explicitTutorRequest t ⟨s, policy⟩ := by
    unfold explicitTutorRequest
    dsimp only
    rw [h.explicitTutorRef]
  have hfee : feeWithinNegotiableRange m t ⟨r, policy⟩
      = feeWithinNegotiableRange m t ⟨s, policy⟩ := by
    unfold feeWithinNegotiableRange
    dsimp only
    rw [h.budget]
  have hactive : activeTutor t ⟨r, policy⟩ = activeTutor t ⟨s, policy⟩ := rfl
  rw [accepted_iff, accepted_iff, hactive, hexplicit, subjectSupported_congr h.subject,
    classSupported_congr h.studentClass, boardSupported_congr h.board hu.board,
    modeSupported_congr h.mode, genderIfRequested_congr h.gender, hplaces.1, hfee, hplaces.2]

theorem survivors_congr (h : SameButGuesses r s) (hu : Unmoved p m r s) :
    survivors p m table policy limit r = survivors p m table policy limit s := by
  unfold survivors
  rw [(partitioned_apply _ _).survivors, (partitioned_apply _ _).survivors, ← search_congr h hu]
  refine List.filter_congr fun t ht => ?_
  exact decide_eq_decide.mpr (accepted_congr h hu (retrievable_of_mem_search ht))

end Enough

/-! ## Needed -/

section Needed

variable {classes : List String} {city : String} {point : GeoPoint}

theorem cityReachable_of_noCity (h : t.city = none) : cityReachable p t ⟨r, policy⟩ = none := by
  simp [cityReachable, h, present]

theorem withinTravelRadius_of_noPoint (h : t.geo = none) :
    withinTravelRadius p m t ⟨r, policy⟩ = none := by
  rw [withinTravelRadius_eq_none_iff, h]
  exact .inr (.inr nofun)

theorem classSupported_of_unusable (h : usableForHardFilter r.studentClass = false) :
    classSupported p t ⟨r, policy⟩ = none := by
  simp [classSupported, h]

theorem classSupported_of_none (h : t.capabilities.classes = []) :
    classSupported p t ⟨r, policy⟩ = none := by
  simp [classSupported, h]

theorem boardSupported_of_none (h : t.capabilities.boards = []) :
    boardSupported p t ⟨r, policy⟩ = none := by
  simp [boardSupported, h]

/-- A tutor of no board is rejected where the board matters. -/
theorem boardSupported_blank_iff (husable : usableForHardFilter r.board = true)
    (hpresent : present (normalizeBoard p r.boardValue) = true)
    (hboards : t.capabilities.boards = [""]) :
    boardSupported p t ⟨r, policy⟩ = none ↔ boardMatters p r = false := by
  have hblank : normalizeBoard p (some "") = none := by
    have hempty : blank p "" = true := decide_eq_true rfl
    rw [normalizeBoard, Option.filter_some, hempty]
    rfl
  have hnot : normalizeBoard p r.boardValue ∉ [""].map fun b => normalizeBoard p (some b) := by
    rw [List.map_singleton, hblank, List.mem_singleton]
    intro h
    rw [h] at hpresent
    cases hpresent
  unfold boardSupported
  dsimp only
  rw [husable, hpresent, hboards, if_neg hnot, ← boardMatters]
  cases boardMatters p r <;> simp

/-- A tutor from another city is rejected where somebody has to travel. -/
theorem cityReachable_away_iff (hplace : present r.location.city = true) (hcity : city ≠ "")
    (haway : sameCity p r.location.city (some city) = false) (ht : t.city = some city) :
    cityReachable p t ⟨r, policy⟩ = none ↔ r.modeValue ≠ some .home := by
  have hknown : present (some city) = true := by simpa [present] using hcity
  unfold cityReachable
  dsimp only
  rw [ht, hplace, hknown, haway]
  by_cases hhome : r.modeValue = some .home <;> simp [hhome]

/-- So is one who travels half a kilometre, and has to come from more than one. -/
theorem withinTravelRadius_away_iff (hplace : r.location.hasCoordinates = true)
    (haway : 1 < m.haversineKm (parentPoint r.location) point) (ht : t.geo = some point)
    (hradius : t.travelRadiusKm = some (1 / 2)) :
    withinTravelRadius p m t ⟨r, policy⟩ = none ↔ r.modeValue ≠ some .home := by
  have hreach : clamp (effectiveRadius p t ⟨r, policy⟩ * (3 / 2)) 1 100 = 1 := by
    have hle : effectiveRadius p t ⟨r, policy⟩ ≤ 1 / 2 := by
      have hhalf : (t.travelRadiusKm.filter (· ≠ 0)).getD
          (policy.proximity.radiusFor (cityTier p
            (if present t.city then t.city else r.location.city))) = 1 / 2 := by
        rw [hradius, Option.filter_some, if_pos (by decide +kernel)]
        rfl
      unfold effectiveRadius
      dsimp only
      rw [hhalf]
      cases r.location.maxTravelKm.filter (· ≠ 0) with
      | none => exact le_refl _
      | some limit => exact min_le_left _ _
    refine max_eq_left ((min_le_right _ _).trans ?_)
    linarith
  rw [withinTravelRadius_eq_none_iff]
  dsimp only
  rw [hplace, hreach, ht]
  constructor
  · rintro (hmode | hfalse | hall)
    · exact hmode
    · cases hfalse
    · exact absurd (hall point rfl) (not_le.mpr haway)
  · exact .inl

/-- What a tutor who is retrieved for both tells apart. -/
theorem accepted_iff_of_survives (h : SameButGuesses r s)
    (heq : ∀ table limit, survivors p m table policy limit r = survivors p m table policy limit s)
    {classes boards : List String} {city : Option String} {geo : Option GeoPoint}
    (hr : retrievable p r (bareTutor r classes boards city geo))
    (hs : retrievable p s (bareTutor r classes boards city geo)) :
    accepted p m (bareTutor r classes boards city geo) ⟨r, policy⟩ ↔
      accepted p m (bareTutor r classes boards city geo) ⟨s, policy⟩ := by
  have hboth := survives_iff_of_eq heq (bareTutor r classes boards city geo)
  rw [hr, hs] at hboth
  simpa using hboth

theorem unmoved_labels (h : SameButGuesses r s)
    (heq : ∀ table limit, survivors p m table policy limit r = survivors p m table policy limit s) :
    present r.explicitTutorRef ∨
      ∀ taught, coversLabel p (classLabels p r) taught = coversLabel p (classLabels p s) taught := by
  by_cases hexplicit : present r.explicitTutorRef = true
  · exact .inl hexplicit
  refine .inr fun taught => ?_
  rcases h.studentClass with hsame | ⟨hr, hs⟩
  · have hvalue : r.classValue = s.classValue := by
      rw [MatchRequirement.classValue, MatchRequirement.classValue, hsame]
    rw [classLabels, classLabels, queryFromRequirement, queryFromRequirement, hvalue]
  · -- the tutor is accepted by both, so it is retrieval that has to agree
    have hacc : ∀ x : MatchRequirement, x.explicitTutorRef = r.explicitTutorRef →
        usableForHardFilter x.studentClass = false →
        accepted p m (bareTutor r taught [] none none) ⟨x, policy⟩ := fun x hx hunusable =>
      (accepted_bareTutor_iff hx).mpr ⟨classSupported_of_unusable hunusable,
        boardSupported_of_none rfl, cityReachable_of_noCity rfl, withinTravelRadius_of_noPoint rfl⟩
    have hboth := survives_iff_of_eq heq (bareTutor r taught [] none none)
    rw [retrievable_bareTutor rfl rfl, retrievable_bareTutor h.explicitTutorRef h.location,
      Bool.eq_false_iff.mpr hexplicit] at hboth
    have hnoCity : present none = false := rfl
    simp only [hacc r rfl hr, hacc s h.explicitTutorRef hs, hnoCity, Bool.false_or, Bool.not_false,
      Bool.or_true, Bool.true_or, Bool.and_true, and_true] at hboth
    exact Bool.eq_iff_iff.mpr hboth

theorem coversLabel_nil {labels : List String} : coversLabel p labels [] = true := by
  cases labels <;> rfl

theorem unmoved_board (h : SameButGuesses r s)
    (heq : ∀ table limit, survivors p m table policy limit r = survivors p m table policy limit s)
    (husable : usableForHardFilter r.board = true)
    (hpresent : present (normalizeBoard p r.boardValue) = true) :
    boardMatters p r = boardMatters p s := by
  have hsame : r.board = s.board := by
    rcases h.board with hsame | ⟨hr, -⟩
    · exact hsame
    · rw [hr] at husable
      cases husable
  have hvalue : s.boardValue = r.boardValue := by
    rw [MatchRequirement.boardValue, MatchRequirement.boardValue, hsame]
  have hret : ∀ x : MatchRequirement, x.explicitTutorRef = r.explicitTutorRef →
      x.location = r.location → retrievable p x (bareTutor r [] [""] none none) = true := by
    intro x hx hloc
    rw [retrievable_bareTutor hx hloc, coversLabel_nil]
    simp [present]
  have hrejected : ∀ x : MatchRequirement, x.explicitTutorRef = r.explicitTutorRef →
      usableForHardFilter x.board = true → present (normalizeBoard p x.boardValue) = true →
      (accepted p m (bareTutor r [] [""] none none) ⟨x, policy⟩ ↔ boardMatters p x = false) := by
    intro x hx husable hpresent
    have hverdict : boardSupported p (bareTutor r [] [""] none none) ⟨x, policy⟩ = none ↔
        boardMatters p x = false := boardSupported_blank_iff husable hpresent rfl
    rw [accepted_bareTutor_iff hx, ← hverdict]
    exact ⟨fun hall => hall.2.1, fun hboard => ⟨classSupported_of_none rfl, hboard,
      cityReachable_of_noCity rfl, withinTravelRadius_of_noPoint rfl⟩⟩
  have hboth := accepted_iff_of_survives h heq (hret r rfl rfl)
    (hret s h.explicitTutorRef h.location)
  rw [hrejected r rfl husable hpresent,
    hrejected s h.explicitTutorRef (hsame ▸ husable) (hvalue ▸ hpresent)] at hboth
  cases hr : boardMatters p r <;> cases hs : boardMatters p s <;> simp_all

theorem unmoved_home (h : SameButGuesses r s)
    (heq : ∀ table limit, survivors p m table policy limit r = survivors p m table policy limit s) :
    (r.modeValue = some .home ↔ s.modeValue = some .home) ∨ NoneTooFar p m r := by
  by_contra hnot
  obtain ⟨hmodes, hfar⟩ := not_or.mp hnot
  -- a tutor whom both retrieve, and whom only the rules for home tuition reject
  suffices hsame : r.modeValue ≠ some .home ↔ s.modeValue ≠ some .home from
    hmodes (not_iff_not.mp hsame)
  rcases not_and_or.mp hfar with hcity | hpoint
  · obtain ⟨hplace, city, hne, hret, haway⟩ : present r.location.city = true ∧ ∃ city, city ≠ "" ∧
        cityRetrievable p r city = true ∧ sameCity p r.location.city (some city) = false := by
      push Not at hcity
      obtain ⟨hplace, city, hne, hret, haway⟩ := hcity
      exact ⟨hplace, city, hne, hret, by simpa using haway⟩
    have hfound : ∀ x : MatchRequirement, x.explicitTutorRef = r.explicitTutorRef →
        x.location = r.location →
        retrievable p x (bareTutor r [] [] (some city) none) = true := by
      intro x hx hloc
      rw [retrievable_bareTutor hx hloc, coversLabel_nil, Option.getD_some, hret]
      simp
    have hacc : ∀ x : MatchRequirement, x.explicitTutorRef = r.explicitTutorRef →
        x.location = r.location →
        (accepted p m (bareTutor r [] [] (some city) none) ⟨x, policy⟩ ↔
          x.modeValue ≠ some .home) := by
      intro x hx hloc
      have hverdict : cityReachable p (bareTutor r [] [] (some city) none) ⟨x, policy⟩ = none ↔
          x.modeValue ≠ some .home := cityReachable_away_iff (hloc ▸ hplace) hne (hloc ▸ haway) rfl
      rw [← hverdict, accepted_bareTutor_iff hx]
      exact ⟨fun hall => hall.2.2.1, fun hcity => ⟨classSupported_of_none rfl,
        boardSupported_of_none rfl, hcity, withinTravelRadius_of_noPoint rfl⟩⟩
    have hboth := accepted_iff_of_survives h heq (hfound r rfl rfl)
      (hfound s h.explicitTutorRef h.location)
    rwa [hacc r rfl rfl, hacc s h.explicitTutorRef h.location] at hboth
  · obtain ⟨hplace, point, haway⟩ : r.location.hasCoordinates = true ∧
        ∃ point, 1 < m.haversineKm (parentPoint r.location) point := by
      push Not at hpoint
      exact hpoint
    have hfound : ∀ x : MatchRequirement, x.explicitTutorRef = r.explicitTutorRef →
        x.location = r.location →
        retrievable p x (bareTutor r [] [] none (some point)) = true := by
      intro x hx hloc
      rw [retrievable_bareTutor hx hloc, coversLabel_nil]
      simp [present]
    have hacc : ∀ x : MatchRequirement, x.explicitTutorRef = r.explicitTutorRef →
        x.location = r.location →
        (accepted p m (bareTutor r [] [] none (some point)) ⟨x, policy⟩ ↔
          x.modeValue ≠ some .home) := by
      intro x hx hloc
      have hverdict : withinTravelRadius p m (bareTutor r [] [] none (some point)) ⟨x, policy⟩ = none
          ↔ x.modeValue ≠ some .home :=
        withinTravelRadius_away_iff (hloc ▸ hplace) (hloc ▸ haway) rfl rfl
      rw [← hverdict, accepted_bareTutor_iff hx]
      exact ⟨fun hall => hall.2.2.2, fun hradius => ⟨classSupported_of_none rfl,
        boardSupported_of_none rfl, cityReachable_of_noCity rfl, hradius⟩⟩
    have hboth := accepted_iff_of_survives h heq (hfound r rfl rfl)
      (hfound s h.explicitTutorRef h.location)
    rwa [hacc r rfl rfl, hacc s h.explicitTutorRef h.location] at hboth

end Needed

/-- **A guess makes no difference**, whatever tutors there are, exactly if it goes nowhere. -/
theorem survivors_eq_iff (p : Platform) (m : Measures) (policy : ScoringPolicy)
    {r s : MatchRequirement} (h : SameButGuesses r s) :
    (∀ table limit, survivors p m table policy limit r = survivors p m table policy limit s) ↔
      Unmoved p m r s := by
  constructor
  · intro heq
    exact ⟨unmoved_labels h heq, unmoved_board h heq, unmoved_home h heq⟩
  · exact fun hu table limit => survivors_congr h hu

/-! ## A class that a model made up -/

/-- Nothing is known of the class. -/
def withoutClass : MatchRequirement where
  conversationId := "c1"
  subject := some { value := "Maths" }

/-- A model took it for Class 10. -/
def withGuessedClass : MatchRequirement :=
  { withoutClass with
    studentClass := some { value := "Class 10", confidence := 1 / 2, provenance := .llm } }

/-- A tutor for small children. -/
def primaryTutor : TutorCandidate where
  tutorId := "t1"
  publicRef := "dDEtbnh0"
  name := "Asha"
  capabilities := { subjects := ["Mathematics"], classes := ["Class 1-5"] }
  freshness := .fresh

theorem sameButGuesses_class : SameButGuesses withoutClass withGuessedClass where
  rest := rfl
  subject := .inl rfl
  studentClass := .inr ⟨rfl, by decide +kernel⟩
  board := .inl rfl
  mode := .inl rfl
  gender := .inl rfl

/-- The guess deletes the only tutor there is. -/
theorem guess_narrows : SameButGuesses withoutClass withGuessedClass ∧
    survivors ascii meridian (tableOf primaryTutor) basePolicy 10 withoutClass = [primaryTutor] ∧
    survivors ascii meridian (tableOf primaryTutor) basePolicy 10 withGuessedClass = [] :=
  ⟨sameButGuesses_class, by decide, by decide⟩

theorem guess_narrows_iff :
    (∀ table limit, survivors ascii meridian table basePolicy limit withoutClass
      = survivors ascii meridian table basePolicy limit withGuessedClass) ↔
      Unmoved ascii meridian withoutClass withGuessedClass :=
  survivors_eq_iff ascii meridian basePolicy sameButGuesses_class

end NxTutors.Matching
