import NxTutors.Matching.Scores

/-!
# Three skills

What the academic fit, the subject expertise and the past performance of a tutor are scored by. The
reason codes of the first two are read again where it is decided what a parent is told, so what they
mean is shown here: `classExact_mem_iff` and `subjectsAllCovered_mem_iff`. A rating is scored only
where there are enough reviews, `quotable_performance`.
-/

namespace NxTutors.Matching

open Text MatchAgent

variable (p : Platform)

/-! ## Academic fit -/

/-- Grades away from what is taught at which the fit is nothing. -/
def GRADE_TOLERANCE : Nat := 4

def gradesApart (m n : Nat) : Nat := max m n - min m n

/-- The grades among some classes. -/
def gradesOf (classes : List String) : List Nat :=
  (classes.filterMap fun c => classNumber p (some c)).filter (· ≠ 0)

def classFit (requiredClass : String) (t : TutorCandidate) : Rat × String :=
  if teachesClass p (some requiredClass) t.capabilities.classes then (1, "class_exact")
  else
    match classNumber p (some requiredClass), gradesOf p t.capabilities.classes with
    | none, _ => (1 / 2, "class_unparsed")
    | some _, [] => (1 / 2, "class_unparsed")
    | some want, n :: ns =>
      let distance := ((n :: ns).map (gradesApart want)).foldl min (gradesApart want n)
      if GRADE_TOLERANCE ≤ distance then (0, "class_far:" ++ toString distance)
      else
        -- from Class 10 to Class 11 is further than the grades say
        let crosses := (n :: ns).any fun n => decide (10 < want) != decide (10 < n)
        let penalty : Rat := if crosses then 35 / 100 else 0
        (max 0 (1 - distance / GRADE_TOLERANCE - penalty), "class_near:" ++ toString distance)

def boardFit (requiredBoard : String) (t : TutorCandidate) (grade : Option Nat) : Rat × String :=
  let want := normalizeBoard p (some requiredBoard)
  if want ∈ t.capabilities.boards.map (normalizeBoard p <| some ·) then (1, "board_exact")
  else if boardIsMandatory p want grade then (0, "board_mismatch_mandatory")
  else (55 / 100, "board_mismatch_tolerable")

def examFit (requiredExam : String) (t : TutorCandidate) : Rat × String :=
  match (EXAM_SUBJECTS.lookup requiredExam).getD [] with
  | [] =>
    if t.capabilities.classes.any fun c => (classNumber p (some c)).any (9 ≤ ·) then
      (8 / 10, "exam_senior_capable")
    else (4 / 10, "exam_unverified")
  | subject :: subjects =>
    let needed := subject :: subjects
    let covered := needed.countP fun s => p.lower s ∈ t.capabilities.subjects.map p.lower
    if covered = 0 then (0, "exam_no_subject_overlap:" ++ requiredExam)
    else
      (covered / needed.length,
        "exam_subject_overlap:" ++ toString covered ++ "/" ++ toString needed.length)

/-- What is compared, with its weight: the class, where one is asked for and some are taught. -/
def classPart (t : TutorCandidate) (c : EvaluationContext) : List ((Rat × String) × Rat) :=
  if present c.requirement.classValue && t.capabilities.classes ≠ [] then
    [(classFit p (c.requirement.classValue.getD "") t, 45 / 100)]
  else []

def boardPart (t : TutorCandidate) (c : EvaluationContext) : List ((Rat × String) × Rat) :=
  if present c.requirement.boardValue && t.capabilities.boards ≠ [] then
    [(boardFit p (c.requirement.boardValue.getD "") t (classNumber p c.requirement.classValue),
      40 / 100)]
  else []

def examPart (t : TutorCandidate) (c : EvaluationContext) : List ((Rat × String) × Rat) :=
  let requiredExam := normalizeExam p c.requirement.examValue
  if present requiredExam then [(examFit p (requiredExam.getD "") t, 15 / 100)] else []

/-- The class and the board come with evidence, the exam with none. -/
def academicEvidence (t : TutorCandidate) (c : EvaluationContext) : List Evidence :=
  ((classPart p t c).map fun _ => evidence "website.teacher_courses" "for_class"
    (", ".intercalate (t.capabilities.classes.take 4)) t.sourceUpdatedAt) ++
  (boardPart p t c).map fun _ => evidence "website.teacher_courses" "board"
    (", ".intercalate (t.capabilities.boards.take 4)) t.sourceUpdatedAt

/-- `AcademicCompatibilityEvaluator.evaluate`. -/
def academic (t : TutorCandidate) (c : EvaluationContext) : SkillScore :=
  let flags :=
    (if present c.requirement.classValue && t.capabilities.classes = [] then
      ["tutor_classes_unknown"] else []) ++
    if present c.requirement.boardValue && t.capabilities.boards = [] then
      ["tutor_boards_unknown"] else []
  let parts := classPart p t c ++ boardPart p t c ++ examPart p t c
  if parts = [] then
    build .academic c.policy.thresholds.neutralScore (1 / 10) .missing [] flags
      ["no_academic_signals"] (fun h => by cases h)
  else
    let coverage := (parts.map Prod.snd).sum
    build .academic ((parts.map fun x => x.1.1 * x.2).sum / coverage) (55 / 100 + 4 / 10 * coverage)
      (if academicEvidence p t c = [] then .gaps else if 8 / 10 ≤ coverage then .ok else .gaps)
      (academicEvidence p t c) flags (parts.map (·.1.2)) (fun h hnone => by
        rw [if_pos hnone] at h
        cases h)

/-! ## Subject expertise -/

/-- How deep the knowledge of a subject needs to go, or goes. -/
inductive Depth
  | foundation | intermediate | advanced | specialist
  deriving DecidableEq, Repr

def Depth.toNat : Depth → Nat
  | .foundation => 1
  | .intermediate => 2
  | .advanced => 3
  | .specialist => 4

/-- `depth.name.lower()`. -/
def Depth.name : Depth → String
  | .foundation => "foundation"
  | .intermediate => "intermediate"
  | .advanced => "advanced"
  | .specialist => "specialist"

/-- One deeper, if there is one. -/
def Depth.deeper : Depth → Depth
  | .foundation => .intermediate
  | .intermediate => .advanced
  | .advanced => .specialist
  | .specialist => .specialist

/-- `_HIGH_EDUCATION`. -/
def HIGH_EDUCATION : List String :=
  ["phd", "mphil", "postgrad", "masters", "msc", "ma", "mtech", "mba", "med"]

/-- `_TEACHING_QUALIFICATION`. -/
def TEACHING_QUALIFICATION : List String := ["bed", "med", "ctet", "tet", "netqualified", "net"]

def requiredDepth (c : EvaluationContext) : Depth :=
  if normalizeExam p c.requirement.examValue ∈ [some "JEE", some "NEET", some "Olympiad"] then
    .specialist
  else
    match classNumber p c.requirement.classValue with
    | none => .intermediate
    | some grade =>
      if grade ≤ 5 then .foundation else if grade ≤ 8 then .intermediate
      else if grade ≤ 10 then .advanced else .specialist

/-- From the highest class that is taught, and from the education. -/
def tutorDepth (t : TutorCandidate) : Depth × List Evidence :=
  let highest := (gradesOf p t.capabilities.classes).max?
  let depth := match highest with
    | none => .intermediate
    | some n =>
      if 11 ≤ n then .specialist else if 9 ≤ n then .advanced
      else if 6 ≤ n then .intermediate else .foundation
  let classEvidence := match highest with
    | none => []
    | some n => [evidence "website.teacher_courses" "highest_class" ("Class " ++ toString n) none]
  let educationKey := normalizeKey p (t.education.getD "")
  let educationEvidence := [evidence "website.register" "education" (t.education.getD "") none]
  if educationKey ≠ "" ∧ containsAny educationKey HIGH_EDUCATION then
    (depth.deeper, classEvidence ++ educationEvidence)
  else if educationKey ≠ "" ∧ containsAny educationKey TEACHING_QUALIFICATION then
    (depth, classEvidence ++ educationEvidence)
  else (depth, classEvidence)

/-- Too deep costs a little, and not deep enough a lot. -/
def depthScore (required actual : Depth) : Rat :=
  if actual = required then 1
  else if required.toNat < actual.toNat then
    max (75 / 100) (1 - 12 / 100 * (actual.toNat - required.toNat))
  else max 0 (1 - 4 / 10 * (required.toNat - actual.toNat))

def adjacencyBonus (required : List String) (t : TutorCandidate) : Rat :=
  let pairs := (required.flatMap fun want => t.capabilities.subjects.filter (isAdjacent p want)).length
  min (5 / 100) (25 / 1000 * pairs)

/-- `SubjectExpertiseEvaluator.evaluate`. -/
def subjectExpertise (t : TutorCandidate) (c : EvaluationContext) : SkillScore :=
  let required := c.requirement.allSubjects
  if required = [] then
    build .subjectExpertise c.policy.thresholds.neutralScore (1 / 10) .missing [] []
      ["no_subject_requested"] (fun h => by cases h)
  else if t.capabilities.subjects = [] then
    build .subjectExpertise c.policy.thresholds.neutralScore (1 / 10) .missing []
      ["tutor_subjects_unknown"] ["tutor_subjects_unknown"] (fun h => by cases h)
  else
    let missing := required.filter (!matchesAny p · t.capabilities.subjects)
    let coverage : Rat := (required.length - missing.length) / required.length
    let needed := requiredDepth p c
    let depth := tutorDepth p t
    let score := 7 / 10 * coverage + 3 / 10 * depthScore needed depth.1
    let adjacency := adjacencyBonus p required t
    build .subjectExpertise (if 0 < adjacency then clamp (score + adjacency) 0 1 else score)
      (if 0 < coverage then 85 / 100 else 1 / 2) (if 0 < coverage then .ok else .gaps)
      (evidence "website.teacher_courses" "subject"
        (", ".intercalate (t.capabilities.subjects.take 5)) t.sourceUpdatedAt :: depth.2)
      ((if missing ≠ [] then ["subject_gap:" ++ ",".intercalate (missing.take 3)] else []) ++
        if depth.1.toNat < needed.toNat then ["depth_shortfall:" ++ needed.name] else [])
      ([if missing ≠ [] then
          "subjects_missing:" ++ toString missing.length ++ "/" ++ toString required.length
        else "subjects_all_covered",
        "depth:" ++ depth.1.name ++ "_vs_" ++ needed.name] ++
        if 0 < adjacency then ["adjacent_subject_support"] else [])
      (fun _ => List.cons_ne_nil _ _)

/-! ## Past performance -/

/-- What floating point computes for reviews. -/
structure Floating extends Measures where
  /-- `0.5 ** x` -/
  halved : Rat → Rat
  sqrt : Rat → Rat

/-- The average, with the prior mixed in. -/
def shrunkRating (ratingAvg : Option Rat) (count : Nat) (policy : ReviewPrior) : Option Rat :=
  if count = 0 then none
  else ratingAvg.map fun rating =>
    roundTo 3 ((count * rating + policy.priorWeight * policy.priorMean) /
      (count + policy.priorWeight))

variable (f : Floating) (now : Time)

/-- One when fresh, a half after a half-life, and never less than a quarter. -/
def recencyFactor (latest : Option Time) (halfLifeDays : Rat) : Rat :=
  match latest with
  | none => 1
  | some at' =>
    if halfLifeDays ≤ 0 then 1
    else
      let ageDays : Rat := max 0 ((now - at' : Int) / (86400 * 1000000))
      roundTo 3 (max (1 / 4) (f.halved (ageDays / halfLifeDays)))

def confidenceFromSample (count fullConfidenceAt : Nat) : Rat :=
  if count = 0 ∨ fullConfidenceAt = 0 then 0
  else roundTo 3 (min 1 (f.sqrt (count / fullConfidenceAt)))

/-- Experience alone never scores high. -/
def experienceScore (t : TutorCandidate) : Option Rat :=
  t.experienceYears.map fun years => 45 / 100 + 3 / 10 * clamp (years / 12) 0 1

def experienceOnly (t : TutorCandidate) (c : EvaluationContext) (reason : String) : SkillScore :=
  match experienceScore t with
  | none =>
    build .performance c.policy.thresholds.neutralScore (1 / 10) .missing [] ["no_outcome_evidence"]
      [reason, "no_experience_data"] (fun h => by cases h)
  | some score =>
    build .performance score (35 / 100) .insufficient
      [evidence "website.register" "experience" (toString (t.experienceYears.getD 0) ++ " years") none]
      ["no_review_evidence"] [reason, "experience_proxy"] (fun h => by cases h)

/-- `PerformanceEvaluator.evaluate`. -/
def performance (t : TutorCandidate) (c : EvaluationContext) : SkillScore :=
  let policy := c.policy.reviews
  let reviews := t.reviews
  let countEvidence := evidence "website.teacher_review" "count" (toString reviews.count) none
  if reviews.count = 0 then experienceOnly t c "no_reviews"
  else if reviews.count < policy.minReviewsForRating then
    build .performance ((experienceScore t).getD c.policy.thresholds.neutralScore) (1 / 4)
      .insufficient [countEvidence] ["low_review_sample:" ++ toString reviews.count]
      ["below_min_review_sample"] (fun h => by cases h)
  else
    match shrunkRating reviews.ratingAvg reviews.count policy with
    | none => experienceOnly t c "ratings_unparseable"
    | some shrunk =>
      let recency := recencyFactor f now reviews.latestReviewAt policy.recencyHalfLifeDays
      let prior := clamp (policy.priorMean / 5) 0 1
      let score := prior + (clamp (shrunk / 5) 0 1 - prior) * recency
      let score := match reviews.reliabilityAvg with
        | none => score
        | some reliability => 75 / 100 * score + 25 / 100 * clamp (reliability / 5) 0 1
      build .performance score
        (clamp (4 / 10 + 1 / 2 * confidenceFromSample f reviews.count policy.fullConfidenceAt) 0 1)
        (if recency < 1 / 2 then .stale else .ok)
        [evidence "website.teacher_review" "rating_avg"
          (match reviews.ratingAvg.filter (· ≠ 0) with
            | none => "n/a"
            | some rating => f.fixed 1 rating) reviews.latestReviewAt, countEvidence]
        ((if recency < 1 / 2 then ["reviews_stale"] else []) ++
          if reviews.count < policy.fullConfidenceAt then
            ["modest_review_sample:" ++ toString reviews.count] else [])
        ["shrunk_rating:" ++ f.fixed 2 shrunk, "recency:" ++ f.fixed 2 recency]
        (fun _ => List.cons_ne_nil _ _)

/-! ## What the codes mean -/

section Codes

variable {p f now} {t : TutorCandidate} {c : EvaluationContext}

/-- A text that begins another way is another one. -/
theorem append_ne {start rest text : String} (h : start.toList.isPrefixOf text.toList = false) :
    start ++ rest ≠ text := by
  rintro rfl
  rw [String.toList_append, List.isPrefixOf_iff_prefix.mpr (List.prefix_append _ _)] at h
  cases h

/-- The class is covered. -/
theorem classFit_eq_exact_iff {requiredClass : String} :
    (classFit p requiredClass t).2 = "class_exact" ↔
      teachesClass p (some requiredClass) t.capabilities.classes = true := by
  have hfar (n : String) : "class_far:" ++ n ≠ "class_exact" := append_ne (by decide)
  have hnear (n : String) : "class_near:" ++ n ≠ "class_exact" := append_ne (by decide)
  have hunparsed : "class_unparsed" ≠ "class_exact" := by decide
  unfold classFit
  by_cases hclass : teachesClass p (some requiredClass) t.capabilities.classes = true
  · rw [if_pos hclass]
    exact iff_of_true rfl hclass
  · rw [if_neg hclass]
    refine iff_of_false ?_ hclass
    cases classNumber p (some requiredClass) with
    | none => exact hunparsed
    | some want =>
      cases gradesOf p t.capabilities.classes with
      | nil => exact hunparsed
      | cons n ns =>
        dsimp only
        split
        · exact hfar _
        · exact hnear _

theorem boardFit_ne_exact {requiredBoard : String} {grade : Option Nat} :
    (boardFit p requiredBoard t grade).2 ≠ "class_exact" := by
  unfold boardFit
  dsimp only
  split_ifs <;> decide

theorem examFit_ne_exact {requiredExam : String} :
    (examFit p requiredExam t).2 ≠ "class_exact" := by
  unfold examFit
  cases (EXAM_SUBJECTS.lookup requiredExam).getD [] with
  | nil =>
    dsimp only
    split_ifs <;> decide
  | cons subject subjects =>
    dsimp only
    split_ifs
    · exact append_ne (by decide)
    · rw [String.append_assoc, String.append_assoc]
      exact append_ne (by decide)

theorem reasonCodes_academic
    (h : classPart p t c ++ boardPart p t c ++ examPart p t c ≠ []) :
    (academic p t c).reasonCodes
      = (classPart p t c ++ boardPart p t c ++ examPart p t c).map (·.1.2) := by
  rw [academic, if_neg h, reasonCodes_build]

/-- What the class adds to the codes. -/
theorem mem_classPart_iff {x : (Rat × String) × Rat} :
    x ∈ classPart p t c ↔ (present c.requirement.classValue ∧ t.capabilities.classes ≠ []) ∧
      x = (classFit p (c.requirement.classValue.getD "") t, 45 / 100) := by
  unfold classPart
  by_cases h : present c.requirement.classValue ∧ t.capabilities.classes ≠ []
  · simp [h]
  · rw [if_neg (by simpa using h)]
    simp [h]

theorem classFit_mem (h : present c.requirement.classValue ∧ t.capabilities.classes ≠ []) :
    (classFit p (c.requirement.classValue.getD "") t, 45 / 100) ∈ classPart p t c :=
  mem_classPart_iff.mpr ⟨h, rfl⟩

/-- **The class code** stands for a class that is asked for and covered by what is taught. -/
theorem classExact_mem_iff :
    "class_exact" ∈ (academic p t c).reasonCodes ↔
      (present c.requirement.classValue ∧ t.capabilities.classes ≠ []) ∧
      teachesClass p (some (c.requirement.classValue.getD "")) t.capabilities.classes := by
  have hboard : ∀ x ∈ boardPart p t c, x.1.2 ≠ "class_exact" := by
    intro x hx
    unfold boardPart at hx
    split_ifs at hx
    · rw [List.mem_singleton.mp hx]
      exact boardFit_ne_exact
    · cases hx
  have hexam : ∀ x ∈ examPart p t c, x.1.2 ≠ "class_exact" := by
    intro x hx
    unfold examPart at hx
    dsimp only at hx
    split_ifs at hx
    · rw [List.mem_singleton.mp hx]
      exact examFit_ne_exact
    · cases hx
  by_cases hparts : classPart p t c ++ boardPart p t c ++ examPart p t c = []
  · -- nothing is compared, and the class would have been
    have hnone : classPart p t c = [] := (List.append_eq_nil_iff.mp (List.append_eq_nil_iff.mp hparts).1).1
    have hcode : (academic p t c).reasonCodes = ["no_academic_signals"] := by
      rw [academic, if_pos hparts, reasonCodes_build]
    rw [hcode]
    refine iff_of_false (by decide) fun ⟨hboth, _⟩ => ?_
    have hmem := classFit_mem (p := p) hboth
    rw [hnone] at hmem
    cases hmem
  · rw [reasonCodes_academic hparts]
    constructor
    · intro hmem
      obtain ⟨x, hx, hcode⟩ := List.mem_map.mp hmem
      rcases List.mem_append.mp hx with hx | hx
      · rcases List.mem_append.mp hx with hx | hx
        · obtain ⟨hboth, rfl⟩ := mem_classPart_iff.mp hx
          exact ⟨hboth, classFit_eq_exact_iff.mp hcode⟩
        · exact absurd hcode (hboard x hx)
      · exact absurd hcode (hexam x hx)
    · rintro ⟨hboth, hcovered⟩
      refine List.mem_map.mpr ⟨(classFit p (c.requirement.classValue.getD "") t, 45 / 100), ?_, ?_⟩
      · exact List.mem_append_left _ (List.mem_append_left _ (classFit_mem hboth))
      · exact classFit_eq_exact_iff.mpr hcovered

/-- And where it stands, the fit may be cited. -/
theorem quotable_academic (h : "class_exact" ∈ (academic p t c).reasonCodes) :
    (academic p t c).quotable = true := by
  have hclass := classFit_mem (p := p) (classExact_mem_iff.mp h).1
  have hparts : classPart p t c ++ boardPart p t c ++ examPart p t c ≠ [] :=
    List.ne_nil_of_mem (List.mem_append_left _ (List.mem_append_left _ hclass))
  have hevidence : academicEvidence p t c ≠ [] :=
    List.ne_nil_of_mem (List.mem_append_left _ (List.mem_map_of_mem hclass))
  rw [academic, if_neg hparts, quotable_build, if_neg hevidence, decide_eq_true hevidence]
  split_ifs <;> rfl

/-- **The subject code** stands for subjects that are all among what is taught. -/
theorem matchesAny_of_covered {subject : String}
    (h : "subjects_all_covered" ∈ (subjectExpertise p t c).reasonCodes)
    (hsubject : subject ∈ c.requirement.allSubjects) :
    matchesAny p subject t.capabilities.subjects = true := by
  have hmissing (rest : String) : "subjects_missing:" ++ rest ≠ "subjects_all_covered" :=
    append_ne (by decide)
  have hdepth (rest : String) : "depth:" ++ rest ≠ "subjects_all_covered" := append_ne (by decide)
  by_cases hrequired : c.requirement.allSubjects = []
  · rw [hrequired] at hsubject
    cases hsubject
  by_cases htaught : t.capabilities.subjects = []
  · rw [subjectExpertise, if_neg hrequired, if_pos htaught, reasonCodes_build] at h
    exact absurd h (by decide)
  rw [subjectExpertise, if_neg hrequired, if_neg htaught, reasonCodes_build] at h
  have hnone : c.requirement.allSubjects.filter (!matchesAny p · t.capabilities.subjects) = [] := by
    by_contra hsome
    rw [if_pos hsome] at h
    rcases List.mem_append.mp h with h | h
    · rcases List.mem_pair.mp h with h | h
      · rw [String.append_assoc, String.append_assoc] at h
        exact hmissing _ h.symm
      · rw [String.append_assoc, String.append_assoc] at h
        exact hdepth _ h.symm
    · split_ifs at h
      · exact absurd h (by decide)
      · cases h
  have hcovered := List.filter_eq_nil_iff.mp hnone subject hsubject
  simpa using hcovered

/-- **A performance that may be cited** rests on enough reviews, and on a rating. -/
theorem of_quotable_performance (h : (performance f now t c).quotable = true) :
    c.policy.reviews.minReviewsForRating ≤ t.reviews.count ∧ t.reviews.ratingAvg.isSome = true := by
  have honly (reason : String) : (experienceOnly t c reason).quotable = false := by
    unfold experienceOnly
    cases experienceScore t with
    | none => rfl
    | some score => rfl
  by_cases hcount : t.reviews.count = 0
  · rw [performance, if_pos hcount, honly] at h
    cases h
  by_cases hfew : t.reviews.count < c.policy.reviews.minReviewsForRating
  · rw [performance, if_neg hcount, if_pos hfew, quotable_build] at h
    cases h
  refine ⟨not_lt.mp hfew, ?_⟩
  cases hrating : t.reviews.ratingAvg with
  | some rating => rfl
  | none =>
    have hshrunk : shrunkRating t.reviews.ratingAvg t.reviews.count c.policy.reviews = none := by
      rw [shrunkRating, if_neg hcount, hrating]
      rfl
    rw [performance, if_neg hcount, if_neg hfew] at h
    simp only [hshrunk, honly] at h
    cases h

end Codes

end NxTutors.Matching
