import NxTutors.Matching.Evaluators
import Mathlib.Data.List.ReduceOption

/-!
# What is told of a tutor

The entry of a tutor in a shortlist is put together from claims, each of which a guard approves if
the skill that it rests on may be cited; a question about one tutor is answered with a summary of
the row, which no guard looks at. Both are lists of sentences here, each with its text and with what
it says the tutor teaches or is rated at (`Fact`).

Classes and subjects are named only where they are covered. A board is named because the parent
wants it, and a rating in the summary because there is one: `grounded_iff` says when that is right.
-/

namespace NxTutors.Matching

open Text MatchAgent

/-! ## Sentences -/

/-- What may be said to be taught by a tutor, or thought of one. -/
inductive Fact
  | board (name : String)
  | studentClass (label : String)
  | subject (name : String)
  | rating (average : Rat)
  deriving DecidableEq, Repr

/-- Everything that may be told, under the templates of the source. -/
inductive Sentence
  | verbatim (text : String)
  | alreadyTeaches (board : Option String) (studentClass : String)
  | teaches (subject : String)
  | basedIn (place : String)
  | ratedAcross (average : Rat) (count : Nat)
  | experienced (years : Nat)
  | matchesStyle
  | toBeConfirmed
  /-- the line of a summary -/
  | teachesAll (subjects classes boards : List String)
  /-- the line of a summary -/
  | summaryRating (average : Rat) (count : Nat)
  /-- the line of a summary -/
  | onFile (count : Nat)
  deriving DecidableEq, Repr

/-- `'s' if n != 1 else ''`. -/
def plural (n : Nat) : String := if n = 1 then "" else "s"

namespace Sentence

def text (m : Measures) : Sentence → String
  | verbatim text => text
  | alreadyTeaches none studentClass => "already teaches " ++ studentClass
  | alreadyTeaches (some board) studentClass => "already teaches " ++ board ++ " " ++ studentClass
  | teaches subject => "teaches " ++ subject
  | basedIn place => "based in " ++ place
  | ratedAcross average count =>
    "rated " ++ m.fixed 1 average ++ " across " ++ toString count ++ " reviews"
  | experienced years => toString years ++ " years of teaching experience"
  | matchesStyle => "matches the teaching style you asked for"
  | toBeConfirmed => "available for this requirement; details to be confirmed"
  | teachesAll subjects classes boards =>
    " ".intercalate
      ((if subjects = [] then [] else ["Teaches " ++ ", ".intercalate subjects]) ++
      (if classes = [] then [] else ["for " ++ ", ".intercalate classes]) ++
      if boards = [] then [] else ["(" ++ ", ".intercalate boards ++ ")"])
  | summaryRating average count =>
    "Rated " ++ m.fixed 1 average ++ " across " ++ toString count ++ " reviews"
  | onFile count => toString count ++ " review" ++ plural count ++ " on file"

/-- What is named. -/
def facts : Sentence → List Fact
  | alreadyTeaches board studentClass => .studentClass studentClass :: board.toList.map .board
  | teaches subject => [.subject subject]
  | ratedAcross average _ => [.rating average]
  | teachesAll subjects classes boards =>
    subjects.map .subject ++ classes.map .studentClass ++ boards.map .board
  | summaryRating average _ => [.rating average]
  | _ => []

end Sentence

/-! ## Claims -/

inductive ClaimKind
  | name | profileUrl | subject | board | studentClass | mode | locality | distance | availability
  | fee | rating | experience | teachingStyle | verification
  deriving DecidableEq, Repr

def ClaimKind.value : ClaimKind → String
  | .name => "name"
  | .profileUrl => "profile_url"
  | .subject => "subject"
  | .board => "board"
  | .studentClass => "class"
  | .mode => "mode"
  | .locality => "locality"
  | .distance => "distance"
  | .availability => "availability"
  | .fee => "fee"
  | .rating => "rating"
  | .experience => "experience"
  | .teachingStyle => "teaching_style"
  | .verification => "verification"

/-- `_BACKING_DIMENSION`. -/
def backingDimension : ClaimKind → Option Dimension
  | .subject => some .subjectExpertise
  | .board => some .academic
  | .studentClass => some .academic
  | .availability => some .availability
  | .distance => some .proximity
  | .locality => some .proximity
  | .rating => some .performance
  | .experience => some .performance
  | .teachingStyle => some .personality
  | _ => none

/-- `_PROJECTION_BACKED`. -/
def PROJECTION_BACKED : List ClaimKind := [.name, .profileUrl, .mode, .fee]

/-- `_FORBIDDEN_CLAIMS`. -/
def FORBIDDEN_CLAIMS : List ClaimKind := [.verification]

/-- Something that might be told. -/
structure Claim where
  kind : ClaimKind
  told : Sentence
  evidence : List Evidence := []
  deriving DecidableEq, Repr

/-- A candidate with a score for every skill. -/
structure ScoredCandidate where
  scores : Dimension → Option SkillScore
  finalScore : Rat
  flags : List String := []

variable (p : Platform) (m : Measures)

/-- `EvidenceGuard.check`: why a claim is refused. -/
def check (policy : ScoringPolicy) (candidate : ScoredCandidate) (claim : Claim) : Option String :=
  if claim.kind ∈ FORBIDDEN_CLAIMS then some ("claim_kind_forbidden:" ++ claim.kind.value)
  else if claim.kind ∈ PROJECTION_BACKED then
    if blank p (claim.told.text m) then some "empty_claim" else none
  else
    match backingDimension claim.kind with
    | none => some ("no_backing_dimension:" ++ claim.kind.value)
    | some dimension =>
      if dimension ∈ INTERNAL_ONLY_DIMENSIONS ∧ policy.explanation.exposeReplacementRisk = false then
        some ("dimension_internal_only:" ++ dimension.value)
      else
        match candidate.scores dimension with
        | none => some ("dimension_not_scored:" ++ dimension.value)
        | some score =>
          if score.quotable = false then
            some ("dimension_not_quotable:" ++ dimension.value ++ ":" ++ score.dataQuality.value)
          else if claim.evidence = [] ∧ score.evidence = [] then
            some ("no_evidence:" ++ dimension.value)
          else none

/-! ## The entry of a shortlist -/

/-- `mode_label`. -/
def modeLabel : TuitionMode → String
  | .home => "Home tuition"
  | .online => "Online"
  | .hybrid => "Home or online"

section Proposals

variable (t : TutorCandidate) (scores : Dimension → Option SkillScore) (r : MatchRequirement)

/-- The class with the board, in the words of the parent. -/
def classClaim : Option Claim :=
  (scores .academic).bind fun academic =>
    if present r.classValue && "class_exact" ∈ academic.reasonCodes then
      some ⟨.studentClass, .alreadyTeaches (r.boardValue.filter (· ≠ "")) (r.classValue.getD ""),
        academic.evidence⟩
    else none

def subjectClaim : Option Claim :=
  (scores .subjectExpertise).bind fun expertise =>
    if present r.subjectValue && "subjects_all_covered" ∈ expertise.reasonCodes then
      some ⟨.subject, .teaches (r.subjectValue.getD ""), expertise.evidence⟩
    else none

def availabilityClaim (availabilityLabel : Option String) : Option Claim :=
  (availabilityLabel.filter (· ≠ "")).map fun label =>
    ⟨.availability, .verbatim label, ((scores .availability).map SkillScore.evidence).getD []⟩

def localityClaim : Option Claim :=
  (scores .proximity).bind fun proximity =>
    if !present t.locality then none
    else if "same_locality" ∈ proximity.reasonCodes then
      some ⟨.locality, .basedIn (t.locality.getD ""), proximity.evidence⟩
    else if "same_city" ∈ proximity.reasonCodes && present t.city then
      some ⟨.locality, .basedIn (t.city.getD ""), proximity.evidence⟩
    else none

def ratingClaim : Option Claim :=
  (scores .performance).bind fun performance =>
    (t.reviews.ratingAvg.filter (· ≠ 0)).bind fun average =>
      if t.reviews.count = 0 then none
      else some ⟨.rating, .ratedAcross average t.reviews.count, performance.evidence⟩

def experienceClaim : Option Claim :=
  (scores .performance).bind fun performance =>
    (t.experienceYears.filter (· ≠ 0)).map fun years =>
      ⟨.experience, .experienced years, performance.evidence⟩

def feeClaim : Option Claim :=
  (scores .negotiation).bind fun negotiation =>
    (t.fee.label.filter (· ≠ "")).map fun label => ⟨.fee, .verbatim label, negotiation.evidence⟩

def modeClaim : Option Claim :=
  r.modeValue.bind fun mode =>
    if t.supportsMode mode then some ⟨.mode, .verbatim (modeLabel mode), []⟩ else none

def styleClaim : Option Claim :=
  (scores .personality).bind fun personality =>
    if Text.contains (" ".intercalate personality.reasonCodes) "style_overlap" then
      some ⟨.teachingStyle, .matchesStyle, personality.evidence⟩
    else none

/-- `_propose_claims`. -/
def proposeClaims (availabilityLabel : Option String) : List Claim :=
  [some ⟨.name, .verbatim t.name, []⟩, classClaim scores r, subjectClaim scores r,
    availabilityClaim scores availabilityLabel, localityClaim t scores, ratingClaim t scores,
    experienceClaim t scores, feeClaim t scores, modeClaim t r, styleClaim scores].reduceOption

end Proposals

/-- One tutor as a parent sees one, with notes for the coordinator. -/
structure ShortlistEntry where
  rank : Nat
  tutorId : String
  name : String
  profileUrl : String
  reasons : List Sentence
  modeLabel : Option Sentence
  localityLabel : Option Sentence
  availabilityLabel : Option Sentence
  feeLabel : Option Sentence
  internalNotes : List String
  deriving DecidableEq, Repr

/-- The reasons, the most telling first. -/
def REASON_ORDER : List ClaimKind := [.studentClass, .subject, .rating, .experience, .teachingStyle]

/-- What is approved of a kind: the last one. -/
def approvedOf (approved : List Claim) (kind : ClaimKind) : Option Sentence :=
  ((approved.filter (·.kind = kind)).getLast?).map Claim.told

/-- `_reason_sentences`. -/
def reasonSentences (approved : List Claim) : List Sentence :=
  match REASON_ORDER.filterMap (approvedOf approved) with
  | [] => [.toBeConfirmed]
  | reason :: reasons => reason :: reasons

/-- `_internal_notes`. -/
def internalNotes (policy : ScoringPolicy) (candidate : ScoredCandidate) : List String :=
  (match (candidate.scores .replacementRisk).map SkillScore.flags with
    | some (flag :: flags) => ["risk_flags:" ++ ",".intercalate ((flag :: flags).take 3)]
    | _ => []) ++
  (if "low_weight_coverage" ∈ candidate.flags then ["thin_evidence_base"] else []) ++
  (if (candidate.scores .negotiation).any ("requires_fee_approval" ∈ ·.flags) then
    ["fee_exception_needs_approval"] else []) ++
  if policy.explanation.exposeNumericScores then
    ["final_score:" ++ m.fixed 3 candidate.finalScore] else []

/-- `EvidenceGuard.filter`. -/
def approvedClaims (policy : ScoringPolicy) (candidate : ScoredCandidate) (claims : List Claim) :
    List Claim :=
  claims.filter fun claim => (check p m policy candidate claim).isNone

/-- `ExplanationBuilder.build_entry`, with the reasons of the refusals. -/
def buildEntry (policy : ScoringPolicy) (rank : Nat) (t : TutorCandidate)
    (candidate : ScoredCandidate) (profileUrl : String) (r : MatchRequirement)
    (availabilityLabel : Option String) : ShortlistEntry × List String :=
  let proposed := proposeClaims t candidate.scores r availabilityLabel
  let approved := approvedClaims p m policy candidate proposed
  ({ rank, tutorId := t.tutorId, name := t.name, profileUrl
     reasons := (reasonSentences approved).take policy.explanation.maxReasonsPerTutor
     modeLabel := approvedOf approved .mode
     localityLabel := approvedOf approved .locality
     availabilityLabel := approvedOf approved .availability
     feeLabel := approvedOf approved .fee
     internalNotes := internalNotes m policy candidate },
    proposed.filterMap (check p m policy candidate))

/-- Everything that is told in an entry. -/
def ShortlistEntry.sentences (entry : ShortlistEntry) : List Sentence :=
  entry.reasons ++ [entry.modeLabel, entry.localityLabel, entry.availabilityLabel,
    entry.feeLabel].reduceOption

/-! ## The summary of a tutor -/

/-- `text.rsplit(" ", 1)[0]`. -/
def beforeLastSpace (text : String) : String :=
  let reversed := text.toList.reverse
  match reversed.dropWhile (· ≠ ' ') with
  | [] => text
  | _ :: rest => String.ofList rest.reverse

/-- `_clip`. -/
def clip (text : String) (limit : Nat) : String :=
  let cleaned := " ".intercalate (split p.toTables text)
  if cleaned.length ≤ limit then cleaned
  else beforeLastSpace (Text.take cleaned (limit - 1)) ++ "…"

/-- The lines of a summary. -/
def summaryLines (t : TutorCandidate) (profileUrl : Option String) : List Sentence :=
  let place := if present t.locality then t.locality else t.city
  let mode := ", ".intercalate (t.capabilities.modes.map modeLabel)
  let fee := if t.fee.minimum.isSome then t.fee.label else none
  [.verbatim ("*" ++ t.name ++ "*"),
    .verbatim (" · ".intercalate
      ([mode, if present place then "based in " ++ place.getD "" else "", fee.getD ""].filter
        (· ≠ "")))] ++
  (if t.capabilities.subjects ≠ [] ∨ t.capabilities.classes ≠ [] ∨ t.capabilities.boards ≠ [] then
    [.teachesAll (t.capabilities.subjects.take 4) (t.capabilities.classes.take 4)
      (t.capabilities.boards.take 3)] else []) ++
  [.verbatim (" · ".intercalate
    (((t.experienceYears.filter (· ≠ 0)).toList.map fun years =>
      toString years ++ " year" ++ plural years ++ " of experience") ++
    (t.education.filter (· ≠ "")).toList.map (Text.take · 80)))] ++
  (if t.reviews.count = 0 then []
    else match t.reviews.ratingAvg with
      | some average => [.summaryRating average t.reviews.count]
      | none => [.onFile t.reviews.count]) ++
  ((t.profileSummary.filter (· ≠ "")).toList.map fun summary => .verbatim (clip p summary 180)) ++
  (profileUrl.filter (· ≠ "")).toList.map .verbatim

/-- `summarise`. -/
def summarise (t : TutorCandidate) (profileUrl : Option String) : String :=
  "\n".intercalate (((summaryLines p t profileUrl).map (Sentence.text m)).filter (· ≠ ""))

/-! ## What is supported -/

/-- A row bears out what is said of it. -/
def Supported (policy : ScoringPolicy) (t : TutorCandidate) : Fact → Prop
  | .board name =>
    normalizeBoard p (some name) ∈ t.capabilities.boards.map (normalizeBoard p <| some ·)
  | .studentClass label => teachesClass p (some label) t.capabilities.classes
  | .subject name =>
    name ∈ t.capabilities.subjects ∨ matchesAny p name t.capabilities.subjects
  | .rating _ => policy.reviews.minReviewsForRating ≤ t.reviews.count ∧ t.reviews.ratingAvg.isSome

/-- Everything that is named in some sentences is supported. -/
def Grounded (policy : ScoringPolicy) (t : TutorCandidate) (sentences : List Sentence) : Prop :=
  ∀ sentence ∈ sentences, ∀ fact ∈ sentence.facts, Supported p policy t fact

/-- What the skills say, the five that name nothing being whatever they are. -/
def skillScores (f : Floating) (now : Time) (others : Dimension → Option SkillScore)
    (t : TutorCandidate) (c : EvaluationContext) : Dimension → Option SkillScore
  | .academic => some (academic p t c)
  | .subjectExpertise => some (subjectExpertise p t c)
  | .performance => some (performance f now t c)
  | dimension => others dimension

/-- The board of the parent is one of the tutor's, where a class is named with it. -/
def BoardKnown (t : TutorCandidate) (r : MatchRequirement) : Prop :=
  present r.classValue → t.capabilities.classes ≠ [] →
    teachesClass p (some (r.classValue.getD "")) t.capabilities.classes → present r.boardValue →
      normalizeBoard p (some (r.boardValue.getD ""))
        ∈ t.capabilities.boards.map (normalizeBoard p <| some ·)

/-- There are enough reviews, where there are any and a rating. -/
def EnoughReviews (policy : ScoringPolicy) (t : TutorCandidate) : Prop :=
  t.reviews.count ≠ 0 → t.reviews.ratingAvg.isSome →
    policy.reviews.minReviewsForRating ≤ t.reviews.count

/-- A text that is there. -/
theorem filter_of_present {s : Option String} (h : present s) :
    s.filter (· ≠ "") = some (s.getD "") := by
  cases s with
  | none => cases h
  | some text => exact Option.filter_some_pos h

theorem of_filter_eq_some {s : Option String} {text : String} (h : s.filter (· ≠ "") = some text) :
    present s = true ∧ s.getD "" = text := by
  obtain ⟨rfl, hne⟩ := Option.filter_eq_some_iff.mp h
  exact ⟨hne, rfl⟩

/-- The subject is one of the subjects. -/
theorem subject_mem_allSubjects {r : MatchRequirement} (h : present r.subjectValue) :
    r.subjectValue.getD "" ∈ r.allSubjects := by
  rw [MatchRequirement.allSubjects, if_pos h]
  exact List.mem_eraseDups.mpr (List.mem_append_left _ List.mem_cons_self)

/-- Who teaches a class by its name covers it. -/
theorem teachesClass_of_mem {label : String} {taught : List String} (h : label ∈ taught) :
    teachesClass p (some label) taught = true := by
  unfold teachesClass
  cases hlabel : normalizeClass p (some label) with
  | none => rfl
  | some want =>
    refine List.any_eq_true.mpr ⟨label, h, ?_⟩
    rw [hlabel, decide_eq_true rfl, Bool.true_or]

section Entry

variable {p m} {policy : ScoringPolicy} {t : TutorCandidate} {r : MatchRequirement} {f : Floating}
  {now : Time} {others : Dimension → Option SkillScore} {scores : Dimension → Option SkillScore}
  {label : Option String} {claim : Claim} {fact : Fact} {finalScore : Rat} {flags : List String}

/-! ## What a claim names -/

theorem of_classClaim (h : classClaim scores r = some claim) :
    (∃ academic, scores .academic = some academic ∧ "class_exact" ∈ academic.reasonCodes) ∧
      claim.kind = .studentClass ∧
      claim.told = .alreadyTeaches (r.boardValue.filter (· ≠ "")) (r.classValue.getD "") := by
  obtain ⟨academic, hscore, h⟩ := Option.bind_eq_some_iff.mp h
  split_ifs at h with hexact
  cases h
  rw [Bool.and_eq_true, decide_eq_true_eq] at hexact
  exact ⟨⟨academic, hscore, hexact.2⟩, rfl, rfl⟩

theorem of_subjectClaim (h : subjectClaim scores r = some claim) :
    (∃ expertise, scores .subjectExpertise = some expertise ∧
      "subjects_all_covered" ∈ expertise.reasonCodes) ∧ present r.subjectValue ∧
      claim.kind = .subject ∧ claim.told = .teaches (r.subjectValue.getD "") := by
  obtain ⟨expertise, hscore, h⟩ := Option.bind_eq_some_iff.mp h
  split_ifs at h with hcovered
  cases h
  rw [Bool.and_eq_true, decide_eq_true_eq] at hcovered
  exact ⟨⟨expertise, hscore, hcovered.2⟩, hcovered.1, rfl, rfl⟩

theorem of_ratingClaim (h : ratingClaim t scores = some claim) :
    claim.kind = .rating ∧ ∃ average, claim.told = .ratedAcross average t.reviews.count := by
  obtain ⟨performance, -, h⟩ := Option.bind_eq_some_iff.mp h
  obtain ⟨average, -, h⟩ := Option.bind_eq_some_iff.mp h
  split_ifs at h
  cases h
  exact ⟨rfl, average, rfl⟩

theorem of_availabilityClaim (h : availabilityClaim scores label = some claim) :
    claim.kind = .availability ∧ claim.told.facts = [] := by
  obtain ⟨text, -, rfl⟩ := Option.map_eq_some_iff.mp h
  exact ⟨rfl, rfl⟩

theorem of_localityClaim (h : localityClaim t scores = some claim) :
    claim.kind = .locality ∧ claim.told.facts = [] := by
  obtain ⟨proximity, -, h⟩ := Option.bind_eq_some_iff.mp h
  split_ifs at h
  · cases h
    exact ⟨rfl, rfl⟩
  · cases h
    exact ⟨rfl, rfl⟩

theorem of_experienceClaim (h : experienceClaim t scores = some claim) :
    claim.kind = .experience ∧ claim.told.facts = [] := by
  obtain ⟨performance, -, h⟩ := Option.bind_eq_some_iff.mp h
  obtain ⟨years, -, rfl⟩ := Option.map_eq_some_iff.mp h
  exact ⟨rfl, rfl⟩

theorem of_feeClaim (h : feeClaim t scores = some claim) :
    claim.kind = .fee ∧ claim.told.facts = [] := by
  obtain ⟨negotiation, -, h⟩ := Option.bind_eq_some_iff.mp h
  obtain ⟨text, -, rfl⟩ := Option.map_eq_some_iff.mp h
  exact ⟨rfl, rfl⟩

theorem of_modeClaim (h : modeClaim t r = some claim) :
    claim.kind = .mode ∧ claim.told.facts = [] := by
  obtain ⟨mode, -, h⟩ := Option.bind_eq_some_iff.mp h
  split_ifs at h
  cases h
  exact ⟨rfl, rfl⟩

theorem of_styleClaim (h : styleClaim scores = some claim) :
    claim.kind = .teachingStyle ∧ claim.told.facts = [] := by
  obtain ⟨personality, -, h⟩ := Option.bind_eq_some_iff.mp h
  split_ifs at h
  cases h
  exact ⟨rfl, rfl⟩

/-- **A claim is one of three** that name something, or names nothing and is of another kind. -/
theorem cases_of_mem (hclaim : claim ∈ proposeClaims t scores r label) :
    classClaim scores r = some claim ∨ subjectClaim scores r = some claim ∨
      ratingClaim t scores = some claim ∨
      claim.kind ≠ .studentClass ∧ claim.told.facts = [] := by
  have hmem := List.reduceOption_mem_iff.mp hclaim
  simp only [List.mem_cons, List.not_mem_nil, or_false] at hmem
  have hother (kind : ClaimKind) (hkind : kind ≠ .studentClass)
      (h : claim.kind = kind ∧ claim.told.facts = []) :
      claim.kind ≠ .studentClass ∧ claim.told.facts = [] := ⟨h.1 ▸ hkind, h.2⟩
  rcases hmem with h | h | h | h | h | h | h | h | h | h
  · cases h
    exact .inr (.inr (.inr (hother .name (by decide) ⟨rfl, rfl⟩)))
  · exact .inl h.symm
  · exact .inr (.inl h.symm)
  · exact .inr (.inr (.inr (hother .availability (by decide) (of_availabilityClaim h.symm))))
  · exact .inr (.inr (.inr (hother .locality (by decide) (of_localityClaim h.symm))))
  · exact .inr (.inr (.inl h.symm))
  · exact .inr (.inr (.inr (hother .experience (by decide) (of_experienceClaim h.symm))))
  · exact .inr (.inr (.inr (hother .fee (by decide) (of_feeClaim h.symm))))
  · exact .inr (.inr (.inr (hother .mode (by decide) (of_modeClaim h.symm))))
  · exact .inr (.inr (.inr (hother .teachingStyle (by decide) (of_styleClaim h.symm))))

/-- The claim that is of the kind of a class is the class claim. -/
theorem classClaim_of_kind (hclaim : claim ∈ proposeClaims t scores r label)
    (hkind : claim.kind = .studentClass) : classClaim scores r = some claim := by
  rcases cases_of_mem hclaim with h | h | h | ⟨hne, -⟩
  · exact h
  · rw [(of_subjectClaim h).2.2.1] at hkind
    cases hkind
  · rw [(of_ratingClaim h).1] at hkind
    cases hkind
  · exact absurd hkind hne

/-- **What is approved** of a rating rests on a score that may be cited. -/
theorem quotable_of_check {candidate : ScoredCandidate} (hkind : claim.kind = .rating)
    (h : check p m policy candidate claim = none) :
    ∃ score, candidate.scores .performance = some score ∧ score.quotable = true := by
  rw [check, hkind, if_neg (by decide), if_neg (by decide)] at h
  simp only [backingDimension] at h
  rw [if_neg (fun hinternal => absurd hinternal.1 (by decide))] at h
  cases hscore : candidate.scores .performance with
  | none =>
    rw [hscore] at h
    cases h
  | some score =>
    refine ⟨score, rfl, ?_⟩
    rw [hscore] at h
    dsimp only at h
    by_contra hnot
    rw [if_pos (Bool.not_eq_true _ ▸ hnot)] at h
    cases h

/-- And a class that rests on such a score is approved. -/
theorem check_of_quotable {candidate : ScoredCandidate} {score : SkillScore}
    (hkind : claim.kind = .studentClass) (hscore : candidate.scores .academic = some score)
    (hquotable : score.quotable = true) : check p m policy candidate claim = none := by
  have hevidence : score.evidence ≠ [] := by
    rw [SkillScore.quotable, Bool.and_eq_true, decide_eq_true_eq, decide_eq_true_eq] at hquotable
    exact hquotable.2
  rw [check, hkind, if_neg (by decide), if_neg (by decide)]
  simp only [backingDimension]
  rw [if_neg (fun hinternal => absurd hinternal.1 (by decide)), hscore]
  dsimp only
  rw [if_neg (by rw [hquotable]; exact Bool.noConfusion), if_neg fun hnone => hevidence hnone.2]

/-! ## The entry and the summary -/

theorem of_approvedOf {approved : List Claim} {kind : ClaimKind} {sentence : Sentence}
    (h : approvedOf approved kind = some sentence) :
    ∃ claim ∈ approved, claim.kind = kind ∧ claim.told = sentence := by
  obtain ⟨claim, hlast, rfl⟩ := Option.map_eq_some_iff.mp h
  obtain ⟨hmem, hkind⟩ := List.mem_filter.mp (List.mem_of_getLast? hlast)
  exact ⟨claim, hmem, of_decide_eq_true hkind, rfl⟩

/-- A reason has been approved, or there is none. -/
theorem of_mem_reasonSentences {approved : List Claim} {sentence : Sentence}
    (h : sentence ∈ reasonSentences approved) :
    sentence = .toBeConfirmed ∨ ∃ claim ∈ approved, claim.told = sentence := by
  unfold reasonSentences at h
  cases hreasons : REASON_ORDER.filterMap (approvedOf approved) with
  | nil =>
    rw [hreasons] at h
    exact .inl (List.mem_singleton.mp h)
  | cons reason reasons =>
    rw [hreasons] at h
    dsimp only at h
    rw [← hreasons] at h
    obtain ⟨kind, -, hkind⟩ := List.mem_filterMap.mp h
    obtain ⟨claim, hmem, -, htold⟩ := of_approvedOf hkind
    exact .inr ⟨claim, hmem, htold⟩

/-- The class comes first of the reasons. -/
theorem class_mem_reasons {approved : List Claim} {sentence : Sentence} {n : Nat} (hn : 1 ≤ n)
    (h : approvedOf approved .studentClass = some sentence) :
    sentence ∈ (reasonSentences approved).take n := by
  have hreasons : REASON_ORDER.filterMap (approvedOf approved) = sentence ::
      [ClaimKind.subject, .rating, .experience, .teachingStyle].filterMap (approvedOf approved) :=
    List.filterMap_cons_some h
  obtain ⟨k, rfl⟩ := Nat.exists_eq_add_of_le' hn
  rw [reasonSentences, hreasons]
  exact List.mem_cons_self

theorem mem_approvedClaims {candidate : ScoredCandidate} {claims : List Claim} :
    claim ∈ approvedClaims p m policy candidate claims ↔
      claim ∈ claims ∧ check p m policy candidate claim = none := by
  rw [approvedClaims, List.mem_filter, Option.isNone_iff_eq_none]

/-- A sentence of an entry is one that has been approved, or names nothing. -/
theorem of_mem_sentences {rank : Nat} {candidate : ScoredCandidate} {url : String}
    {sentence : Sentence}
    (h : sentence ∈ (buildEntry p m policy rank t candidate url r label).1.sentences) :
    sentence.facts = [] ∨ ∃ claim ∈ proposeClaims t candidate.scores r label,
      check p m policy candidate claim = none ∧ claim.told = sentence := by
  obtain ⟨approved, hdef⟩ : ∃ approved, approved
      = approvedClaims p m policy candidate (proposeClaims t candidate.scores r label) := ⟨_, rfl⟩
  have hsentences : (buildEntry p m policy rank t candidate url r label).1.sentences
      = (reasonSentences approved).take policy.explanation.maxReasonsPerTutor ++
        [approvedOf approved .mode, approvedOf approved .locality,
          approvedOf approved .availability, approvedOf approved .fee].reduceOption := by
    rw [ShortlistEntry.sentences, buildEntry, hdef]
  have happroved : (∃ claim ∈ approved, claim.told = sentence) →
      ∃ claim ∈ proposeClaims t candidate.scores r label,
        check p m policy candidate claim = none ∧ claim.told = sentence := by
    rintro ⟨claim, hmem, htold⟩
    rw [hdef] at hmem
    obtain ⟨hmem, hnone⟩ := mem_approvedClaims.mp hmem
    exact ⟨claim, hmem, hnone, htold⟩
  rw [hsentences] at h
  rcases List.mem_append.mp h with h | h
  · rcases of_mem_reasonSentences (List.mem_of_mem_take h) with rfl | h
    · exact .inl rfl
    · exact .inr (happroved h)
  · have hlabel := List.reduceOption_mem_iff.mp h
    simp only [List.mem_cons, List.not_mem_nil, or_false] at hlabel
    refine .inr (happroved ?_)
    rcases hlabel with h | h | h | h
    all_goals
      obtain ⟨claim, hmem, -, htold⟩ := of_approvedOf h.symm
      exact ⟨claim, hmem, htold⟩

/-- A class claim that is approved is told. -/
theorem class_mem_sentences {rank : Nat} {candidate : ScoredCandidate} {url : String}
    (hclaim : classClaim candidate.scores r = some claim)
    (hcheck : check p m policy candidate claim = none) :
    claim.told ∈ (buildEntry p m policy rank t candidate url r label).1.sentences := by
  obtain ⟨approved, hdef⟩ : ∃ approved, approved
      = approvedClaims p m policy candidate (proposeClaims t candidate.scores r label) := ⟨_, rfl⟩
  have hmem : claim ∈ approved.filter (·.kind = .studentClass) := by
    refine List.mem_filter.mpr ⟨?_, decide_eq_true (of_classClaim hclaim).2.1⟩
    rw [hdef]
    refine mem_approvedClaims.mpr ⟨List.reduceOption_mem_iff.mpr ?_, hcheck⟩
    rw [hclaim]
    exact List.mem_cons_of_mem _ List.mem_cons_self
  have hlast : approvedOf approved .studentClass = some claim.told := by
    obtain ⟨last, hlast⟩ := Option.isSome_iff_exists.mp
      (List.getLast?_isSome.mpr (List.ne_nil_of_mem hmem))
    obtain ⟨hlastmem, hkind⟩ := List.mem_filter.mp (List.mem_of_getLast? hlast)
    rw [hdef] at hlastmem
    have hsame := classClaim_of_kind (mem_approvedClaims.mp hlastmem).1 (of_decide_eq_true hkind)
    rw [approvedOf, hlast, Option.some.inj (hclaim.symm.trans hsame)]
    rfl
  have hreason := class_mem_reasons policy.explanation.maxReasonsPerTutor_mem.1 hlast
  rw [hdef] at hreason
  exact List.mem_append_left _ hreason

/-- **The entry of a tutor** names what the row bears out, exactly if the board does. -/
theorem grounded_entry_iff {rank : Nat} {url : String} :
    Grounded p policy t (buildEntry p m policy rank t
      ⟨skillScores p f now others t ⟨r, policy⟩, finalScore, flags⟩ url r label).1.sentences ↔
      BoardKnown p t r := by
  constructor
  · intro h hclass hclasses hcovered hboard
    have hexact : "class_exact" ∈ (academic p t ⟨r, policy⟩).reasonCodes :=
      classExact_mem_iff.mpr ⟨⟨hclass, hclasses⟩, hcovered⟩
    have hclaim : classClaim (skillScores p f now others t ⟨r, policy⟩) r = some ⟨.studentClass,
        .alreadyTeaches (r.boardValue.filter (· ≠ "")) (r.classValue.getD ""),
        (academic p t ⟨r, policy⟩).evidence⟩ := by
      have hboth : (present r.classValue &&
          decide ("class_exact" ∈ (academic p t ⟨r, policy⟩).reasonCodes)) = true := by
        rw [hclass, decide_eq_true hexact]
        rfl
      exact if_pos hboth
    have hcheck := @check_of_quotable p m policy _
      ⟨skillScores p f now others t ⟨r, policy⟩, finalScore, flags⟩ _
      (of_classClaim hclaim).2.1 rfl (quotable_academic hexact)
    refine h _ (class_mem_sentences hclaim hcheck) (.board (r.boardValue.getD "")) ?_
    rw [filter_of_present hboard]
    exact List.mem_cons_of_mem _ List.mem_cons_self
  · intro hboard sentence hsentence fact hfact
    rcases of_mem_sentences hsentence with hnone | ⟨claim, hclaim, hcheck, rfl⟩
    · rw [hnone] at hfact
      cases hfact
    rcases cases_of_mem hclaim with h | h | h | ⟨-, hnone⟩
    · obtain ⟨⟨score, hscore, hexact⟩, -, htold⟩ := of_classClaim h
      cases hscore
      obtain ⟨⟨hclass, hclasses⟩, hcovered⟩ := classExact_mem_iff.mp hexact
      rw [htold] at hfact
      rcases List.mem_cons.mp hfact with rfl | hfact
      · exact hcovered
      · obtain ⟨board, hmem, rfl⟩ := List.mem_map.mp hfact
        obtain ⟨hpresent, rfl⟩ := of_filter_eq_some (Option.mem_toList.mp hmem)
        exact hboard hclass hclasses hcovered hpresent
    · obtain ⟨⟨score, hscore, hall⟩, hpresent, -, htold⟩ := of_subjectClaim h
      cases hscore
      rw [htold, Sentence.facts, List.mem_singleton] at hfact
      rw [hfact]
      exact .inr (matchesAny_of_covered hall (subject_mem_allSubjects hpresent))
    · obtain ⟨hkind, average, htold⟩ := of_ratingClaim h
      rw [htold, Sentence.facts, List.mem_singleton] at hfact
      rw [hfact]
      obtain ⟨score, hscore, hquotable⟩ := quotable_of_check hkind hcheck
      cases hscore
      exact of_quotable_performance hquotable
    · rw [hnone] at hfact
      cases hfact

section Parts

variable {left right sentences : List Sentence}

theorem grounded_append :
    Grounded p policy t (left ++ right) ↔ Grounded p policy t left ∧ Grounded p policy t right :=
  List.forall_mem_append

/-- What names nothing is grounded. -/
theorem grounded_of_silent (h : ∀ sentence ∈ sentences, sentence.facts = []) :
    Grounded p policy t sentences := by
  intro sentence hmem fact hfact
  rw [h sentence hmem] at hfact
  cases hfact

theorem grounded_verbatim {texts : List String} {g : String → String} :
    Grounded p policy t (texts.map fun text => .verbatim (g text)) := by
  refine grounded_of_silent fun sentence hmem => ?_
  obtain ⟨text, -, rfl⟩ := List.mem_map.mp hmem
  rfl

/-- What is taught is named from the row itself. -/
theorem grounded_teachesAll {i j k : Nat} :
    Grounded p policy t [.teachesAll (t.capabilities.subjects.take i) (t.capabilities.classes.take j)
      (t.capabilities.boards.take k)] := by
  intro sentence hmem fact hfact
  rw [List.mem_singleton.mp hmem] at hfact
  rcases List.mem_append.mp hfact with hfact | hfact
  · rcases List.mem_append.mp hfact with hfact | hfact
    · obtain ⟨name, hname, rfl⟩ := List.mem_map.mp hfact
      exact .inl (List.mem_of_mem_take hname)
    · obtain ⟨label, hlabel, rfl⟩ := List.mem_map.mp hfact
      exact teachesClass_of_mem p (List.mem_of_mem_take hlabel)
  · obtain ⟨name, hname, rfl⟩ := List.mem_map.mp hfact
    exact List.mem_map_of_mem (List.mem_of_mem_take hname)

end Parts

/-- **The summary of a tutor** names what the row bears out, exactly if there are enough reviews. -/
theorem grounded_summary_iff {url : Option String} :
    Grounded p policy t (summaryLines p t url) ↔ EnoughReviews policy t := by
  have hteaches : Grounded p policy t
      (if t.capabilities.subjects ≠ [] ∨ t.capabilities.classes ≠ [] ∨ t.capabilities.boards ≠ [] then
        [.teachesAll (t.capabilities.subjects.take 4) (t.capabilities.classes.take 4)
          (t.capabilities.boards.take 3)] else []) := by
    split
    · exact grounded_teachesAll
    · exact grounded_of_silent fun _ hmem => (List.not_mem_nil hmem).elim
  have hrating : Grounded p policy t
      (if t.reviews.count = 0 then []
        else match t.reviews.ratingAvg with
          | some average => [.summaryRating average t.reviews.count]
          | none => [.onFile t.reviews.count]) ↔ EnoughReviews policy t := by
    by_cases hcount : t.reviews.count = 0
    · rw [if_pos hcount]
      exact iff_of_true (grounded_of_silent fun _ hmem => (List.not_mem_nil hmem).elim)
        fun hne => absurd hcount hne
    · rw [if_neg hcount]
      cases hrating : t.reviews.ratingAvg with
      | none =>
        refine iff_of_true (grounded_of_silent fun sentence hmem => ?_) fun _ hsome => ?_
        · rw [List.mem_singleton.mp hmem]
          rfl
        · rw [hrating] at hsome
          cases hsome
      | some average =>
        have hsome : t.reviews.ratingAvg.isSome = true := by
          rw [hrating]
          rfl
        constructor
        · intro h _ _
          exact (h _ List.mem_cons_self _ List.mem_cons_self).1
        · intro h sentence hmem fact hfact
          rw [List.mem_singleton.mp hmem] at hfact
          rw [List.mem_singleton.mp hfact]
          exact ⟨h hcount hsome, hsome⟩
  have htitle (a b : String) : Grounded p policy t [.verbatim a, .verbatim b] :=
    @grounded_verbatim _ _ _ [a, b] id
  have hline (a : String) : Grounded p policy t [.verbatim a] :=
    @grounded_verbatim _ _ _ [a] id
  unfold summaryLines
  dsimp only
  simp only [grounded_append, hrating, hteaches, htitle, hline, grounded_verbatim, true_and, and_true]
  exact and_iff_left (grounded_verbatim (g := id))

end Entry

/-- A number that is not negative, with its decimals. -/
def fixedText (digits : Nat) (x : Rat) : String :=
  let n := (roundHalfEven (x * 10 ^ digits)).toNat
  toString (n / 10 ^ digits) ++ "." ++
    String.ofList (((toString (n % 10 ^ digits)).toList.reverse ++ List.replicate digits '0').take
      digits).reverse

/-- Without the powers, which a tutor with less than three reviews does not need. -/
def onPaper : Floating where
  haversineKm := meridian.haversineKm
  fixed := fixedText
  halved _ := 1
  sqrt x := x

/-- CBSE is asked for, in Class 6. -/
def cbseClassSix : MatchRequirement where
  conversationId := "c1"
  studentClass := some { value := "Class 6" }
  board := some { value := "CBSE" }

/-- A tutor for ICSE, with one review. -/
def icseTutor : TutorCandidate where
  tutorId := "t1"
  publicRef := "dDEtbnh0"
  name := "Asha"
  capabilities := { classes := ["Class 6"], boards := ["ICSE"] }
  reviews := { count := 1, ratingAvg := some 5 }

/-- The entry of that tutor for that child. -/
def icseEntry : ShortlistEntry :=
  (buildEntry ascii onPaper.toMeasures basePolicy 1 icseTutor
    ⟨skillScores ascii onPaper 0 (fun _ => none) icseTutor ⟨cbseClassSix, basePolicy⟩, 1 / 2, []⟩
    "/tutors/t1" cbseClassSix none).1

end NxTutors.Matching
