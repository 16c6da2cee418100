import NxTutors.Matching.Explaining
import NxTutors.Scheduling.Slots
import NxTutors.Sync.Projection
import NxTutors.Text.Segments

/-!
# The audit of the rendered text

After the guard has approved the claims of an entry, and the entry has been put together, its text
is looked through once more, as a text: for days and times, ratings, distances, a verification and
units of fees, where the data do not bear them out. What is looked for is found wherever it stands
in the text, in a name or a place too.
-/

namespace NxTutors.Matching

open Text MatchAgent

/-! ## Slots -/

/-- The schedule of a tutor or a parent, window by window. -/
def scheduleOf (s : WeeklySchedule) : Scheduling.WeeklySchedule :=
  .make s.timezone (s.windows.filterMap fun w =>
    Scheduling.TimeWindow.make? (Fin.ofNat 7 w.weekday) (.ofParts (w.start / 60) (w.start % 60))
      (.ofParts (w.finish / 60 % 24) (w.finish % 60)))

/-- `AvailabilityEvaluator.suggested_slots`. -/
def offeredSlots (offset : String → Int) (t : TutorCandidate) (r : MatchRequirement) :
    Option (List Scheduling.TimeWindow) :=
  Scheduling.suggestedSlots offset (t.availability.map scheduleOf)
    (r.preferredSchedule.map scheduleOf) r.timezone r.sessionMinutes r.sessionsPerWeek

def DAY_NAMES : List String := ["Mon", "Tue", "Wed", "Thu", "Fri", "Sat", "Sun"]

/-- `strftime("%H:%M")`. -/
def hoursAndMinutes (t : Scheduling.ClockTime) : String :=
  String.ofList (Sync.twoDigits t.hour ++ ':' :: Sync.twoDigits t.minute)

/-- What is said of the times of a window. -/
def timesText (w : Scheduling.TimeWindow) : String :=
  hoursAndMinutes w.start ++ "-" ++ if w.finish = .midnight then "24:00" else hoursAndMinutes w.finish

/-- `TimeWindow.label`. -/
def windowLabel (w : Scheduling.TimeWindow) : String :=
  DAY_NAMES.getD w.weekday "" ++ " " ++ timesText w

/-- The label of the first two slots. -/
def slotsLabel (slots : List Scheduling.TimeWindow) : Option String :=
  if slots = [] then none else some (", ".intercalate ((slots.take 2).map windowLabel))

/-! ## The audit -/

/-- Days and times. -/
def SCHEDULE_WORDS : List String :=
  ["monday", "tuesday", "wednesday", "thursday", "friday", "saturday", "sunday", "mon ", "tue ",
    "wed ", "thu ", "fri ", "sat ", "sun ", "weekend", "weekday", "available at"]

def RATING_WORDS : List String := ["rated", "rating", "★", "star", "reviews"]

def DISTANCE_WORDS : List String := [" km", "kilomet", "minutes away"]

def VERIFICATION_WORDS : List String := ["verified", "background check"]

def HOURLY_FEE_WORDS : List String := ["per hour", "/hr", "hourly", "per month", "monthly"]

/-- `has_availability_data`. -/
def TutorCandidate.hasAvailabilityData (t : TutorCandidate) : Bool :=
  t.availability.any (·.windows ≠ [])

/-- What is looked for, whether the data bear it out, and what is said where they do not. -/
structure Audit where
  phrases : List String
  borneOut : Bool
  violation : String

section Audit

variable (t : TutorCandidate) (scores : Dimension → Option SkillScore)

/-- The checks of `assert_no_fabrication`. The unit of a fee from the website is never known. -/
def audits : List Audit :=
  [⟨SCHEDULE_WORDS, (scores .availability).any (·.dataQuality ≠ .missing) && t.hasAvailabilityData,
      "schedule_claimed_without_availability_data"⟩,
    ⟨RATING_WORDS, (scores .performance).any SkillScore.quotable && t.reviews.count ≠ 0,
      "rating_claimed_without_review_data"⟩,
    ⟨DISTANCE_WORDS, t.geo.isSome, "distance_claimed_without_coordinates"⟩,
    ⟨VERIFICATION_WORDS, false, "verification_claimed_without_source"⟩,
    ⟨HOURLY_FEE_WORDS, false, "fee_unit_claimed_without_source"⟩]

/-- What may not be in the text. -/
def unsupported : List String := ((audits t scores).filter (!·.borneOut)).flatMap Audit.phrases

/-- `assert_no_fabrication`. -/
def assertNoFabrication (p : Platform) (entryText : String) : List String :=
  let lowered := p.lower entryText
  ((audits t scores).filter fun a => containsAny lowered a.phrases && !a.borneOut).map
    Audit.violation

variable {t scores} {p : Platform}

/-- Nothing is found fault with where nothing is found that is not borne out. -/
theorem assertNoFabrication_eq_nil_iff {entryText : String} :
    assertNoFabrication t scores p entryText = [] ↔
      ∀ phrase ∈ unsupported t scores, Text.contains (p.lower entryText) phrase = false := by
  rw [assertNoFabrication, List.map_eq_nil_iff, List.filter_eq_nil_iff]
  constructor
  · intro h phrase hphrase
    obtain ⟨a, ha, hin⟩ := List.mem_flatMap.mp hphrase
    obtain ⟨ha, hnot⟩ := List.mem_filter.mp ha
    have hnone := h a ha
    rw [Bool.and_eq_true, not_and] at hnone
    by_contra hfound
    refine hnone ?_ hnot
    exact List.any_eq_true.mpr ⟨phrase, hin, Bool.not_eq_false _ ▸ hfound⟩
  · intro h a ha hbad
    rw [Bool.and_eq_true] at hbad
    obtain ⟨phrase, hin, hfound⟩ := List.any_eq_true.mp hbad.1
    have hnone := h phrase (List.mem_flatMap.mpr ⟨a, List.mem_filter.mpr ⟨ha, hbad.2⟩, hin⟩)
    rw [hnone] at hfound
    cases hfound

end Audit

/-! ## The rendered text -/

/-- `label or ""`. -/
def labelText (m : Measures) (label : Option Sentence) : String :=
  (label.map (Sentence.text m)).getD ""

/-- The text of an entry, as it is looked through. -/
def rendered (m : Measures) (entry : ShortlistEntry) : String :=
  " ".intercalate (entry.name :: (entry.reasons.map (Sentence.text m) ++
    [labelText m entry.availabilityLabel, labelText m entry.feeLabel,
      labelText m entry.localityLabel]))

/-- What the audit finds fault with in the entry of a candidate, where slots can be suggested. -/
def entryViolations (p : Platform) (m : Measures) (offset : String → Int) (policy : ScoringPolicy)
    (rank : Nat) (t : TutorCandidate) (candidate : ScoredCandidate) (profileUrl : String)
    (r : MatchRequirement) : Option (List String) :=
  (offeredSlots offset t r).map fun slots =>
    let entry := (buildEntry p m policy rank t candidate profileUrl r (slotsLabel slots)).1
    assertNoFabrication t candidate.scores p (rendered m entry)

end NxTutors.Matching
