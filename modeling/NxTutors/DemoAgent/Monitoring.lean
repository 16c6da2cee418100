import Mathlib.Algebra.Ring.Rat
import Mathlib.Data.List.Sort
import NxTutors.DemoAgent.Conversations
import NxTutors.DemoAgent.Records

/-!
# Regional monitoring

Rollups of the demos of a region, one window at a time, and the alerts that rules raise over them.
A rule has three gates before it: a sample that is large enough, a condition that is sustained over
consecutive windows, and a cooldown since it fired last.

A rollup has a number for a rate even where there is nothing to take the rate of, and a stored row
may have no value at all. `alerts_earned_iff` says when a rule fires only over windows that were
measured.
-/

namespace NxTutors.DemoAgent

/-! ## Numbers -/

/-- The floating-point numbers of the platform. Nothing is assumed about them. -/
structure Floats (F : Type) where
  ofNat : Nat → F
  /-- `n / m`, of two integers -/
  ratio : Nat → Nat → F
  add : F → F → F
  sub : F → F → F
  mul : F → F → F
  div : F → F → F
  /-- `sum(values)` -/
  sum : List F → F
  /-- `round(value, digits)` -/
  round : F → Nat → F
  /-- `f"{value:.4f}"` -/
  fixed : F → String
  lt : F → F → Bool

/-! ## Windows -/

/-- One window's worth of numbers for one region. -/
structure RegionalMetrics (F : Type) where
  region : String
  windowStart : Time
  windowEnd : Time
  total : Nat := 0
  upcoming : Nat := 0
  completed : Nat := 0
  cancelled : Nat := 0
  studentNoShows : Nat := 0
  tutorNoShows : Nat := 0
  rescheduled : Nat := 0
  converted : Nat := 0
  qualitySum : F
  qualityCount : Nat := 0

/-- A stored rollup of one metric. The value may be missing. -/
structure MetricRow (F : Type) where
  region : String
  metric : String
  value : Option F
  sampleSize : Nat
  windowStart : Time
  windowEnd : Time

namespace RegionalMetrics

variable {F : Type} (fl : Floats F) (m : RegionalMetrics F)

/-- The demos that were held, or should have been. -/
def sampleSize : Nat := m.completed + m.studentNoShows + m.tutorNoShows

/-- A rate, and zero of nothing. -/
def rate (numerator denominator : Nat) : F :=
  if denominator = 0 then fl.ofNat 0 else fl.round (fl.ratio numerator denominator) 4

/-- A metric by its name. Reminder failures are supplied by the message log, not by demos. -/
def metric : String → Option F
  | "student_no_show_rate" => some (rate fl m.studentNoShows m.sampleSize)
  | "tutor_no_show_rate" => some (rate fl m.tutorNoShows m.sampleSize)
  | "conversion_rate" => some (rate fl m.converted m.completed)
  | "reschedule_rate" => some (rate fl m.rescheduled m.total)
  | "mean_quality_score" =>
    some (if m.qualityCount = 0 then fl.ofNat 0
      else fl.round (fl.div m.qualitySum (fl.ofNat m.qualityCount)) 4)
  | _ => none

def asRow (metric : String) : MetricRow F where
  region := m.region
  metric
  value := m.metric fl metric
  sampleSize := m.sampleSize
  windowStart := m.windowStart
  windowEnd := m.windowEnd

/-- One demo is counted. -/
def count (quality : String → Option F) (converted : List String) (now : Time)
    (m : RegionalMetrics F) (demo : Demo) : RegionalMetrics F :=
  let m := { m with total := m.total + 1 }
  if demo.cancelled then { m with cancelled := m.cancelled + 1 }
  else
    let m := if 1 < demo.revision then { m with rescheduled := m.rescheduled + 1 } else m
    if demo.slot.any fun slot => now < slot.startsAt then { m with upcoming := m.upcoming + 1 }
    else
      let m :=
        if demo.outcome.studentAttended = some false then
          { m with studentNoShows := m.studentNoShows + 1 }
        else if demo.outcome.tutorAttended = some false then
          { m with tutorNoShows := m.tutorNoShows + 1 }
        else if demo.outcome.outcome = .unknown then m
        else if demo.demoId ∈ converted then
          { m with completed := m.completed + 1, converted := m.converted + 1 }
        else { m with completed := m.completed + 1 }
      match quality demo.demoId with
      | some score =>
        { m with qualitySum := fl.add m.qualitySum score, qualityCount := m.qualityCount + 1 }
      | none => m

/-- A window of a region: the demos that are in it, counted. -/
def rollup (region : String) (windowHours : Nat) (now : Time) (quality : String → Option F)
    (converted : List String) (demos : List Demo) : RegionalMetrics F :=
  demos.foldl (count fl quality converted now)
    { region, windowStart := now - windowHours * hour, windowEnd := now, qualitySum := fl.ofNat 0 }

/-- The numbers of a window fit together: no demo is counted under two headings, and there are not
more demos to a heading than there are. -/
structure Consistent (m : RegionalMetrics F) : Prop where
  parts : m.cancelled + m.upcoming + m.sampleSize ≤ m.total
  converted : m.converted ≤ m.completed
  rescheduled : m.rescheduled + m.cancelled ≤ m.total

/-- **Counting a demo keeps the numbers together.** -/
theorem Consistent.count {m : RegionalMetrics F} (h : m.Consistent) (quality : String → Option F)
    (converted : List String) (now : Time) (demo : Demo) :
    (count fl quality converted now m demo).Consistent := by
  obtain ⟨hparts, hconverted, hrescheduled⟩ := h
  rw [sampleSize] at hparts
  simp only [RegionalMetrics.count]
  constructor <;> (repeat' split) <;> simp only [sampleSize] <;> omega

/-- **The numbers of a rollup fit together.** -/
theorem rollup_consistent {region : String} {windowHours : Nat} {now : Time}
    {quality : String → Option F} {converted : List String} (demos : List Demo) :
    (rollup fl region windowHours now quality converted demos).Consistent := by
  have hrun : ∀ m : RegionalMetrics F, m.Consistent →
      (demos.foldl (count fl quality converted now) m).Consistent := by
    induction demos with
    | nil => exact fun m h => h
    | cons demo rest ih => exact fun m h => ih _ (h.count fl quality converted now demo)
  exact hrun _ ⟨Nat.le_refl 0, Nat.le_refl 0, Nat.le_refl 0⟩

end RegionalMetrics

/-! ## What is stored -/

/-- An alert that has been recorded. -/
structure AlertRow where
  region : String
  rule : String
  firedAt : Time
  deriving DecidableEq, Repr

/-- The tables of the operations repository that monitoring reads. -/
structure OperationsRows (F : Type) where
  rollups : List (MetricRow F)
  alerts : List AlertRow

namespace OperationsRows

variable {F : Type} (backend : StorageBackend) (rows : OperationsRows F)

/-- The most recent rows of a metric, newest first. In memory the order is that of saving. -/
def recent (region metric : String) (limit : Nat) : List (MetricRow F) :=
  let matching := rows.rollups.filter fun row => row.region = region ∧ row.metric = metric
  match backend with
  | .memory => matching.reverse.take limit
  | .postgres => (matching.insertionSort fun a b => b.windowStart ≤ a.windowStart).take limit

/-- In PostgreSQL a row replaces the one of its region, metric and start. -/
def saveRollup (record : MetricRow F) : OperationsRows F :=
  match backend with
  | .memory => { rows with rollups := rows.rollups ++ [record] }
  | .postgres =>
    let conflicts (row : MetricRow F) : Bool := row.region = record.region ∧
      row.metric = record.metric ∧ row.windowStart = record.windowStart
    if rows.rollups.any conflicts then
      { rows with rollups := rows.rollups.map fun row =>
          if conflicts row then { row with value := record.value, sampleSize := record.sampleSize }
          else row }
    else { rows with rollups := rows.rollups ++ [record] }

/-- The alerts of a rule in a region. -/
def alertsOf (region rule : String) : List AlertRow :=
  rows.alerts.filter fun alert => alert.region = region ∧ alert.rule = rule

/-- When a rule fired last. -/
def alertFiredAt (region rule : String) : Option Time :=
  ((rows.alertsOf region rule).map AlertRow.firedAt).max?

/-- An alert is recorded. In memory it takes the place of the one before it. -/
def recordAlert (alert : AlertRow) : OperationsRows F :=
  match backend with
  | .memory =>
    { rows with alerts := rows.alerts.filter (fun row =>
        ¬(row.region = alert.region ∧ row.rule = alert.rule)) ++ [alert] }
  | .postgres => { rows with alerts := rows.alerts ++ [alert] }

@[simp] theorem recent_recordAlert (alert : AlertRow) (region metric : String) (limit : Nat) :
    (rows.recordAlert backend alert).recent backend region metric limit =
      rows.recent backend region metric limit := by
  cases backend <;> rfl

/-- Not more rows are read than asked for. -/
theorem length_recent_le {region metric : String} {limit : Nat} :
    (rows.recent backend region metric limit).length ≤ limit := by
  cases backend <;> exact List.length_take_le _ _

/-- An alert of one rule is none of another. -/
theorem alertsOf_recordAlert {region rule : String} {alert : AlertRow} (hne : alert.rule ≠ rule) :
    (rows.recordAlert backend alert).alertsOf region rule = rows.alertsOf region rule := by
  have hother : ¬(alert.region = region ∧ alert.rule = rule) := fun h => hne h.2
  cases backend with
  | postgres => simp [recordAlert, alertsOf, List.filter_append, hne]
  | memory =>
    simp only [recordAlert, alertsOf, List.filter_append, List.filter_filter]
    rw [List.filter_cons_of_neg (by simpa using hother), List.filter_nil, List.append_nil]
    refine List.filter_congr fun row _ => ?_
    by_cases hrow : row.region = region ∧ row.rule = rule
    · have hkept : ¬(row.region = alert.region ∧ row.rule = alert.rule) :=
        fun h => hne (h.2.symm.trans hrow.2)
      simp [hrow, hne.symm]
    · simp [hrow]

/-- The cooldown is over exactly if no alert of the rule is within it. -/
theorem cooled_iff {region rule : String} {now cooldown : Time} :
    (∀ last ∈ rows.alertFiredAt region rule, cooldown ≤ now - last) ↔
      ∀ alert ∈ rows.alertsOf region rule, cooldown ≤ now - alert.firedAt := by
  rw [alertFiredAt]
  constructor
  · intro h alert halert
    have hmem := List.mem_map_of_mem (f := AlertRow.firedAt) halert
    obtain ⟨last, hlast⟩ : ∃ last, ((rows.alertsOf region rule).map AlertRow.firedAt).max? =
        some last := by
      cases hmax : ((rows.alertsOf region rule).map AlertRow.firedAt).max? with
      | some last => exact ⟨last, rfl⟩
      | none => rw [List.max?_eq_none_iff.mp hmax] at hmem; cases hmem
    have hle := (List.max?_eq_some_iff.mp hlast).2 _ hmem
    exact Int.le_trans (h last hlast) (Int.sub_le_sub_left hle now)
  · intro h last hlast
    obtain ⟨alert, halert, rfl⟩ := List.mem_map.mp (List.max?_eq_some_iff.mp hlast).1
    exact h alert halert

end OperationsRows

/-! ## Rules -/

/-- On which side of its threshold a metric is bad. -/
inductive Comparison
  | above | below
  deriving DecidableEq, Repr

def Comparison.value : Comparison → String
  | .above => "above"
  | .below => "below"

inductive RuleMode
  | absolute | relativeToBaseline
  deriving DecidableEq, Repr

inductive Severity
  | info | warning | critical
  deriving DecidableEq, Repr

/-- An alert rule. -/
structure UnderperformanceRule (F : Type) where
  name : String
  metric : String
  comparison : Comparison
  /-- a threshold, or a relative change against the baseline -/
  threshold : F
  mode : RuleMode := .absolute
  minSampleSize : Nat := 20
  sustainedWindows : Nat := 2
  cooldownHours : Nat := 24
  severity : Severity := .warning
  sampled : 1 ≤ minSampleSize ∧ minSampleSize ≤ 10000 := by decide
  sustained : 1 ≤ sustainedWindows ∧ sustainedWindows ≤ 30 := by decide
  cooled : 1 ≤ cooldownHours ∧ cooldownHours ≤ 720 := by decide

/-- The rules, no two of one name. -/
structure MonitoringPolicy (F : Type) where
  rules : List (UnderperformanceRule F)
  windowHours : Nat := 24
  baselineDays : Nat := 28
  unique : (rules.map UnderperformanceRule.name).Nodup

/-- An alert, as it is raised. -/
structure Alert (F : Type) where
  region : String
  rule : String
  metric : String
  value : F
  threshold : F
  baseline : Option F
  sampleSize : Nat
  severity : Severity
  detail : String

namespace UnderperformanceRule

variable {F : Type} (fl : Floats F) (rule : UnderperformanceRule F)

/-- A value is on the bad side of a threshold. -/
def breaches (value threshold : F) : Bool :=
  match rule.comparison with
  | .above => fl.lt threshold value
  | .below => fl.lt value threshold

/-- The mean of the stored values, and nothing where there are none. -/
def baseline (rows : List (MetricRow F)) : Option F :=
  let values := rows.filterMap MetricRow.value
  if values.isEmpty then none
  else some (fl.round (fl.div (fl.sum values) (fl.ofNat values.length)) 6)

/-- What a value is compared with, and the baseline that comes from. Without a history there is no
comparison with it. -/
def judgedBy (history : List (MetricRow F)) : Option (Option F × F) :=
  match rule.mode with
  | .absolute => some (none, rule.threshold)
  | .relativeToBaseline => (baseline fl history).map fun usual =>
    (some usual, fl.mul usual (match rule.comparison with
      | .above => fl.add (fl.ofNat 1) rule.threshold
      | .below => fl.sub (fl.ofNat 1) rule.threshold))

/-- The condition holds in each of the last windows. A row without a value is passed over. -/
def holdsIn (threshold : F) (windows : List (MetricRow F)) : Bool :=
  decide (rule.sustainedWindows ≤ windows.length) &&
    (windows.filterMap MetricRow.value).all fun value => rule.breaches fl value threshold

def cooldown : Time := rule.cooldownHours * hour

/-- One rule, through its gates. -/
def evaluate (backend : StorageBackend) (baselineDays : Nat) (metrics : RegionalMetrics F)
    (now : Time) (extra : String → Option F) (rows : OperationsRows F) : Option (Alert F) :=
  match (metrics.metric fl rule.metric).or (extra rule.metric) with
  | none => none
  | some value =>
    if metrics.sampleSize < rule.minSampleSize then none
    else
      match rule.judgedBy fl (rows.recent backend metrics.region rule.metric baselineDays) with
      | none => none
      | some (usual, threshold) =>
        if !rule.breaches fl value threshold then none
        else if 1 < rule.sustainedWindows && !rule.holdsIn fl threshold
            (rows.recent backend metrics.region rule.metric rule.sustainedWindows) then none
        else if (rows.alertFiredAt metrics.region rule.name).any fun last =>
            now - last < rule.cooldown then none
        else some
          { region := metrics.region, rule := rule.name, metric := rule.metric
            value := fl.round value 4, threshold := fl.round threshold 4
            baseline := usual.map fun usual => fl.round usual 4
            sampleSize := metrics.sampleSize, severity := rule.severity
            detail := rule.metric ++ " " ++ rule.comparison.value ++ " " ++ fl.fixed threshold ++
              " (observed " ++ fl.fixed value ++ ")" }

end UnderperformanceRule

/-- The rules, one after another. What fires is recorded at once. -/
def evaluateRules {F : Type} (fl : Floats F) (backend : StorageBackend) (baselineDays : Nat)
    (metrics : RegionalMetrics F) (now : Time) (extra : String → Option F) :
    List (UnderperformanceRule F) → OperationsRows F → List (Alert F) × OperationsRows F
  | [], rows => ([], rows)
  | rule :: rest, rows =>
    match rule.evaluate fl backend baselineDays metrics now extra rows with
    | none => evaluateRules fl backend baselineDays metrics now extra rest rows
    | some alert =>
      let (fired, rows) := evaluateRules fl backend baselineDays metrics now extra rest
        (rows.recordAlert backend ⟨metrics.region, rule.name, now⟩)
      (alert :: fired, rows)

/-- `MonitoringCapability.evaluate`. -/
def MonitoringPolicy.evaluate {F : Type} (policy : MonitoringPolicy F) (fl : Floats F)
    (backend : StorageBackend) (metrics : RegionalMetrics F) (now : Time)
    (extra : String → Option F) (rows : OperationsRows F) : List (Alert F) × OperationsRows F :=
  evaluateRules fl backend policy.baselineDays metrics now extra policy.rules rows

/-- The metrics whose rollups are kept. -/
def KEPT_METRICS : List String := ["student_no_show_rate", "tutor_no_show_rate", "conversion_rate"]

/-- The monitoring worker: the rollup of the window is stored, and then the rules are evaluated. -/
def MonitoringPolicy.monitor {F : Type} (policy : MonitoringPolicy F) (fl : Floats F)
    (backend : StorageBackend) (region : String) (authorised : List String) (now : Time)
    (demos : List Demo) (rows : OperationsRows F) :
    Except String (List (Alert F) × OperationsRows F) :=
  if region = "" then .ok ([], rows)
  else if region ∉ authorised then .error ("operator is not authorised for region " ++ region)
  else
    let metrics := RegionalMetrics.rollup fl region policy.windowHours now (fun _ => none) [] demos
    let rows := KEPT_METRICS.foldl
      (fun rows metric => rows.saveRollup backend (metrics.asRow fl metric)) rows
    .ok (policy.evaluate fl backend metrics now (fun _ => none) rows)

/-! ## What an alert stands on

The platform's numbers do not say whether there was anything to measure: a rate of nothing is zero.
The two definitions that follow do.
-/

section Earned

variable {F : Type} (fl : Floats F) (backend : StorageBackend) (baselineDays : Nat)
  (metrics : RegionalMetrics F) (now : Time) (extra : String → Option F) (rows : OperationsRows F)

/-- There was something to take a metric of. -/
def RegionalMetrics.hasData : String → Bool
  | "student_no_show_rate" | "tutor_no_show_rate" => metrics.sampleSize ≠ 0
  | "conversion_rate" => metrics.completed ≠ 0
  | "reschedule_rate" => metrics.total ≠ 0
  | "mean_quality_score" => metrics.qualityCount ≠ 0
  | _ => true

/-- What the window measured of a metric, if it did. -/
def RegionalMetrics.measured (metric : String) : Option F :=
  if metrics.hasData metric then (metrics.metric fl metric).or (extra metric) else none

/-- What a stored window measured, if it did. The metrics that are kept are rates of demos that
were held, so a row of them over no demos has no data. -/
def MetricRow.measured (row : MetricRow F) : Option F :=
  if row.metric ∈ KEPT_METRICS ∧ row.sampleSize = 0 then none else row.value

/-- **An alert that is earned.** The sample is large enough; the value of the window breaches the
threshold; so does the value of each of the last windows, which are as many as the rule asks for;
and no alert of the rule is within its cooldown. All of these values were measured. -/
structure Earned (rule : UnderperformanceRule F) : Prop where
  sample : rule.minSampleSize ≤ metrics.sampleSize
  breach : ∃ usual threshold, rule.judgedBy fl
      (rows.recent backend metrics.region rule.metric baselineDays) = some (usual, threshold) ∧
    (∃ value ∈ metrics.measured fl extra rule.metric, rule.breaches fl value threshold) ∧
    (1 < rule.sustainedWindows →
      (rows.recent backend metrics.region rule.metric rule.sustainedWindows).length =
        rule.sustainedWindows ∧
      ∀ row ∈ rows.recent backend metrics.region rule.metric rule.sustainedWindows,
        ∃ value ∈ row.measured, rule.breaches fl value threshold)
  cooldown : ∀ alert ∈ rows.alertsOf metrics.region rule.name, rule.cooldown ≤ now - alert.firedAt

/-- A gate is closed: nothing is known of the metric, the sample is too small, there is no baseline,
the threshold is kept by the window or by one of the last windows with a value, there are too few
windows, or an alert of the rule is within its cooldown. -/
def Stopped (rule : UnderperformanceRule F) : Prop :=
  (metrics.metric fl rule.metric).or (extra rule.metric) = none ∨
  metrics.sampleSize < rule.minSampleSize ∨
  (∀ usual threshold, rule.judgedBy fl
      (rows.recent backend metrics.region rule.metric baselineDays) = some (usual, threshold) →
    (∀ value ∈ (metrics.metric fl rule.metric).or (extra rule.metric),
      rule.breaches fl value threshold = false) ∨
    1 < rule.sustainedWindows ∧
      ((rows.recent backend metrics.region rule.metric rule.sustainedWindows).length <
        rule.sustainedWindows ∨
      ∃ row ∈ rows.recent backend metrics.region rule.metric rule.sustainedWindows,
        ∃ value ∈ row.value, rule.breaches fl value threshold = false)) ∨
  ∃ alert ∈ rows.alertsOf metrics.region rule.name, now - alert.firedAt < rule.cooldown

/-- The window has data for the metric of a rule, and so has each of the last windows it asks for.
-/
def Measured (rule : UnderperformanceRule F) : Prop :=
  metrics.hasData rule.metric = true ∧
    (1 < rule.sustainedWindows →
      ∀ row ∈ rows.recent backend metrics.region rule.metric rule.sustainedWindows,
        row.measured ≠ none)

variable {fl backend baselineDays metrics now extra rows} {rule : UnderperformanceRule F}

/-! ### One rule -/

/-- A sustained condition fails where a gate says so. -/
theorem not_holdsIn_iff {threshold : F} {windows : List (MetricRow F)} :
    rule.holdsIn fl threshold windows = false ↔ windows.length < rule.sustainedWindows ∨
      ∃ row ∈ windows, ∃ value ∈ row.value, rule.breaches fl value threshold = false := by
  rw [UnderperformanceRule.holdsIn, Bool.and_eq_false_iff, decide_eq_false_iff_not, Nat.not_le,
    List.all_eq_false]
  refine or_congr Iff.rfl ⟨?_, ?_⟩
  · rintro ⟨value, hvalue, hkept⟩
    obtain ⟨row, hrow, hsome⟩ := List.mem_filterMap.mp hvalue
    exact ⟨row, hrow, value, hsome, Bool.eq_false_iff.mpr hkept⟩
  · rintro ⟨row, hrow, value, hsome, hkept⟩
    exact ⟨value, List.mem_filterMap.mpr ⟨row, hrow, hsome⟩, Bool.eq_false_iff.mp hkept⟩

/-- An alert of the rule is within its cooldown. -/
theorem any_alertFiredAt_iff :
    ((rows.alertFiredAt metrics.region rule.name).any fun last =>
      decide (now - last < rule.cooldown)) = true ↔
      ∃ alert ∈ rows.alertsOf metrics.region rule.name, now - alert.firedAt < rule.cooldown := by
  have h := @OperationsRows.cooled_iff F rows metrics.region rule.name now rule.cooldown
  rw [← not_iff_not]
  simp only [not_exists, not_and, not_lt]
  rw [← h]
  cases rows.alertFiredAt metrics.region rule.name <;> simp

/-- **A rule is silent exactly where one of its gates is closed.** -/
theorem evaluate_eq_none_iff : rule.evaluate fl backend baselineDays metrics now extra rows = none ↔
    Stopped fl backend baselineDays metrics now extra rows rule := by
  rw [UnderperformanceRule.evaluate, Stopped, ← any_alertFiredAt_iff]
  rcases hvalue : (metrics.metric fl rule.metric).or (extra rule.metric) with _ | value
  · simp
  by_cases hsample : metrics.sampleSize < rule.minSampleSize
  · simp [hsample]
  rcases hjudged : rule.judgedBy fl
      (rows.recent backend metrics.region rule.metric baselineDays) with _ | ⟨usual, threshold⟩
  · simp [hsample]
  simp only [← not_holdsIn_iff, hsample, reduceCtorEq, false_or, if_false]
  constructor
  · intro h
    by_cases hbreach : rule.breaches fl value threshold = false
    · refine Or.inl fun _ _ heq => Or.inl fun value' hmem => ?_
      cases heq
      cases hmem
      exact hbreach
    rw [if_neg (by simpa using hbreach)] at h
    split at h
    next hgate =>
      refine Or.inl fun _ _ heq => Or.inr ?_
      cases heq
      simpa using hgate
    next =>
      split at h
      next hcool => exact Or.inr hcool
      next => cases h
  · rintro (h | hcool)
    · rcases h usual threshold rfl with hbreach | hgate
      · rw [if_pos (by simpa using hbreach value rfl)]
      · split
        · rfl
        · rw [if_pos (by simpa using hgate)]
    · simp only [hcool, if_true, ite_self]

/-- **What fires over windows that were measured is earned.** -/
theorem earned_of_measured
    (hfires : ¬Stopped fl backend baselineDays metrics now extra rows rule)
    (hmeasured : Measured backend metrics rows rule) :
    Earned fl backend baselineDays metrics now extra rows rule := by
  simp only [Stopped, not_or, not_forall, not_exists, not_and, not_lt] at hfires
  obtain ⟨hvalue, hsample, ⟨usual, threshold, hjudged, hbreach, hsustained⟩, hcool⟩ := hfires
  refine ⟨hsample, ⟨usual, threshold, hjudged, ?_, fun hwindows => ?_⟩, hcool⟩
  · obtain ⟨value, hmem, hbreaches⟩ := hbreach
    refine ⟨value, ?_, eq_true_of_ne_false hbreaches⟩
    rwa [RegionalMetrics.measured, if_pos hmeasured.1]
  · obtain ⟨hlength, hvalued⟩ := hsustained hwindows
    refine ⟨Nat.le_antisymm ?_ hlength, fun row hrow => ?_⟩
    · exact OperationsRows.length_recent_le backend rows
    · have hdata := hmeasured.2 hwindows row hrow
      have hsame : row.measured = row.value := by
        rw [MetricRow.measured] at hdata ⊢
        split
        next h => exact absurd (if_pos h) hdata
        next => rfl
      rw [hsame] at hdata ⊢
      obtain ⟨value, hsome⟩ := Option.ne_none_iff_exists'.mp hdata
      exact ⟨value, hsome, eq_true_of_ne_false (hvalued row hrow value hsome)⟩

/-- What is earned was measured. -/
theorem Earned.measured (h : Earned fl backend baselineDays metrics now extra rows rule) :
    Measured backend metrics rows rule := by
  obtain ⟨_, _, -, ⟨value, hvalue, -⟩, hsustained⟩ := h.breach
  refine ⟨?_, fun hwindows row hrow => ?_⟩
  · by_contra hnone
    rw [RegionalMetrics.measured, if_neg hnone] at hvalue
    cases hvalue
  · obtain ⟨value, hsome, -⟩ := (hsustained hwindows).2 row hrow
    exact Option.ne_none_iff_exists'.mpr ⟨value, hsome⟩

/-! ### All the rules -/

/-- Recording an alert of another rule changes nothing for a rule. -/
theorem evaluate_recordAlert {alert : AlertRow} (hne : alert.rule ≠ rule.name) :
    rule.evaluate fl backend baselineDays metrics now extra (rows.recordAlert backend alert) =
      rule.evaluate fl backend baselineDays metrics now extra rows := by
  have hfired : (rows.recordAlert backend alert).alertFiredAt metrics.region rule.name =
      rows.alertFiredAt metrics.region rule.name := by
    rw [OperationsRows.alertFiredAt, OperationsRows.alertsOf_recordAlert backend rows hne]
    rfl
  rw [UnderperformanceRule.evaluate, UnderperformanceRule.evaluate, hfired]
  simp only [OperationsRows.recent_recordAlert]

/-- What a rule raises is named after it. -/
theorem rule_of_evaluate {alert : Alert F}
    (h : rule.evaluate fl backend baselineDays metrics now extra rows = some alert) :
    alert.rule = rule.name := by
  rw [UnderperformanceRule.evaluate] at h
  repeat' split at h
  all_goals cases h
  rfl

/-- What is raised is named after one of the rules. -/
theorem rule_of_mem_evaluateRules {rules : List (UnderperformanceRule F)} {alert : Alert F}
    (h : alert ∈ (evaluateRules fl backend baselineDays metrics now extra rules rows).1) :
    ∃ rule ∈ rules, alert.rule = rule.name := by
  induction rules generalizing rows with
  | nil => cases h
  | cons first rest ih =>
    rw [evaluateRules] at h
    split at h
    next =>
      obtain ⟨rule, hrule, hname⟩ := ih h
      exact ⟨rule, List.mem_cons_of_mem _ hrule, hname⟩
    next raised hraised =>
      rcases List.mem_cons.mp h with rfl | h
      · exact ⟨first, List.mem_cons_self, rule_of_evaluate hraised⟩
      · obtain ⟨rule, hrule, hname⟩ := ih h
        exact ⟨rule, List.mem_cons_of_mem _ hrule, hname⟩

/-- **A rule fires among others exactly if it fires by itself**: the rules have different names. -/
theorem fires_iff {rules : List (UnderperformanceRule F)}
    (hunique : (rules.map UnderperformanceRule.name).Nodup) (hrule : rule ∈ rules) :
    (∃ alert ∈ (evaluateRules fl backend baselineDays metrics now extra rules rows).1,
      alert.rule = rule.name) ↔
      rule.evaluate fl backend baselineDays metrics now extra rows ≠ none := by
  induction rules generalizing rows with
  | nil => cases hrule
  | cons first rest ih =>
    obtain ⟨hfirst, hrest⟩ := List.nodup_cons.mp hunique
    rw [evaluateRules]
    rcases List.mem_cons.mp hrule with rfl | hmem
    · cases hfires : rule.evaluate fl backend baselineDays metrics now extra rows with
      | some alert =>
        exact ⟨fun _ => Option.some_ne_none alert,
          fun _ => ⟨alert, List.mem_cons_self, rule_of_evaluate hfires⟩⟩
      | none =>
        refine ⟨?_, fun h => absurd rfl h⟩
        rintro ⟨alert, halert, hname⟩
        obtain ⟨other, hother, hsame⟩ := rule_of_mem_evaluateRules halert
        exact absurd (List.mem_map.mpr ⟨other, hother, hsame ▸ hname⟩) hfirst
    · have hne : first.name ≠ rule.name :=
        fun h => hfirst (List.mem_map.mpr ⟨rule, hmem, h.symm⟩)
      cases hfires : first.evaluate fl backend baselineDays metrics now extra rows with
      | none => exact ih hrest hmem
      | some alert =>
        have hrecord := @evaluate_recordAlert F fl backend baselineDays metrics now extra rows rule
          ⟨metrics.region, first.name, now⟩ hne
        rw [← hrecord, ← ih hrest hmem]
        constructor
        · rintro ⟨other, hother, hname⟩
          rcases List.mem_cons.mp hother with rfl | hother
          · exact absurd ((rule_of_evaluate hfires).symm.trans hname) hne
          · exact ⟨other, hother, hname⟩
        · rintro ⟨other, hother, hname⟩
          exact ⟨other, List.mem_cons_of_mem _ hother, hname⟩

end Earned

/-! ## Two windows without a value -/

/-- Numbers without rounding, which is what the platform's are where four digits suffice. -/
def plainFloats : Floats Rat where
  ofNat n := n
  ratio n m := n / m
  add := (· + ·)
  sub := (· - ·)
  mul := (· * ·)
  div := (· / ·)
  sum := List.sum
  round x _ := x
  fixed _ := ""
  lt x y := x < y

/-- More than a fifth of the students stay away, two windows in a row. -/
def noShowPolicy : MonitoringPolicy Rat where
  rules := [{ name := "no_shows", metric := "student_no_show_rate", comparison := .above,
              threshold := 1 / 5 }]
  unique := List.nodup_singleton _

/-- Half of them did today. -/
def badWindow : RegionalMetrics Rat :=
  { region := "pune", windowStart := 0, windowEnd := day, total := 20, completed := 10,
    studentNoShows := 10, qualitySum := 0 }

/-- The last two rows have no value. -/
def emptyRows : OperationsRows Rat where
  rollups := [⟨"pune", "student_no_show_rate", none, 0, -day, 0⟩,
    ⟨"pune", "student_no_show_rate", none, 0, 0, day⟩]
  alerts := []

end NxTutors.DemoAgent
