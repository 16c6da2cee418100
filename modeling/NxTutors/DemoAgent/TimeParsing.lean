import Mathlib.Data.List.Sort
import NxTutors.DemoAgent.Time
import NxTutors.Numbers.Calendar
import NxTutors.Numbers.Decimal
import NxTutors.Text.RegexRules

/-!
# Times in free text

What a parent types is read as a day and a time, relative to what the clocks of their zone show now.
A day is a relative word, or else a weekday, or else a date; a time is the first number that can be
the hour of a demo, or else a part of the day.

A result is sound: the slot lies in the booking window and starts at an hour for demos, and only
what names both a day and a half of the day is confident. A date without a year that has passed is
moved to the next year, and that raises for a leap day (`leap_day_raises`). What else raises is
reckoning beyond the years 1 to 9999 (`interpret_sound_iff`).
-/

namespace NxTutors.DemoAgent.Timeparse

open Text (Re Tables)
open Numbers (Numerals natOf dayNumber)

/-- What the platform knows of characters. -/
structure Characters extends Numerals where
  digitValue_lt : ∀ c, isDigit c = true → digitValue c < 10
  digitValue_eq : ∀ c, c.isDigit = true → digitValue c = c.toNat - '0'.toNat
  isWord_of_isDigit : ∀ c, isDigit c = true → isWord c = true
  isSpace_of_isDigit : ∀ c, isDigit c = true → isSpace c = false
  isWord_iff : ∀ c, Text.Printable c → (isWord c = true ↔ c.isAlphanum = true ∨ c = '_')

/-! ## Words and patterns -/

def RELATIVE_DAYS : List (String × ℕ) :=
  [("today", 0), ("aaj", 0), ("aj", 0),
    ("tomorrow", 1), ("kal", 1), ("tmrw", 1), ("tmr", 1),
    ("day after tomorrow", 2), ("parso", 2), ("parsu", 2)]

def WEEKDAYS : List (String × ℤ) :=
  [("monday", 0), ("mon", 0), ("somvar", 0),
    ("tuesday", 1), ("tue", 1), ("tues", 1), ("mangalvar", 1),
    ("wednesday", 2), ("wed", 2), ("budhvar", 2),
    ("thursday", 3), ("thu", 3), ("thurs", 3), ("guruvar", 3),
    ("friday", 4), ("fri", 4), ("shukravar", 4),
    ("saturday", 5), ("sat", 5), ("shanivar", 5),
    ("sunday", 6), ("sun", 6), ("ravivar", 6)]

def DAYPARTS : List (String × ℕ) :=
  [("morning", 9), ("subah", 9), ("savere", 9),
    ("afternoon", 14), ("dopahar", 14),
    ("evening", 18), ("shaam", 18), ("sham", 18),
    ("night", 20), ("raat", 20)]

/-- One half of the day, `a\.?m\.?` or `p\.?m\.?`. -/
def half (c : Char) : Re :=
  .seqs [.ignoreCase c, .opt (.one (· = '.')), .ignoreCase 'm', .opt (.one (· = '.'))]

/-- The hour of a time. -/
def hourDigits (t : Tables) : Re :=
  .alt (.seq (.opt (.one fun c => c = '0' || c = '1')) (.one t.isDigit))
    (.seq (.one (· = '2')) (.one fun c => '0' ≤ c && c ≤ '3'))

/-- The minute of a time, with what is before it. -/
def minuteDigits (t : Tables) : Re :=
  .seq (.one fun c => c = ':' || c = '.')
    (.group 2 (.seq (.one fun c => '0' ≤ c && c ≤ '5') (.one t.isDigit)))

/-- What says that a number is a time. -/
def meridiem : Re := .group 3 (.alt (half 'a') (.alt (half 'p') (.wordIgnoreCase "baje")))

/-- `_TIME_RE`. Its groups are the hour, the minute and the meridiem. -/
def TIME_RE (t : Tables) : Re :=
  .seqs [.boundary, .group 1 (hourDigits t), .opt (minuteDigits t), .many t.isSpace,
    .opt meridiem, .boundary]

/-- What stands between the numbers of a date. -/
def dateSeparator : Re := .one fun c => c = '/' || c = '-' || c = '.'

/-- `_DATE_RE`. Its groups are the day, the month and the year. -/
def DATE_RE (t : Tables) : Re :=
  .seqs [.boundary, .group 1 (.seq (.opt (.one fun c => '0' ≤ c && c ≤ '3')) (.one t.isDigit)),
    dateSeparator, .group 2 (.seq (.opt (.one fun c => c = '0' || c = '1')) (.one t.isDigit)),
    .opt (.seq dateSeparator (.group 3 (.seqs [.one t.isDigit, .one t.isDigit,
      .opt (.seq (.one t.isDigit) (.opt (.one t.isDigit)))]))),
    .boundary]

def EARLIEST_HOUR : ℕ := 6

def LATEST_HOUR : ℕ := 22

section Readings

variable (p : Characters) (text : String)

/-- `re.search(rf"\b{re.escape(phrase)}\b", text)`. -/
def stands (phrase : String) : Bool :=
  (Re.search p.toTables (.seqs [.boundary, .word phrase, .boundary]) text).isSome

/-- The day offset of the longest relative word. -/
def relativeIn : Option ℕ :=
  ((RELATIVE_DAYS.insertionSort fun a b => b.1.length ≤ a.1.length).find?
    (stands p text ·.1)).map Prod.snd

/-- The first weekday. -/
def weekdayIn : Option ℤ := (WEEKDAYS.find? (stands p text ·.1)).map Prod.snd

/-- The day, the month and the year of the first date. -/
def dateIn : Option (ℕ × ℕ × Option ℕ) :=
  (Re.search p.toTables (DATE_RE p.toTables) text).map fun groups =>
    (natOf p.toNumerals ((groups 1).getD []), natOf p.toNumerals ((groups 2).getD []),
      (groups 3).map (natOf p.toNumerals))

/-- What is read as a time. It is confident if half of the day is named, and marked if anything says
that it is one. -/
structure Reading where
  hour : ℕ
  minute : ℕ
  confident : Bool
  marked : Bool
  deriving DecidableEq, Repr

/-- The hour of a match, with what its meridiem makes of it. -/
def promoted (hour : ℕ) (meridiem : String) : ℕ :=
  if meridiem.toList.head? = some 'p' ∧ hour < 12 then hour + 12
  else if meridiem.toList.head? = some 'a' ∧ hour = 12 then 0
  else if (meridiem = "" ∨ meridiem = "baje") ∧ 1 ≤ hour ∧ hour ≤ 8 then hour + 12
  else hour

/-- What a match is read as. -/
def readingOf (groups : ℕ → Option (List Char)) : Reading :=
  let meridiem := p.lower (String.ofList (((groups 3).getD []).filter (· ≠ '.')))
  { hour := promoted (natOf p.toNumerals ((groups 1).getD [])) meridiem
    minute := natOf p.toNumerals ((groups 2).getD ['0'])
    confident := meridiem.toList.head? = some 'a' || meridiem.toList.head? = some 'p'
    marked := meridiem ≠ "" }

/-- A demo may start at this hour. -/
def Reading.inHours (r : Reading) : Bool := EARLIEST_HOUR ≤ r.hour && r.hour ≤ LATEST_HOUR

/-- The numbers of a text that are read as times. -/
def times : List Reading :=
  ((TIME_RE p.toTables).findall p.toTables text).map fun m => readingOf p m.2

/-- `_resolve_time`. -/
def resolveTime : Option Reading :=
  match (times p text).find? Reading.inHours with
  | some r => some r
  | none => (DAYPARTS.find? (stands p text ·.1)).map fun part => ⟨part.2, 0, false, true⟩

end Readings

/-! ## Clocks -/

inductive DateError
  | overflowError | valueError | validationError
  deriving DecidableEq, Repr

/-- What a clock shows, and whether it shows it for the second time. -/
structure LocalTime where
  wall : Time
  fold : Bool := false
  deriving DecidableEq, Repr

/-- A zone: what its clocks show at a moment, and when they show it. -/
structure TimeZone where
  name : String
  wallClock : Time → LocalTime
  moment : LocalTime → Time

/-- A zone whose clocks are ahead by a fixed offset. -/
def TimeZone.fixed (name : String) (offset : Time) : TimeZone where
  name := name
  wallClock moment := { wall := moment + offset }
  moment shown := shown.wall - offset

/-- A `datetime` can hold it. -/
def datable (wall : Time) : Bool :=
  Numbers.MIN_DAY * day ≤ wall && wall < (Numbers.MAX_DAY + 1) * day

/-- A local time, if it can be held. -/
def LocalTime.held (l : LocalTime) : Except DateError LocalTime :=
  if datable l.wall then .ok l else .error .overflowError

/-- `l + timedelta(days=days)`. -/
def LocalTime.addDays (l : LocalTime) (days : ℤ) : Except DateError LocalTime :=
  LocalTime.held { wall := l.wall + days * day }

/-- The number of the day that a clock shows. -/
def LocalTime.date (l : LocalTime) : ℤ := l.wall / day

/-- The year that a clock shows. -/
def LocalTime.year (l : LocalTime) : ℕ := (civilDate l.date).1.toNat

/-- `l.weekday()`. -/
def LocalTime.weekday (l : LocalTime) : ℤ := (l.date + 3) % 7

/-- What a clock shows at a time of a day. -/
def wallAt (date : ℤ) (atHour atMinute : ℕ) : Time :=
  date * day + atHour * hour + atMinute * minute

/-- `l.replace(hour=atHour, minute=atMinute, second=0, microsecond=0)`. -/
def LocalTime.atTime (l : LocalTime) (atHour atMinute : ℕ) : LocalTime :=
  { l with wall := wallAt l.date atHour atMinute }

/-- How many days ahead a weekday is. -/
def daysAhead (text : String) (weekday : ℤ) (localNow : LocalTime) : ℤ :=
  let ahead := (weekday - localNow.weekday) % 7
  let ahead := if ahead = 0 then 7 else ahead
  if Text.contains text "next" && ahead < 7 then ahead + 7 else ahead

/-- The year of a date that was written, two digits being those of this century. -/
def fullYear (localNow : LocalTime) (rawYear : Option ℕ) : ℕ :=
  let year := rawYear.getD localNow.year
  if year < 100 then year + 2000 else year

/-- The date that is written, or the one of next year if it is written without a year and has
passed. -/
def resolveDate (localNow : LocalTime) (dayOfMonth month : ℕ) (rawYear : Option ℕ) :
    Except DateError (Option LocalTime) :=
  let year := fullYear localNow rawYear
  match dayNumber year month dayOfMonth with
  | none => .ok none
  | some candidate =>
    if rawYear.isNone && candidate < localNow.date then
      match dayNumber (year + 1) month dayOfMonth with
      | none => .error .valueError
      | some candidate => .ok (some { localNow with wall := candidate * day })
    else .ok (some { localNow with wall := candidate * day })

/-- `_resolve_day`. -/
def resolveDay (p : Characters) (text : String) (localNow : LocalTime) :
    Except DateError (Option LocalTime) :=
  match relativeIn p text with
  | some offset => (localNow.addDays offset).map some
  | none =>
    match weekdayIn p text with
    | some weekday => (localNow.addDays (daysAhead text weekday localNow)).map some
    | none =>
      match dateIn p text with
      | some (dayOfMonth, month, rawYear) => resolveDate localNow dayOfMonth month rawYear
      | none => .ok none

/-! ## Interpretation -/

/-- A parsed time, with how it was reached. -/
structure TimeGuess where
  slot : Option TimeSlot
  confident : Bool
  reason : String
  partialDay : Option LocalTime := none
  deriving DecidableEq, Repr

/-- The local time of a reading, on the day that is named or from now on. -/
def candidateOf (localNow : LocalTime) (named : Option LocalTime) (r : Reading) :
    Except DateError LocalTime :=
  let candidate := (named.getD localNow).atTime r.hour r.minute
  if named.isNone && candidate.wall ≤ localNow.wall then candidate.addDays 1 else .ok candidate

/-- The slot that starts at a local time, if it can be booked. -/
def slotAt (zone : TimeZone) (now : Time) (durationMinutes : ℤ) (named : Option LocalTime)
    (r : Reading) (candidate : LocalTime) : Except DateError TimeGuess :=
  if !datable (zone.moment candidate) then .error .overflowError
  else if bounded : 15 ≤ durationMinutes ∧ durationMinutes ≤ 180 then
    let slot : TimeSlot :=
      { startsAt := zone.moment candidate, durationMinutes, timezone := zone.name, bounded }
    match slot.bookableFrom now with
    | some reason => .ok { slot := none, confident := false, reason }
    | none => .ok { slot := some slot, confident := r.confident && named.isSome, reason := "parsed" }
  else .error .validationError

/-- **`interpret`.** -/
def interpret (p : Characters) (zone : TimeZone) (text : String) (now : Time)
    (durationMinutes : ℤ := 45) : Except DateError TimeGuess := do
  let localNow ← (zone.wallClock now).held
  let lowered := Text.squash p.toTables text
  let named ← resolveDay p lowered localNow
  match resolveTime p lowered with
  | none =>
    if named.isNone then
      .ok { slot := none, confident := false, reason := "no_temporal_expression" }
    else .ok { slot := none, confident := false, reason := "time_missing", partialDay := named }
  | some r =>
    if named.isNone && !r.marked then
      .ok { slot := none, confident := false, reason := "no_temporal_expression" }
    else if !r.inHours then
      .ok { slot := none, confident := false, reason := "hour_out_of_range:" ++ toString r.hour }
    else do
      let candidate ← candidateOf localNow named r
      slotAt zone now durationMinutes named r candidate

/-! ## What a time is made of -/

/-- A small letter in its two cases. -/
def caseless (c : Char) : List Char := [c, c.toUpper]

/-- The ways to write one half of the day. -/
def halves (c : Char) : List (List Char) :=
  (caseless c).flatMap fun x => [[], ['.']].flatMap fun d => (caseless 'm').flatMap fun y =>
    [[], ['.']].map fun e => x :: (d ++ y :: e)

/-- The ways to write that a number is a time. -/
def bajes : List (List Char) :=
  (caseless 'b').flatMap fun b => (caseless 'a').flatMap fun a => (caseless 'j').flatMap fun j =>
    (caseless 'e').map fun e => [b, a, j, e]

section Parts

variable {t : Tables} {at' end' : Text.Cursor}

/-- What is written as an hour. -/
def HourText (t : Tables) (cs : List Char) : Prop :=
  (∃ x, cs = [x] ∧ t.isDigit x = true) ∨
    (∃ x y, cs = [x, y] ∧ (x = '0' ∨ x = '1') ∧ t.isDigit y = true) ∨
      ∃ y, cs = ['2', y] ∧ '0' ≤ y ∧ y ≤ '3'

/-- What is written as minutes, with what is before them. -/
def MinuteText (t : Tables) (cs : List Char) : Prop :=
  cs = [] ∨ ∃ c x y, cs = [c, x, y] ∧ (c = ':' ∨ c = '.') ∧ ('0' ≤ x ∧ x ≤ '5') ∧
    t.isDigit y = true

/-- What is written behind a time. -/
def MeridiemText (cs : List Char) : Prop :=
  cs = [] ∨ cs ∈ halves 'a' ∨ cs ∈ halves 'p' ∨ cs ∈ bajes

/-- A match of a time, from one position to another. -/
structure TimeMatch (t : Tables) (at' end' : Text.Cursor) (digits minutes gap meridiem : List Char) :
    Prop where
  rest : at'.rest = digits ++ (minutes ++ (gap ++ (meridiem ++ end'.rest)))
  boundary : (at'.before.any t.isWord != at'.rest.head?.any t.isWord) = true
  hourText : HourText t digits
  minuteText : MinuteText t minutes
  blank : ∀ c ∈ gap, t.isSpace c = true
  meridiemText : MeridiemText meridiem
  hour : end'.groups 1 = some digits
  minute : end'.groups 2 = if minutes = [] then none else some (minutes.drop 1)
  half : end'.groups 3 = if meridiem = [] then none else some meridiem

theorem leads_ignoreCase {c : Char} (hc : c ≠ 's' ∧ c ≠ 'i')
    (h : (Re.ignoreCase c).Leads t at' end') :
    ∃ x ∈ caseless c, at'.rest = x :: end'.rest ∧ end'.groups = at'.groups := by
  obtain ⟨x, cs, hrest, hx, rfl⟩ := h
  refine ⟨x, ?_, hrest, rfl⟩
  simpa [hc.1, hc.2, caseless] using hx

theorem leads_dot (h : (Re.opt (.one (· = '.'))).Leads t at' end') :
    ∃ d ∈ [[], ['.']], at'.rest = d ++ end'.rest ∧ end'.groups = at'.groups := by
  rcases h with ⟨c, cs, hrest, hc, rfl⟩ | rfl
  · obtain rfl := of_decide_eq_true hc
    exact ⟨['.'], by simp, hrest, rfl⟩
  · exact ⟨[], by simp, rfl, rfl⟩

theorem leads_half {c : Char} (hc : c ≠ 's' ∧ c ≠ 'i') (h : (half c).Leads t at' end') :
    ∃ cs ∈ halves c, at'.rest = cs ++ end'.rest ∧ end'.groups = at'.groups := by
  obtain ⟨m₁, h₁, m₂, h₂, m₃, h₃, m₄, h₄, rfl⟩ := h
  obtain ⟨x, hx, hrest₁, hg₁⟩ := leads_ignoreCase hc h₁
  obtain ⟨d, hd, hrest₂, hg₂⟩ := leads_dot h₂
  obtain ⟨y, hy, hrest₃, hg₃⟩ := leads_ignoreCase (by decide) h₃
  obtain ⟨e, he, hrest₄, hg₄⟩ := leads_dot h₄
  refine ⟨x :: (d ++ y :: e), ?_, ?_, ?_⟩
  · rw [halves, List.mem_flatMap]
    refine ⟨x, hx, List.mem_flatMap.mpr ⟨d, hd, List.mem_flatMap.mpr ⟨y, hy, ?_⟩⟩⟩
    exact List.mem_map.mpr ⟨e, he, rfl⟩
  · rw [hrest₁, hrest₂, hrest₃, hrest₄]
    simp
  · rw [hg₄, hg₃, hg₂, hg₁]

theorem leads_baje (h : (Re.wordIgnoreCase "baje").Leads t at' end') :
    ∃ cs ∈ bajes, at'.rest = cs ++ end'.rest ∧ end'.groups = at'.groups := by
  obtain ⟨m₁, h₁, m₂, h₂, m₃, h₃, m₄, h₄, rfl⟩ := h
  obtain ⟨b, hb, hrest₁, hg₁⟩ := leads_ignoreCase (by decide) h₁
  obtain ⟨a, ha, hrest₂, hg₂⟩ := leads_ignoreCase (by decide) h₂
  obtain ⟨j, hj, hrest₃, hg₃⟩ := leads_ignoreCase (by decide) h₃
  obtain ⟨e, he, hrest₄, hg₄⟩ := leads_ignoreCase (by decide) h₄
  refine ⟨[b, a, j, e], ?_, ?_, ?_⟩
  · rw [bajes, List.mem_flatMap]
    refine ⟨b, hb, List.mem_flatMap.mpr ⟨a, ha, List.mem_flatMap.mpr ⟨j, hj, ?_⟩⟩⟩
    exact List.mem_map.mpr ⟨e, he, rfl⟩
  · rw [hrest₁, hrest₂, hrest₃, hrest₄]
    rfl
  · rw [hg₄, hg₃, hg₂, hg₁]

theorem leads_hourDigits (h : (hourDigits t).Leads t at' end') :
    ∃ cs, HourText t cs ∧ at'.rest = cs ++ end'.rest ∧ end'.groups = at'.groups := by
  rcases h with ⟨mid, hfirst | rfl, y, ys, hrest', hy, rfl⟩ | ⟨mid, hfirst, y, ys, hrest', hy, rfl⟩
  · obtain ⟨x, xs, hrest, hx, rfl⟩ := hfirst
    refine ⟨[x, y], .inr (.inl ⟨x, y, rfl, by simpa using hx, hy⟩), ?_, rfl⟩
    rw [hrest]
    exact congrArg _ hrest'
  · exact ⟨[y], .inl ⟨y, rfl, hy⟩, hrest', rfl⟩
  · obtain ⟨x, xs, hrest, hx, rfl⟩ := hfirst
    obtain rfl := of_decide_eq_true hx
    refine ⟨['2', y], .inr (.inr ⟨y, rfl, by simpa using hy⟩), ?_, rfl⟩
    rw [hrest]
    exact congrArg _ hrest'

theorem leads_minuteDigits (h : (Re.opt (minuteDigits t)).Leads t at' end') :
    ∃ cs, MinuteText t cs ∧ at'.rest = cs ++ end'.rest ∧ end'.groups = fun m =>
      if m = 2 ∧ cs ≠ [] then some (cs.drop 1) else at'.groups m := by
  rcases h with ⟨mid, ⟨c, xs, hc, hsep, rfl⟩, hgroup⟩ | rfl
  · obtain ⟨mid, ds, ⟨m₁, ⟨x, ys, hx, hxs, rfl⟩, y, zs, hy, hys, rfl⟩, hds, rfl⟩ :=
      Re.leads_group.mp hgroup
    have hx' : xs = x :: ys := hx
    have hy' : ys = y :: zs := hy
    have hds' : xs = ds ++ zs := hds
    obtain rfl : ds = [x, y] := by
      rw [hx', hy'] at hds'
      have hpair : [x, y] ++ zs = ds ++ zs := hds'
      exact (List.append_cancel_right hpair).symm
    refine ⟨[c, x, y], .inr ⟨c, x, y, rfl, by simpa using hsep, by simpa using hxs, hys⟩, ?_, ?_⟩
    · rw [hc, hx', hy']
      rfl
    · funext m
      by_cases hm : m = 2 <;> simp [hm]
  · exact ⟨[], .inl rfl, rfl, by simp⟩

theorem leads_meridiem (h : (Re.opt meridiem).Leads t at' end') :
    ∃ cs, MeridiemText cs ∧ at'.rest = cs ++ end'.rest ∧ end'.groups = fun m =>
      if m = 3 ∧ cs ≠ [] then some cs else at'.groups m := by
  rcases h with hgroup | rfl
  · obtain ⟨mid, ds, hds, hrest, rfl⟩ := Re.leads_group.mp hgroup
    obtain ⟨cs, hcs, hrest', hgroups, hne⟩ : ∃ cs, MeridiemText cs ∧ at'.rest = cs ++ mid.rest ∧
        mid.groups = at'.groups ∧ cs ≠ [] := by
      rcases hds with h | h | h
      · obtain ⟨cs, hcs, hrest⟩ := leads_half (by decide) h
        exact ⟨cs, .inr (.inl hcs), hrest.1, hrest.2, by rintro rfl; revert hcs; decide⟩
      · obtain ⟨cs, hcs, hrest⟩ := leads_half (by decide) h
        exact ⟨cs, .inr (.inr (.inl hcs)), hrest.1, hrest.2, by rintro rfl; revert hcs; decide⟩
      · obtain ⟨cs, hcs, hrest⟩ := leads_baje h
        exact ⟨cs, .inr (.inr (.inr hcs)), hrest.1, hrest.2, by rintro rfl; revert hcs; decide⟩
    obtain rfl : cs = ds := List.append_cancel_right (hrest'.symm.trans hrest)
    refine ⟨cs, hcs, hrest', ?_⟩
    funext m
    by_cases hm : m = 3 <;> simp [hm, hne, hgroups]
  · exact ⟨[], .inl rfl, rfl, by simp⟩

/-- **What a match of a time is made of.** -/
theorem leads_TIME_RE {before : Option Char} {rest : List Char}
    (h : (TIME_RE t).Leads t ⟨before, rest, fun _ => none⟩ end') :
    ∃ digits minutes gap cs,
      TimeMatch t ⟨before, rest, fun _ => none⟩ end' digits minutes gap cs := by
  obtain ⟨_, ⟨hboundary, rfl⟩, m₁, hhour, m₂, hminute, m₃, hgap, m₄, hhalf, m₅, ⟨-, hm₅⟩, hend⟩ := h
  obtain rfl : end' = m₄ := hend.trans hm₅
  obtain ⟨mid, digits, hdigits, hrest₁, rfl⟩ := Re.leads_group.mp hhour
  obtain ⟨cs, hcs, hrest, hg₁⟩ := leads_hourDigits hdigits
  obtain rfl : cs = digits := List.append_cancel_right (hrest.symm.trans hrest₁)
  obtain ⟨minutes, hminutes, hrest₂, hg₂⟩ := leads_minuteDigits hminute
  obtain ⟨gap, hrest₃, hall, hend₃⟩ := hgap
  obtain ⟨ds, hds, hrest₄, hg₄⟩ := leads_meridiem hhalf
  have hg₃ : m₃.groups = m₂.groups := by rw [hend₃]
  refine ⟨cs, minutes, gap, ds, ?_, hboundary, hcs, hminutes, hall, hds, ?_, ?_, ?_⟩
  · have hrest₂' : mid.rest = minutes ++ m₂.rest := hrest₂
    have hrest₁' : rest = cs ++ mid.rest := hrest₁
    rw [hrest₁', hrest₂', hrest₃, hrest₄]
  · rw [hg₄, hg₃, hg₂]
    simp
  · rw [hg₄, hg₃, hg₂]
    by_cases hm : minutes = [] <;> simp [hm, hg₁]
  · rw [hg₄, hg₃, hg₂]
    by_cases hm : ds = [] <;> simp [hm, hg₁]

end Parts

/-! ## What is read of a text -/

variable {p : Characters} {text : String}

variable (p text) in
/-- **Half of the day is named**, behind a number. -/
def SaysHalf : Prop :=
  ∃ before digit gap cs after, text.toList = before ++ digit :: (gap ++ (cs ++ after)) ∧
    p.isDigit digit = true ∧ (∀ c ∈ gap, p.isSpace c = true) ∧
      (cs ∈ halves 'a' ∨ cs ∈ halves 'p')

theorem isDigit_of_ascii {c : Char} (h : c.isDigit = true) : p.isDigit c = true := by
  refine (p.isDigit_iff c ?_).mpr h
  simp only [Char.isDigit, Bool.and_eq_true, decide_eq_true_eq] at h
  exact ⟨Char.le_def.mpr (Nat.le_trans (by decide) h.1),
    Char.le_def.mpr (Nat.le_trans h.2 (by decide))⟩

theorem natOf_one {x : Char} : natOf p.toNumerals [x] = p.digitValue x := by
  simp [natOf]

theorem natOf_two {x y : Char} :
    natOf p.toNumerals [x, y] = 10 * p.digitValue x + p.digitValue y := by
  simp [natOf]

/-- What a meridiem becomes, whatever its case and its full stops. -/
theorem lower_filter {cs : List Char}
    (hall : (cs.filter (· ≠ '.')).all (fun c => decide (Text.Printable c)) = true) :
    p.lower (String.ofList (cs.filter (· ≠ '.'))) =
      String.ofList ((cs.filter (· ≠ '.')).map Char.toLower) := by
  rw [p.plain.lower, String.toList_ofList]
  intro c hc
  rw [String.toList_ofList] at hc
  exact of_decide_eq_true (List.all_eq_true.mp hall c hc)

theorem lower_half {c : Char} {cs : List Char} (hc : c = 'a' ∨ c = 'p') (h : cs ∈ halves c) :
    p.lower (String.ofList (cs.filter (· ≠ '.'))) = String.ofList [c, 'm'] := by
  have ha : ∀ cs ∈ halves 'a', (cs.filter (· ≠ '.')).all (fun c => decide (Text.Printable c)) = true ∧
      (cs.filter (· ≠ '.')).map Char.toLower = ['a', 'm'] := by decide
  have hp : ∀ cs ∈ halves 'p', (cs.filter (· ≠ '.')).all (fun c => decide (Text.Printable c)) = true ∧
      (cs.filter (· ≠ '.')).map Char.toLower = ['p', 'm'] := by decide
  rcases hc with rfl | rfl
  · rw [lower_filter (ha cs h).1, (ha cs h).2]
  · rw [lower_filter (hp cs h).1, (hp cs h).2]

theorem lower_baje {cs : List Char} (h : cs ∈ bajes) :
    p.lower (String.ofList (cs.filter (· ≠ '.'))) = "baje" := by
  have hall : ∀ cs ∈ bajes, (cs.filter (· ≠ '.')).all (fun c => decide (Text.Printable c)) = true ∧
      (cs.filter (· ≠ '.')).map Char.toLower = ['b', 'a', 'j', 'e'] := by decide
  obtain ⟨hprint, hlower⟩ := hall cs h
  rw [lower_filter hprint, hlower]

theorem lower_nil : p.lower (String.ofList ([].filter (· ≠ '.'))) = "" := lower_filter rfl

/-- A time ends in a digit, before what says that it is one. -/
theorem ends_in_digit {digits minutes : List Char} (hdigits : HourText p.toTables digits)
    (hminutes : MinuteText p.toTables minutes) :
    ∃ before d, digits ++ minutes = before ++ [d] ∧ p.isDigit d = true := by
  rcases hminutes with rfl | ⟨c, x, y, rfl, -, -, hy⟩
  · rcases hdigits with ⟨x, rfl, hx⟩ | ⟨x, y, rfl, -, hy⟩ | ⟨y, rfl, hlow, hhigh⟩
    · exact ⟨[], x, rfl, hx⟩
    · exact ⟨[x], y, rfl, hy⟩
    · refine ⟨['2'], y, rfl, isDigit_of_ascii ?_⟩
      simp only [Char.isDigit, Bool.and_eq_true, decide_eq_true_eq]
      exact ⟨hlow, Nat.le_trans hhigh (by decide)⟩
  · exact ⟨digits ++ [c, x], y, by simp, hy⟩

/-- Minutes are fewer than sixty. -/
theorem natOf_minutes_lt {minutes : List Char} (h : MinuteText p.toTables minutes) :
    natOf p.toNumerals ((if minutes = [] then none else some (minutes.drop 1)).getD ['0']) < 60 := by
  rcases h with rfl | ⟨c, x, y, rfl, -, ⟨hlow, hhigh⟩, hy⟩
  · rw [if_pos rfl, Option.getD_none, natOf_one, p.digitValue_eq '0' (by decide)]
    decide
  · have hx : x.isDigit = true := by
      simp only [Char.isDigit, Bool.and_eq_true, decide_eq_true_eq]
      exact ⟨hlow, Nat.le_trans hhigh (by decide)⟩
    have hvalue : p.digitValue x ≤ 5 := by
      rw [p.digitValue_eq x hx]
      have hle : x.toNat ≤ '5'.toNat := hhigh
      have hfive : '5'.toNat = 53 := rfl
      have hzero : '0'.toNat = 48 := rfl
      omega
    have hlast := p.digitValue_lt y hy
    have hgroup : (if [c, x, y] = [] then none else some ([c, x, y].drop 1)) = some [x, y] := rfl
    rw [hgroup, Option.getD_some, natOf_two]
    omega

section Match

variable {at' end' : Text.Cursor} {digits minutes gap cs : List Char}

theorem TimeMatch.minute_lt (h : TimeMatch p.toTables at' end' digits minutes gap cs) :
    (readingOf p end'.groups).minute < 60 := by
  have hminute : (readingOf p end'.groups).minute =
      natOf p.toNumerals ((end'.groups 2).getD ['0']) := rfl
  rw [hminute, h.minute]
  exact natOf_minutes_lt h.minuteText

/-- What is confident has named half of the day. -/
theorem TimeMatch.half_of_confident (h : TimeMatch p.toTables at' end' digits minutes gap cs)
    (hconfident : (readingOf p end'.groups).confident = true) :
    cs ∈ halves 'a' ∨ cs ∈ halves 'p' := by
  have hgroup : ((if cs = [] then none else some cs).getD []) = cs := by
    by_cases hcs : cs = [] <;> simp [hcs]
  simp only [readingOf, h.half, hgroup, Bool.or_eq_true, decide_eq_true_eq] at hconfident
  rcases h.meridiemText with rfl | ha | hp | hb
  · rw [lower_nil] at hconfident
    exact absurd hconfident (by decide)
  · exact .inl ha
  · exact .inr hp
  · rw [lower_baje hb] at hconfident
    exact absurd hconfident (by decide)

end Match

/-- **What is read as a time**: minutes are fewer than sixty, and what is confident has named half
of the day. -/
theorem of_mem_times {r : Reading} (h : r ∈ times p text) :
    r.minute < 60 ∧ (r.confident = true → SaysHalf p text) := by
  obtain ⟨m, hm, rfl⟩ := List.mem_map.mp h
  obtain ⟨before, rest, end', htext, hleads, hrest, hgroups⟩ := Re.of_mem_findall hm
  obtain ⟨digits, minutes, gap, cs, hmatch⟩ := leads_TIME_RE hleads
  rw [← hgroups]
  refine ⟨hmatch.minute_lt, fun hconfident => ?_⟩
  obtain ⟨init, d, hsplit, hd⟩ := ends_in_digit hmatch.hourText hmatch.minuteText
  refine ⟨before ++ init, d, gap, cs, end'.rest, ?_, hd, hmatch.blank,
    hmatch.half_of_confident hconfident⟩
  have hall : m.1 ++ rest = digits ++ (minutes ++ (gap ++ (cs ++ end'.rest))) := hmatch.rest
  rw [htext, hall, ← List.append_assoc digits, hsplit]
  simp

/-- **`_resolve_time`**: an hour for demos, and what is confident has named half of the day. -/
theorem resolveTime_eq_some {r : Reading} (h : resolveTime p text = some r) :
    r.inHours = true ∧ r.minute < 60 ∧ (r.confident = true → SaysHalf p text) := by
  unfold resolveTime at h
  split at h
  · rename_i r' hfound
    obtain rfl := Option.some.inj h
    exact ⟨List.find?_some hfound, of_mem_times (List.mem_of_find?_eq_some hfound)⟩
  · obtain ⟨part, hpart, rfl⟩ := Option.map_eq_some_iff.mp h
    have hhours : ∀ part ∈ DAYPARTS, (Reading.mk part.2 0 false true).inHours = true := by decide
    exact ⟨hhours part (List.mem_of_find?_eq_some hpart), Nat.zero_lt_succ _, nofun⟩

/-! ## The day that is named -/

/-- How many days ahead a relative word or a weekday is. -/
def aheadIn (p : Characters) (text : String) (localNow : LocalTime) : Option ℤ :=
  match relativeIn p text with
  | some offset => some offset
  | none => (weekdayIn p text).map (daysAhead text · localNow)

/-- The day of a date that is written, this year's or the next if that has passed. -/
def dateOn (localNow : LocalTime) (dayOfMonth month : ℕ) (rawYear : Option ℕ) : Option ℤ :=
  (dayNumber (fullYear localNow rawYear) month dayOfMonth).bind fun candidate =>
    if rawYear.isNone && candidate < localNow.date then
      dayNumber (fullYear localNow rawYear + 1) month dayOfMonth
    else some candidate

/-- The day that a text names. -/
def dayIn (p : Characters) (text : String) (localNow : LocalTime) : Option ℤ :=
  match aheadIn p text localNow with
  | some ahead => some (localNow.date + ahead)
  | none => (dateIn p text).bind fun (dayOfMonth, month, rawYear) =>
      dateOn localNow dayOfMonth month rawYear

section Named

variable {localNow l : LocalTime} {named : Option LocalTime} {dayOfMonth month : ℕ}
  {rawYear : Option ℕ} {n : ℤ} {r : Reading}

theorem held_eq_ok : localNow.held = .ok l ↔ l = localNow ∧ datable localNow.wall = true := by
  unfold LocalTime.held
  split
  · rename_i h
    exact ⟨fun heq => ⟨(Except.ok.inj heq).symm, h⟩, fun heq => by rw [heq.1]⟩
  · rename_i h
    exact ⟨nofun, fun heq => absurd heq.2 h⟩

theorem addDays_eq_ok : localNow.addDays n = .ok l ↔
    l = { wall := localNow.wall + n * day } ∧ datable (localNow.wall + n * day) = true := held_eq_ok

theorem date_addDays (h : localNow.addDays n = .ok l) : l.date = localNow.date + n := by
  obtain ⟨rfl, -⟩ := addDays_eq_ok.mp h
  exact Int.add_mul_ediv_right _ _ (by decide)

/-- A date of a year is held. -/
theorem date_mul_day {candidate : ℤ} :
    LocalTime.date { localNow with wall := candidate * day } = candidate :=
  Int.mul_ediv_cancel _ (by decide)

theorem datable_iff {wall : Time} :
    datable wall = true ↔ Numbers.MIN_DAY ≤ wall / day ∧ wall / day ≤ Numbers.MAX_DAY := by
  have hday : (0 : ℤ) < day := by decide
  have hlast : wall / day ≤ Numbers.MAX_DAY ↔ wall < (Numbers.MAX_DAY + 1) * day := by
    rw [← Int.lt_add_one_iff, Int.ediv_lt_iff_lt_mul hday]
  rw [datable, Bool.and_eq_true, decide_eq_true_eq, decide_eq_true_eq,
    Int.le_ediv_iff_mul_le hday, hlast]

/-- **When a date resolves**: unless it has passed and does not come again next year. -/
theorem resolveDate_ok_iff : (∃ named, resolveDate localNow dayOfMonth month rawYear = .ok named) ↔
    (rawYear = none → ∀ candidate ∈ dayNumber (fullYear localNow none) month dayOfMonth,
      candidate < localNow.date → fullYear localNow none < Numbers.MAX_YEAR ∧
        ¬(month = 2 ∧ dayOfMonth = 29)) := by
  unfold resolveDate
  cases hthis : dayNumber (fullYear localNow rawYear) month dayOfMonth with
  | none =>
    simp only [hthis]
    refine ⟨fun _ hraw candidate hcandidate => ?_, fun _ => ⟨_, rfl⟩⟩
    rw [← hraw, hthis] at hcandidate
    cases hcandidate
  | some candidate =>
    simp only [hthis]
    cases rawYear with
    | some year =>
      simp only [Option.isNone_some, Bool.false_and, Bool.false_eq_true, if_false]
      exact ⟨fun _ => nofun, fun _ => ⟨_, rfl⟩⟩
    | none =>
      have hdate : Numbers.IsDate (fullYear localNow none) month dayOfMonth := by
        rw [← Numbers.isSome_dayNumber, hthis]
        rfl
      simp only [hthis, Option.isNone_none, Bool.true_and, decide_eq_true_eq, Option.mem_some_iff,
        forall_eq', true_implies, ← Numbers.isDate_succ_iff hdate]
      by_cases hpast : candidate < localNow.date
      · rw [if_pos hpast, ← Numbers.isSome_dayNumber]
        cases dayNumber (fullYear localNow none + 1) month dayOfMonth with
        | none => exact ⟨nofun, fun h => nomatch h hpast⟩
        | some next => exact ⟨fun _ _ => rfl, fun _ => ⟨_, rfl⟩⟩
      · rw [if_neg hpast]
        exact ⟨fun _ h => absurd h hpast, fun _ => ⟨_, rfl⟩⟩

/-- **What a date resolves to.** -/
theorem date_of_resolveDate (h : resolveDate localNow dayOfMonth month rawYear = .ok named) :
    named.map LocalTime.date = dateOn localNow dayOfMonth month rawYear := by
  unfold resolveDate at h
  unfold dateOn
  cases hthis : dayNumber (fullYear localNow rawYear) month dayOfMonth with
  | none =>
    simp only [hthis] at h
    obtain rfl := Except.ok.inj h
    rfl
  | some candidate =>
    simp only [hthis] at h
    rw [Option.bind_some]
    split at h
    · rename_i hpast
      rw [if_pos hpast]
      split at h
      · cases h
      · rename_i next hnext
        obtain rfl := Except.ok.inj h
        rw [hnext, Option.map_some, date_mul_day]
    · rename_i hpast
      obtain rfl := Except.ok.inj h
      rw [if_neg hpast, Option.map_some, date_mul_day]

/-- What resolving a day comes down to. -/
theorem resolveDay_eq : resolveDay p text localNow = match aheadIn p text localNow with
    | some ahead => (localNow.addDays ahead).map some
    | none => match dateIn p text with
      | some (dayOfMonth, month, rawYear) => resolveDate localNow dayOfMonth month rawYear
      | none => .ok none := by
  unfold resolveDay aheadIn
  cases relativeIn p text with
  | some offset => rfl
  | none => cases weekdayIn p text <;> rfl

variable (p text localNow) in
/-- **The day that is named can be reckoned**: so many days ahead there is a date, and a date that
has passed comes again next year. -/
structure DayReckoned : Prop where
  ahead : ∀ n ∈ aheadIn p text localNow, datable (localNow.wall + n * day) = true
  again : aheadIn p text localNow = none → ∀ dayOfMonth month,
    dateIn p text = some (dayOfMonth, month, none) →
      ∀ candidate ∈ dayNumber (fullYear localNow none) month dayOfMonth,
        candidate < localNow.date → fullYear localNow none < Numbers.MAX_YEAR ∧
          ¬(month = 2 ∧ dayOfMonth = 29)

theorem resolveDay_ok_iff :
    (∃ named, resolveDay p text localNow = .ok named) ↔ DayReckoned p text localNow := by
  rw [resolveDay_eq]
  cases hahead : aheadIn p text localNow with
  | some ahead =>
    constructor
    · rintro ⟨named, h⟩
      refine ⟨fun n hn => ?_, by simp [hahead]⟩
      obtain rfl : ahead = n := Option.some.inj (hahead.symm.trans hn)
      cases hadd : localNow.addDays ahead with
      | error error =>
        simp only [hadd] at h
        cases h
      | ok l => exact (addDays_eq_ok.mp hadd).2
    · intro h
      have hadd := addDays_eq_ok.mpr ⟨rfl, h.ahead ahead hahead⟩
      simp only [hadd]
      exact ⟨_, rfl⟩
  | none =>
    cases hdate : dateIn p text with
    | none =>
      refine ⟨fun _ => ⟨by simp [hahead], fun _ => by simp [hdate]⟩, fun _ => ⟨_, rfl⟩⟩
    | some written =>
      obtain ⟨dayOfMonth, month, rawYear⟩ := written
      dsimp only
      rw [resolveDate_ok_iff]
      constructor
      · intro h
        refine ⟨by simp [hahead], fun _ d m heq => ?_⟩
        simp only [hdate, Option.some.injEq, Prod.mk.injEq] at heq
        obtain ⟨rfl, rfl, hraw⟩ := heq
        exact h hraw
      · rintro h rfl
        exact h.again hahead _ _ hdate

/-- **The day that is resolved** is the one that the text names. -/
theorem date_of_resolveDay (h : resolveDay p text localNow = .ok named) :
    named.map LocalTime.date = dayIn p text localNow := by
  rw [resolveDay_eq] at h
  unfold dayIn
  cases hahead : aheadIn p text localNow with
  | some ahead =>
    simp only [hahead] at h
    cases hadd : localNow.addDays ahead with
    | error error =>
      rw [hadd] at h
      cases h
    | ok l =>
      rw [hadd] at h
      obtain rfl := Except.ok.inj h
      rw [Option.map_some, date_addDays hadd]
  | none =>
    simp only [hahead] at h
    cases hdate : dateIn p text with
    | none =>
      simp only [hdate] at h
      obtain rfl := Except.ok.inj h
      rfl
    | some written =>
      obtain ⟨dayOfMonth, month, rawYear⟩ := written
      simp only [hdate] at h
      exact date_of_resolveDate h

/-- What is resolved can be held. -/
theorem datable_of_resolveDay (h : resolveDay p text localNow = .ok (some l)) :
    datable l.wall = true := by
  rw [resolveDay_eq] at h
  cases hahead : aheadIn p text localNow with
  | some ahead =>
    simp only [hahead] at h
    cases hadd : localNow.addDays ahead with
    | error error =>
      rw [hadd] at h
      cases h
    | ok l' =>
      rw [hadd] at h
      obtain rfl := Option.some.inj (Except.ok.inj h)
      obtain ⟨rfl, hdatable⟩ := addDays_eq_ok.mp hadd
      exact hdatable
  | none =>
    simp only [hahead] at h
    cases hdate : dateIn p text with
    | none =>
      simp only [hdate] at h
      cases h
    | some written =>
      obtain ⟨dayOfMonth, month, rawYear⟩ := written
      have hheld {year : ℕ} {candidate : ℤ} (hnumber : dayNumber year month dayOfMonth = some candidate) :
          datable (candidate * day) = true := by
        rw [datable_iff, Int.mul_ediv_cancel _ (by decide)]
        exact Numbers.dayNumber_bounds hnumber
      simp only [hdate, resolveDate] at h
      split at h
      · cases h
      · rename_i candidate hnumber
        split at h
        · split at h
          · cases h
          · rename_i next hnext
            obtain rfl := Option.some.inj (Except.ok.inj h)
            exact hheld hnext
        · obtain rfl := Option.some.inj (Except.ok.inj h)
          exact hheld hnumber

/-! ## The start -/

/-- When what is read starts: on the day that is named, or else today, or tomorrow if that has
passed. -/
def startOf (localNow : LocalTime) (named : Option ℤ) (r : Reading) : Time :=
  match named with
  | some date => wallAt date r.hour r.minute
  | none =>
    if wallAt localNow.date r.hour r.minute ≤ localNow.wall then
      wallAt localNow.date r.hour r.minute + day
    else wallAt localNow.date r.hour r.minute

theorem wallAt_ediv {date : ℤ} {h m : ℕ} (hh : h < 24) (hm : m < 60) :
    wallAt date h m / day = date := by
  change (date * 86400000000 + h * 3600000000 + m * 60000000 : ℤ) / 86400000000 = date
  omega

theorem hourOf_wallAt {date : ℤ} {h m : ℕ} (hh : h < 24) (hm : m < 60) :
    hourOf (wallAt date h m) = h := by
  change ((date * 86400000000 + h * 3600000000 + m * 60000000 : ℤ) % 86400000000 /
    3600000000).toNat = h
  omega

/-- An hour for demos is an hour. -/
theorem Reading.hour_lt (h : r.inHours = true) : r.hour < 24 := by
  rw [Reading.inHours, Bool.and_eq_true, decide_eq_true_eq, decide_eq_true_eq, LATEST_HOUR] at h
  omega

/-- **Which local time a reading stands for**, if it can be reckoned. -/
theorem candidateOf_eq_ok (hr : r.hour < 24 ∧ r.minute < 60) (hlocal : datable localNow.wall = true)
    (hnamed : ∀ l ∈ named, datable l.wall = true) :
    (∀ {c}, candidateOf localNow named r = .ok c →
      c.wall = startOf localNow (named.map LocalTime.date) r) ∧
    ((∃ c, candidateOf localNow named r = .ok c) ↔
      datable (startOf localNow (named.map LocalTime.date) r) = true) := by
  have hsame {l : LocalTime} (h : datable l.wall = true) :
      datable (wallAt l.date r.hour r.minute) = true := by
    rw [datable_iff, wallAt_ediv hr.1 hr.2]
    exact datable_iff.mp h
  cases named with
  | some l =>
    have hcandidate : candidateOf localNow (some l) r = .ok (l.atTime r.hour r.minute) := rfl
    rw [hcandidate]
    refine ⟨fun h => ?_, fun _ => hsame (hnamed l rfl), fun _ => ⟨_, rfl⟩⟩
    obtain rfl := Except.ok.inj h
    rfl
  | none =>
    have hcandidate : candidateOf localNow none r =
        if wallAt localNow.date r.hour r.minute ≤ localNow.wall then
          (localNow.atTime r.hour r.minute).addDays 1
        else .ok (localNow.atTime r.hour r.minute) := by
      by_cases h : wallAt localNow.date r.hour r.minute ≤ localNow.wall
      · rw [if_pos h]
        exact if_pos (decide_eq_true h)
      · rw [if_neg h]
        exact if_neg (ne_true_of_eq_false (decide_eq_false h))
    have hstart : startOf localNow none r =
        if wallAt localNow.date r.hour r.minute ≤ localNow.wall then
          wallAt localNow.date r.hour r.minute + day
        else wallAt localNow.date r.hour r.minute := rfl
    rw [hcandidate, Option.map_none, hstart]
    by_cases hpast : wallAt localNow.date r.hour r.minute ≤ localNow.wall
    · have hone : (localNow.atTime r.hour r.minute).wall + 1 * day =
          wallAt localNow.date r.hour r.minute + day := by rw [one_mul]; rfl
      simp only [hpast, if_true, addDays_eq_ok, hone]
      refine ⟨fun h => by rw [h.1], fun ⟨c, hc⟩ => hc.2, fun h => ⟨_, rfl, h⟩⟩
    · simp only [hpast, if_false]
      refine ⟨fun h => ?_, fun _ => hsame hlocal, fun _ => ⟨_, rfl⟩⟩
      obtain rfl := Except.ok.inj h
      rfl

/-- It starts at the hour that is read. -/
theorem hourOf_candidate {candidate : LocalTime} (h : candidateOf localNow named r = .ok candidate)
    (hhour : r.hour < 24) (hminute : r.minute < 60) : hourOf candidate.wall = r.hour := by
  have hat (l : LocalTime) : hourOf (l.atTime r.hour r.minute).wall = r.hour :=
    hourOf_wallAt hhour hminute
  unfold candidateOf at h
  dsimp only at h
  split at h
  · obtain ⟨rfl, -⟩ := addDays_eq_ok.mp h
    have hnext : ((named.getD localNow).atTime r.hour r.minute).wall + 1 * day =
        wallAt ((named.getD localNow).date + 1) r.hour r.minute := by
      rw [LocalTime.atTime, wallAt, wallAt, one_mul, Int.add_mul, one_mul]
      exact (Int.add_right_comm _ _ _).trans (congrArg (· + _) (Int.add_right_comm _ _ _))
    rw [hnext]
    exact hourOf_wallAt hhour hminute
  · obtain rfl := Except.ok.inj h
    exact hat _

end Named

/-! ## What is interpreted -/

section Interpret

variable {zone : TimeZone} {now : Time} {durationMinutes : ℤ} {named : Option LocalTime} {r : Reading}
  {candidate : LocalTime} {guess : TimeGuess} {name : String} {offset : Time}

variable (p text) in
/-- **A day is named**: a relative word, a weekday or a date. -/
def NamesDay : Prop :=
  relativeIn p text ≠ none ∨ weekdayIn p text ≠ none ∨ dateIn p text ≠ none

theorem namesDay_of_resolveDay {localNow l : LocalTime}
    (h : resolveDay p text localNow = .ok (some l)) : NamesDay p text := by
  unfold resolveDay at h
  split at h
  · rename_i offset hrelative
    exact .inl (by rw [hrelative]; nofun)
  · split at h
    · rename_i weekday hweekday
      exact .inr (.inl (by rw [hweekday]; nofun))
    · split at h
      · rename_i written hdate
        exact .inr (.inr (by rw [hdate]; nofun))
      · cases h

/-- **When there is a slot at a local time**: its moment can be held, and demos are as long. -/
theorem slotAt_ok_iff :
    (∃ guess, slotAt zone now durationMinutes named r candidate = .ok guess) ↔
      datable (zone.moment candidate) = true ∧ 15 ≤ durationMinutes ∧ durationMinutes ≤ 180 := by
  unfold slotAt
  by_cases hdatable : datable (zone.moment candidate) = true
  case neg => simp [hdatable]
  by_cases hbounded : 15 ≤ durationMinutes ∧ durationMinutes ≤ 180
  case neg => simp [hdatable, hbounded]
  simp only [hdatable, Bool.not_true, Bool.false_eq_true, if_false, hbounded, and_self, dif_pos,
    iff_true]
  split
  · exact ⟨_, rfl⟩
  · exact ⟨_, rfl⟩

/-- **What a slot at a local time is**: it starts then, and can be booked. -/
theorem slot_of_slotAt (h : slotAt zone now durationMinutes named r candidate = .ok guess) :
    (∀ slot ∈ guess.slot, slot.startsAt = zone.moment candidate ∧ slot.bookableFrom now = none) ∧
      (guess.confident = true → r.confident = true ∧ named.isSome = true) := by
  unfold slotAt at h
  split at h
  · cases h
  split at h
  · dsimp only at h
    split at h
    · obtain rfl := Except.ok.inj h
      exact ⟨nofun, nofun⟩
    · rename_i hbookable
      obtain rfl := Except.ok.inj h
      refine ⟨fun slot hslot => ?_, fun hconfident => (Bool.and_eq_true _ _).mp hconfident⟩
      obtain rfl := Option.some.inj hslot
      exact ⟨rfl, hbookable⟩
  · cases h

/-- What interpreting comes down to, once the day is resolved. -/
theorem interpret_eq (hlocal : datable (zone.wallClock now).wall = true)
    (hnamed : resolveDay p (Text.squash p.toTables text) (zone.wallClock now) = .ok named) :
    interpret p zone text now durationMinutes =
      match resolveTime p (Text.squash p.toTables text) with
      | none => .ok { slot := none, confident := false
                      reason := if named.isNone then "no_temporal_expression" else "time_missing"
                      partialDay := named }
      | some r =>
        if named.isNone && !r.marked then
          .ok { slot := none, confident := false, reason := "no_temporal_expression" }
        else (candidateOf (zone.wallClock now) named r).bind
          (slotAt zone now durationMinutes named r) := by
  have hheld := held_eq_ok.mpr ⟨rfl, hlocal⟩
  simp only [interpret, hheld, hnamed, bind, Except.bind]
  cases htime : resolveTime p (Text.squash p.toTables text) with
  | none => cases named <;> rfl
  | some r =>
    have hours := (resolveTime_eq_some htime).1
    simp only [hours, Bool.not_true, Bool.false_eq_true, if_false]

variable (p text now durationMinutes offset) in
/-- **Everything can be reckoned**: the local time now, the day that is named, and the start of what
is read, in local time and in UTC; and demos are as long. -/
structure Reckonable : Prop where
  here : datable (now + offset) = true
  named : DayReckoned p (Text.squash p.toTables text) { wall := now + offset }
  start : ∀ r ∈ resolveTime p (Text.squash p.toTables text),
    (dayIn p (Text.squash p.toTables text) { wall := now + offset } = none → r.marked = true) →
      let start := startOf { wall := now + offset }
        (dayIn p (Text.squash p.toTables text) { wall := now + offset }) r
      datable start = true ∧ datable (start - offset) = true ∧
        15 ≤ durationMinutes ∧ durationMinutes ≤ 180

/-- **When interpreting does not raise.** -/
theorem interpret_ok_iff :
    (∃ guess, interpret p (.fixed name offset) text now durationMinutes = .ok guess) ↔
      Reckonable p text now durationMinutes offset := by
  by_cases hlocal : datable (now + offset) = true
  case neg =>
    refine ⟨fun ⟨guess, h⟩ => ?_, fun h => absurd h.here hlocal⟩
    have hheld : LocalTime.held ((TimeZone.fixed name offset).wallClock now) =
        .error .overflowError := if_neg hlocal
    rw [interpret, hheld] at h
    cases h
  cases hnamed : resolveDay p (Text.squash p.toTables text) { wall := now + offset } with
  | error error =>
    constructor
    · rintro ⟨guess, h⟩
      have hheld : LocalTime.held ((TimeZone.fixed name offset).wallClock now) =
          .ok { wall := now + offset } := if_pos hlocal
      rw [interpret, hheld] at h
      simp only [bind, Except.bind, hnamed] at h
      cases h
    · intro h
      obtain ⟨named, heq⟩ := resolveDay_ok_iff.mpr h.named
      rw [hnamed] at heq
      cases heq
  | ok named =>
    have hdate := date_of_resolveDay hnamed
    have hreckoned := resolveDay_ok_iff.mp ⟨named, hnamed⟩
    rw [@interpret_eq p text (.fixed name offset) now durationMinutes named hlocal hnamed]
    cases htime : resolveTime p (Text.squash p.toTables text) with
    | none => exact ⟨fun _ => ⟨hlocal, hreckoned, by simp [htime]⟩, fun _ => ⟨_, rfl⟩⟩
    | some r =>
      obtain ⟨hours, hminute, -⟩ := resolveTime_eq_some htime
      dsimp only
      by_cases hunmarked : (named.isNone && !r.marked) = true
      · rw [if_pos hunmarked]
        refine ⟨fun _ => ⟨hlocal, hreckoned, fun r' hr' hmarked => ?_⟩, fun _ => ⟨_, rfl⟩⟩
        obtain rfl := Option.some.inj (htime.symm.trans hr')
        rw [Bool.and_eq_true, Option.isNone_iff_eq_none] at hunmarked
        rw [← hdate, hunmarked.1] at hmarked
        rw [hmarked rfl] at hunmarked
        exact absurd hunmarked.2 Bool.false_ne_true
      · rw [if_neg hunmarked]
        have hmarked : dayIn p (Text.squash p.toTables text) { wall := now + offset } = none →
            r.marked = true := by
          intro hnone
          rw [← hdate, Option.map_eq_none_iff] at hnone
          simpa [hnone] using hunmarked
        have hheldNamed : ∀ l ∈ named, datable l.wall = true := by
          rintro l rfl
          exact datable_of_resolveDay hnamed
        obtain ⟨hwall, hok⟩ := @candidateOf_eq_ok { wall := now + offset } _ _
          ⟨r.hour_lt hours, hminute⟩ hlocal hheldNamed
        rw [hdate] at hwall hok
        constructor
        · rintro ⟨guess, h⟩
          cases hcandidate : candidateOf { wall := now + offset } named r with
          | error error => cases (congrArg (Except.bind · _) hcandidate).symm.trans h
          | ok candidate =>
            have hslot : slotAt (.fixed name offset) now durationMinutes named r candidate =
                .ok guess := (congrArg (Except.bind · _) hcandidate).symm.trans h
            have hheld := slotAt_ok_iff.mp ⟨guess, hslot⟩
            have hmoment : (TimeZone.fixed name offset).moment candidate =
                candidate.wall - offset := rfl
            rw [hmoment, hwall hcandidate] at hheld
            refine ⟨hlocal, hreckoned, fun r' hr' _ => ?_⟩
            obtain rfl := Option.some.inj (htime.symm.trans hr')
            exact ⟨hok.mp ⟨candidate, hcandidate⟩, hheld⟩
        · intro h
          obtain ⟨hstart, hheld⟩ := h.start r htime hmarked
          obtain ⟨candidate, hcandidate⟩ := hok.mpr hstart
          rw [← hwall hcandidate] at hheld
          have hmoment : (TimeZone.fixed name offset).moment candidate =
              candidate.wall - offset := rfl
          rw [← hmoment] at hheld
          obtain ⟨guess, hslot⟩ := (@slotAt_ok_iff _ now _ named r _).mpr hheld
          exact ⟨guess, (congrArg (Except.bind · _) hcandidate).trans hslot⟩

variable (p zone text now guess) in
/-- **A sound guess**: its slot can be booked and starts at an hour for demos, by the clocks of the
zone, and it is confident only of what names a day and half of it. -/
structure Sound : Prop where
  bookable : ∀ slot ∈ guess.slot, slot.bookableFrom now = none
  hours : ∀ slot ∈ guess.slot, EARLIEST_HOUR ≤ hourOf (zone.wallClock slot.startsAt).wall ∧
    hourOf (zone.wallClock slot.startsAt).wall ≤ LATEST_HOUR
  confident : guess.confident = true →
    NamesDay p (Text.squash p.toTables text) ∧ SaysHalf p (Text.squash p.toTables text)

/-- A guess without a slot. -/
theorem sound_of_none (hslot : guess.slot = none) (hconfident : guess.confident = false) :
    Sound p text zone now guess := by
  refine ⟨?_, ?_, ?_⟩
  · rw [hslot]
    nofun
  · rw [hslot]
    nofun
  · rw [hconfident]
    nofun

/-- **What is interpreted is sound.** -/
theorem sound_of_interpret
    (h : interpret p (.fixed name offset) text now durationMinutes = .ok guess) :
    Sound p text (.fixed name offset) now guess := by
  have hreckoned := interpret_ok_iff.mp ⟨guess, h⟩
  obtain ⟨named, hnamed⟩ := resolveDay_ok_iff.mpr hreckoned.named
  rw [@interpret_eq p text (.fixed name offset) now durationMinutes named hreckoned.here hnamed] at h
  cases htime : resolveTime p (Text.squash p.toTables text) with
  | none =>
    rw [htime] at h
    obtain rfl := Except.ok.inj h
    exact sound_of_none rfl rfl
  | some r =>
    obtain ⟨hours, hminute, hhalf⟩ := resolveTime_eq_some htime
    rw [htime] at h
    dsimp only at h
    split at h
    · obtain rfl := Except.ok.inj h
      exact sound_of_none rfl rfl
    · cases hcandidate : candidateOf ((TimeZone.fixed name offset).wallClock now) named r with
      | error error =>
        rw [hcandidate] at h
        cases h
      | ok candidate =>
        rw [hcandidate] at h
        obtain ⟨hslot, hconfident⟩ := slot_of_slotAt h
        refine ⟨fun slot h => (hslot slot h).2, fun slot h => ?_, fun h => ?_⟩
        · have hshown : ((TimeZone.fixed name offset).wallClock slot.startsAt).wall =
              candidate.wall := by
            rw [(hslot slot h).1]
            exact Int.sub_add_cancel _ _
          have hhour : hourOf candidate.wall = r.hour := hourOf_candidate hcandidate
            (r.hour_lt hours) hminute
          rw [hshown, hhour]
          rw [Reading.inHours, Bool.and_eq_true, decide_eq_true_eq, decide_eq_true_eq] at hours
          exact hours
        · obtain ⟨hr, hday⟩ := hconfident h
          obtain ⟨l, rfl⟩ := Option.isSome_iff_exists.mp hday
          exact ⟨namesDay_of_resolveDay hnamed, hhalf hr⟩

/-- **Interpreting is total and sound, exactly if everything can be reckoned.** -/
theorem interpret_sound_iff :
    ((∃ guess, interpret p (.fixed name offset) text now durationMinutes = .ok guess) ∧
        ∀ guess, interpret p (.fixed name offset) text now durationMinutes = .ok guess →
          Sound p text (.fixed name offset) now guess) ↔
      Reckonable p text now durationMinutes offset := by
  rw [interpret_ok_iff]
  exact ⟨And.left, fun h => ⟨h, fun _ => sound_of_interpret⟩⟩

end Interpret

/-! ## A leap day -/

/-- The characters of ASCII. -/
def asciiCharacters : Characters where
  toNumerals := Numbers.asciiNumerals
  digitValue_lt c hc := by
    have hdigit : c.isDigit = true := hc
    simp only [Char.isDigit, Bool.and_eq_true, decide_eq_true_eq] at hdigit
    have hlast : c.toNat ≤ 57 := hdigit.2
    have hvalue : Numbers.asciiNumerals.digitValue c = c.toNat - 48 := rfl
    omega
  digitValue_eq _ _ := rfl
  isWord_of_isDigit c hc := by
    have hdigit : c.isDigit = true := hc
    have hword : Numbers.asciiNumerals.isWord c = (c.isAlphanum || c = '_') := rfl
    rw [hword, Char.isAlphanum, hdigit]
    simp
  isSpace_of_isDigit c hc := by
    have hdigit : c.isDigit = true := hc
    rw [Bool.eq_false_iff]
    intro hspace
    have hmem : c ∈ [' ', '\t', '\n', '\r', '\x0b', '\x0c'] := of_decide_eq_true hspace
    simp only [List.mem_cons, List.not_mem_nil, or_false] at hmem
    rcases hmem with rfl | rfl | rfl | rfl | rfl | rfl <;> exact absurd hdigit (by decide)
  isWord_iff c _ := by
    have hword : Numbers.asciiNumerals.isWord c = (c.isAlphanum || c = '_') := rfl
    rw [hword, Bool.or_eq_true, decide_eq_true_eq]

/-- **The 29th of February raises** in a leap year from the first of March on: it is moved to a year
that has none. -/
theorem leap_day_raises :
    interpret asciiCharacters (.fixed "UTC" 0) "29/02" (21244 * day) =
      .error .valueError := by decide

end NxTutors.DemoAgent.Timeparse
