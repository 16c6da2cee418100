import Mathlib.Data.Int.Order.Basic

/-!
# Moments and slots

Every instant is UTC, and counted in microseconds. A zone travels alongside as a name, and is
applied only where a slot is rendered, or where the hour of the day matters.
-/

namespace NxTutors.DemoAgent

/-- A moment, in microseconds. -/
abbrev Time := Int

def minute : Time := 60 * 1000000

def hour : Time := 3600 * 1000000

def day : Time := 24 * hour

theorem three_quarters : 15 ≤ (45 : Int) ∧ (45 : Int) ≤ 180 := by decide

/-- A concrete interval, with the zone it is rendered in. -/
structure TimeSlot where
  startsAt : Time
  durationMinutes : Int := 45
  timezone : String := "Asia/Kolkata"
  /-- demos are neither shorter than a quarter of an hour nor longer than three hours -/
  bounded : 15 ≤ durationMinutes ∧ durationMinutes ≤ 180 := by
    first | exact three_quarters | decide
  deriving DecidableEq, Repr

namespace TimeSlot

def endsAt (s : TimeSlot) : Time := s.startsAt + s.durationMinutes * minute

/-- Half-open, so demos that are back to back do not collide. -/
def overlaps (s t : TimeSlot) : Bool := s.startsAt < t.endsAt && t.startsAt < s.endsAt

end TimeSlot

/-! ## Wall clocks -/

/-- What the platform knows about zones, by their IANA names. What a wall clock shows is given as
the moment at which it would show that in UTC. -/
structure Zones where
  /-- what the clocks of a zone show at a moment -/
  wallClock : String → Time → Time
  /-- when the clocks of a zone show that -/
  moment : String → Time → Time
  /-- `%Z` -/
  abbreviation : String → Time → String

/-- The year, the month and the day of the month, `days` after the first of January 1970. -/
def civilDate (days : Int) : Int × Nat × Nat :=
  -- the calendar repeats every 400 years, and a year is counted from the first of March
  let era := (days + 719468) / 146097
  let dayOfEra := (days + 719468) % 146097
  let year := (dayOfEra - dayOfEra / 1460 + dayOfEra / 36524 - dayOfEra / 146096) / 365
  let dayOfYear := dayOfEra - (365 * year + year / 4 - year / 100)
  let month := (5 * dayOfYear + 2) / 153
  (era * 400 + year + if month < 10 then 0 else 1,
    (if month < 10 then month + 3 else month - 9).toNat,
    (dayOfYear - (153 * month + 2) / 5 + 1).toNat)

def MONTHS : List String :=
  ["Jan", "Feb", "Mar", "Apr", "May", "Jun", "Jul", "Aug", "Sep", "Oct", "Nov", "Dec"]

def WEEKDAYS : List String := ["Mon", "Tue", "Wed", "Thu", "Fri", "Sat", "Sun"]

/-- `%02d`. -/
def twoDigits (n : Nat) : String := if n < 10 then "0" ++ toString n else toString n

/-- `%d %b`, of what a wall clock shows. -/
def dayAndMonth (wall : Time) : String :=
  let (_, month, dayOfMonth) := civilDate (wall / day)
  twoDigits dayOfMonth ++ " " ++ MONTHS.getD (month - 1) ""

/-- `%a %d %b`. -/
def weekdayAndDate (wall : Time) : String :=
  WEEKDAYS.getD ((wall / day + 3) % 7).toNat "" ++ " " ++ dayAndMonth wall

/-- `int(%H)`. -/
def hourOf (wall : Time) : Nat := (wall % day / hour).toNat

/-- `int(%I)`. -/
def hourOfTwelve (wall : Time) : Nat := if hourOf wall % 12 = 0 then 12 else hourOf wall % 12

/-- `%M %p`. -/
def minuteAndHalf (wall : Time) : String :=
  twoDigits (wall % hour / minute).toNat ++ if hourOf wall < 12 then " AM" else " PM"

/-- `n` in decimal, with zeros in front up to a width. -/
def padded (width n : Nat) : String :=
  String.ofList (List.replicate (width - (toString n).length) '0') ++ toString n

/-- `moment.isoformat()`. -/
def isoformat (moment : Time) : String :=
  let (year, month, dayOfMonth) := civilDate (moment / day)
  let micros := (moment % 1000000).toNat
  padded 4 year.toNat ++ "-" ++ twoDigits month ++ "-" ++ twoDigits dayOfMonth ++ "T" ++
    twoDigits (hourOf moment) ++ ":" ++ twoDigits (moment % hour / minute).toNat ++ ":" ++
    twoDigits (moment % minute / 1000000).toNat ++
    (if micros = 0 then "" else "." ++ padded 6 micros) ++ "+00:00"

example : weekdayAndDate (1786500000 * 1000000) = "Wed 12 Aug" := by decide

namespace TimeSlot

/-- `Tue 12 Aug, 6:00 PM`, for a template that carries the zone separately. -/
def labelWithoutZone (zones : Zones) (s : TimeSlot) : String :=
  let wall := zones.wallClock s.timezone s.startsAt
  weekdayAndDate wall ++ ", " ++ toString (hourOfTwelve wall) ++ ":" ++ minuteAndHalf wall

/-- `Tue 12 Aug, 6:00 PM IST`, what a parent reads in a message. -/
def label (zones : Zones) (s : TimeSlot) : String :=
  let zone := zones.abbreviation s.timezone s.startsAt
  s.labelWithoutZone zones ++ " " ++ if zone = "" then s.timezone else zone

/-- Demos are not booked further out than this. -/
def MAX_BOOKING_HORIZON : Time := 60 * day

/-- Nor closer than this. -/
def MIN_BOOKING_LEAD : Time := 30 * minute

/-- Why a slot is outside the allowed booking window. -/
def bookableFrom (s : TimeSlot) (now : Time) : Option String :=
  if s.startsAt - now < MIN_BOOKING_LEAD then some "slot_too_soon"
  else if MAX_BOOKING_HORIZON < s.startsAt - now then some "slot_beyond_horizon"
  else none

end TimeSlot

end NxTutors.DemoAgent
