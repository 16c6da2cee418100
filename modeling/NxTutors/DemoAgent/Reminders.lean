import NxTutors.DemoAgent.Records
import NxTutors.Store.Table
import NxTutors.Text.Strings

/-!
# Reminders

A reminder is a row, not a timer. It belongs to one revision of a demo, and remembers the start
it was computed from; moving the demo is meant to cancel the pending rows of the old revision and
to write new ones. A reminder whose revision is behind the demo's is obsolete by definition.

Quiet hours defer a reminder rather than drop it, but never past the demo.
-/

namespace NxTutors.DemoAgent

open Store

/-! ## The rows -/

inductive ReminderStatus
  | pending | sent | cancelled | suppressed | failed
  deriving DecidableEq, Repr

/-- One planned reminder for one audience, on one revision of a demo. -/
structure ScheduledReminder where
  reminderId : String
  demoId : String
  conversationRef : String
  /-- the revision it belongs to -/
  demoRevision : Nat
  label : String
  audience : Party
  recipientRef : String
  template : String
  channel : String := "whatsapp"
  /-- when it should go out, quiet hours considered -/
  fireAt : Time
  /-- the start it was computed from -/
  demoStartsAt : Time
  status : ReminderStatus := .pending
  attempts : Nat := 0
  sentAt : Option Time := none
  suppressionReason : String := ""
  deriving DecidableEq, Repr

namespace ScheduledReminder

/-- One send for each demo, revision, label and audience. -/
def idempotencyKey (r : ScheduledReminder) : String :=
  ":".intercalate ["rem", r.demoId, toString r.demoRevision, r.label, r.audience.value]

def obsoleteFor (r : ScheduledReminder) (revision : Nat) : Bool := r.demoRevision < revision

def due (r : ScheduledReminder) (now : Time) : Bool := r.status = .pending && r.fireAt ≤ now

/-- Past its usefulness: a late reminder is dropped. -/
def overdue (r : ScheduledReminder) (now : Time) (tolerance : Time := 10 * minute) : Bool :=
  r.fireAt + tolerance < now

end ScheduledReminder

/-! ## Quiet hours -/

/-- Whether a wall clock shows an hour of the quiet window, which may wrap around midnight. -/
def inQuietHours (wall : Time) (startHour endHour : Nat) : Bool :=
  if startHour = endHour then false
  else if startHour < endHour then startHour ≤ hourOf wall && hourOf wall < endHour
  else startHour ≤ hourOf wall || hourOf wall < endHour

/-- The next allowed hour, if the demo has not begun by then. -/
def deferPastQuietHours (zones : Zones) (fireAt : Time) (timezone : String)
    (startHour endHour deferToHour : Nat) (demoStartsAt : Time) : Option Time :=
  let wall := zones.wallClock timezone fireAt
  if !inQuietHours wall startHour endHour then some fireAt
  else
    let sameDay := wall / day * day + deferToHour * hour
    let candidate := if sameDay ≤ wall then sameDay + day else sameDay
    let deferred := zones.moment timezone candidate
    if demoStartsAt ≤ deferred then none else some deferred

/-! ## The ladder -/

/-- A rung of the ladder. -/
structure ReminderOffset where
  label : String
  minutesBefore : Nat
  /-- `student`, `tutor` or `both` -/
  audience : String
  template : String
  channel : String := "whatsapp"

/-- The reminder policy. -/
structure ReminderPolicy where
  offsets : List ReminderOffset
  maxRemindersPerDemo : Nat
  quietHoursStart : Nat
  quietHoursEnd : Nat
  quietHoursDeferToHour : Nat

/-- `reminder@v1`. -/
def REMINDER_POLICY : ReminderPolicy where
  offsets :=
    [{ label := "t24h", minutesBefore := 1440, audience := "both",
       template := "demo_reminder_t24h" },
      { label := "t2h", minutesBefore := 120, audience := "both",
        template := "demo_reminder_t2h" },
      { label := "t15m", minutesBefore := 15, audience := "both",
        template := "demo_reminder_t15m" }]
  maxRemindersPerDemo := 6
  quietHoursStart := 21
  quietHoursEnd := 8
  quietHoursDeferToHour := 8

def audiences (audience : String) : List Party :=
  if audience = "both" then [.student, .tutor]
  else if audience = "student" then [.student]
  else [.tutor]

/-- The reminders of one rung: none if it is past, or would be deferred past the demo. A reminder
gets its identifier when it is planned. -/
def ReminderPolicy.rung (zones : Zones) (policy : ReminderPolicy) (demo : Demo) (slot : TimeSlot)
    (now : Time) (offset : ReminderOffset) : List (String → ScheduledReminder) :=
  let fireAt := slot.startsAt - offset.minutesBefore * minute
  if fireAt ≤ now then []
  else
    match deferPastQuietHours zones fireAt slot.timezone policy.quietHoursStart
        policy.quietHoursEnd policy.quietHoursDeferToHour slot.startsAt with
    | none => []
    | some adjusted =>
      (audiences offset.audience).filterMap fun party =>
        (demo.attendee party).map fun recipient reminderId =>
          { reminderId, demoId := demo.demoId, conversationRef := demo.conversationRef,
            demoRevision := demo.revision, label := offset.label, audience := party,
            recipientRef := recipient.ref, template := offset.template,
            channel := offset.channel, fireAt := adjusted, demoStartsAt := slot.startsAt }

/-- The full ladder for one revision of a demo. -/
def ReminderPolicy.ladder (zones : Zones) (policy : ReminderPolicy) (demo : Demo) (now : Time) :
    List (String → ScheduledReminder) :=
  match demo.slot with
  | none => []
  | some slot =>
    if demo.cancelled then [] else policy.offsets.flatMap (policy.rung zones demo slot now)

/-- Why a reminder must not go out. -/
def ScheduledReminder.obsolete (r : ScheduledReminder) (demo : Demo) (now : Time) :
    Option String :=
  if demo.cancelled then some "demo_cancelled"
  else if r.obsoleteFor demo.revision then some "superseded_by_reschedule"
  else if r.overdue now then some "reminder_overdue"
  else if demo.slot.any fun slot => slot.startsAt ≤ now then some "demo_already_started"
  else none

/-! ## In memory -/

/-- The rows, in the order their identifiers were first stored. -/
abbrev ReminderRows : Type := List ScheduledReminder

namespace ReminderRows

/-- A pending row of the demo is cancelled. -/
def cancelled (demoId : String) (r : ScheduledReminder) : ScheduledReminder :=
  if r.demoId = demoId && r.status = .pending then { r with status := .cancelled } else r

/-- The pending rows of a demo are cancelled, and new ones are stored. -/
def replaceForDemo (rows : ReminderRows) (demoId : String)
    (reminders : List ScheduledReminder) : ReminderRows :=
  reminders.foldl (fun rows r => Table.upsert ScheduledReminder.reminderId r rows)
    (rows.map (cancelled demoId))

/-- The rows that are due, up to a number. -/
def due (rows : ReminderRows) (now : Time) (limit : Nat) : List ScheduledReminder :=
  (rows.filter fun r => r.due now).take limit

/-- The row is marked, and one attempt more is counted. -/
def mark (rows : ReminderRows) (reminderId : String) (status : ReminderStatus) (now : Time)
    (detail : String) : ReminderRows :=
  rows.map fun r =>
    if r.reminderId = reminderId then
      { r with status, sentAt := if status = .sent then some now else r.sentAt,
               attempts := r.attempts + 1, suppressionReason := Text.take detail 64 }
    else r

/-- The pending rows of a demo are cancelled; how many there were. -/
def cancelForDemo (rows : ReminderRows) (demoId : String) : Nat × ReminderRows :=
  (rows.countP fun r => r.demoId = demoId && r.status = .pending, rows.map (cancelled demoId))

end ReminderRows

end NxTutors.DemoAgent
