import NxTutors.DemoAgent.Composer
import Mathlib.Data.List.Sort

/-!
# Scheduling

Availability is intersected before a slot is proposed, a slot is held before it is confirmed, and
it is checked again before it is booked. An event of the calendar is patched when a demo is moved,
never created a second time.

Nothing here sends a message, and a failure of a provider is an answer.
-/

namespace NxTutors.DemoAgent

open Effect

/-- How far ahead mutual availability is looked for. -/
def SEARCH_HORIZON : Time := 14 * day

/-! ## Proposing -/

/-- What is proposed, or why nothing is. -/
structure ProposalResult where
  proposals : List SlotProposal := []
  degraded : List String := []
  reason : String := ""

/-- The better score first; ties break on the earlier slot. -/
def ranksBefore (cfg : Config) (preferred : Option TimeSlot) (now : Time) (s t : TimeSlot) :
    Prop :=
  cfg.slotScore t preferred now < cfg.slotScore s preferred now ∨
    cfg.slotScore t preferred now = cfg.slotScore s preferred now ∧ s.startsAt ≤ t.startsAt

instance (cfg : Config) (preferred : Option TimeSlot) (now : Time) :
    DecidableRel (ranksBefore cfg preferred now) := fun s t =>
  inferInstanceAs (Decidable (_ < _ ∨ _ = _ ∧ s.startsAt ≤ t.startsAt))

/-- Score, sort, and take the first `limit`. -/
def rankSlots (cfg : Config) (available : List TimeSlot) (preferred : Option TimeSlot)
    (timezone : String) (now : Time) (limit : Nat := 3) : List SlotProposal :=
  let normalised : List TimeSlot :=
    available.map fun slot => { startsAt := slot.startsAt, timezone }
  let ranked := normalised.insertionSort (ranksBefore cfg preferred now)
  (ranked.take limit).mapIdx fun i slot => { slot, rank := i + 1 }

/-- Rank slots at which the tutor is available. When that cannot be checked, nothing is. -/
def propose (cfg : Config) (tutorRef : String) (preferred : Option TimeSlot)
    (timezone : String) : Act ProposalResult := do
  let now : Time ← ask .now
  match ← ask (.tutorAvailability tutorRef now (now + SEARCH_HORIZON)) with
  | .error _ =>
    pure { degraded := ["tutor_availability"], reason := "availability_unknown" }
  | .ok (available : List TimeSlot) =>
    let bookable := available.filter fun slot => (slot.bookableFrom now).isNone
    if bookable = [] then pure { reason := "no_available_slots" }
    else pure { proposals := rankSlots cfg bookable preferred timezone now }

/-! ## Holding -/

/-- Claim the slot exclusively, unless it is taken. -/
def hold (conversationRef tutorRef : String) (slot : TimeSlot) (mode : DemoMode) :
    Act (Option SlotHold) := do
  let now : Time ← ask .now
  let holdId : String ← ask (.newId "hld")
  let candidate := newHold holdId conversationRef tutorRef slot mode now
  match ← ask (.slots ⟨now, .placeHold candidate⟩) with
  | .placed placed => pure (some placed)
  | _ => pure none

def release (holdId : String) : Act Unit := do
  let now : Time ← ask .now
  let _ ← ask (.slots ⟨now, .release holdId⟩)

/-! ## Booking -/

/-- What became of a booking. -/
structure BookingResult where
  demo : Option Demo := none
  calendarEventId : String := ""
  meetUrl : String := ""
  failed : Bool := false
  failureReason : String := ""

/-- Whether the tutor is still free at the time that is held. What cannot be checked counts as
free. -/
def revalidate (hold : SlotHold) : Act Bool := do
  let availability ← ask (.tutorAvailability hold.tutorRef (hold.slot.startsAt - minute)
    (hold.slot.endsAt + minute))
  match availability with
  | .error _ => pure true
  | .ok (available : List TimeSlot) => pure (available.any fun slot => slot.overlaps hold.slot)

/-- A link is accepted only if it is one of the conference provider's. -/
def verifiedMeetUrl (cfg : Config) (created : CreatedEvent) : String :=
  if created.meetUrl = "" then "" else (cfg.meetLink created.meetUrl).getD ""

/-- What is stored of a demo that has been booked. -/
def Demo.booked (demo : Demo) (hold : SlotHold) (eventId meetUrl : String) : Demo :=
  { demo with slot := some hold.slot, tutorRef := some hold.tutorRef,
              calendarEventId := some eventId,
              meetUrl := if meetUrl = "" then none else some meetUrl }

/-- Create the event and, for a demo online, the link. -/
def book (cfg : Config) (demo : Demo) (hold : SlotHold) (tutorEmail studentEmail : Option String)
    (summary description : String) : Act BookingResult := do
  let now : Time ← ask .now
  if !hold.live now then pure { failed := true, failureReason := "hold_expired" }
  else if !(← revalidate hold) then
    pure { failed := true, failureReason := "tutor_no_longer_available" }
  else
    let attendees := [tutorEmail, studentEmail].filterMap fun email =>
      if Requirement.present email then email else none
    let online := decide (demo.mode = .online)
    let requestId : String ← ask (.newId "nxt")
    match ← ask (.createEvent hold.slot summary description attendees online requestId
        (if online then none else demo.locationLabel)) with
    | .error e =>
      let code := if e.code = "" then "unknown" else e.code
      pure { failed := true, failureReason := "calendar_error:" ++ code }
    | .ok (created : CreatedEvent) =>
      if created.eventId = "" then
        pure { failed := true, failureReason := "calendar_event_id_missing" }
      else
        let meetUrl := if online then verifiedMeetUrl cfg created else ""
        if online && meetUrl = "" then
          match ← ask (.cancelEvent created.eventId) with
          | .error _ => throw (.other "ProviderError")
          | .ok _ => pure { failed := true, failureReason := "meet_link_missing" }
        else
          let _ ← ask (.slots ⟨now, .confirm hold.holdId⟩)
          let booked := demo.booked hold created.eventId meetUrl
          ask (.saveDemo booked)
          pure { demo := some booked, calendarEventId := created.eventId, meetUrl }

/-! ## Moving and cancelling -/

/-- Move the event. -/
def reschedule (demo : Demo) (slot : TimeSlot) : Act BookingResult := do
  let _ ← ask .now
  match demo.calendarEventId with
  | none => pure { failed := true, failureReason := "no_event_to_reschedule" }
  | some eventId =>
    if eventId = "" then pure { failed := true, failureReason := "no_event_to_reschedule" }
    else
      match ← ask (.patchEvent eventId slot) with
      | .error e => pure { failed := true, failureReason := "calendar_patch_failed:" ++ e.code }
      | .ok _ =>
        let moved := demo.withSlot slot
        ask (.saveDemo moved)
        pure { demo := some moved, calendarEventId := eventId,
               meetUrl := demo.meetUrl.getD "" }

/-- Cancel a demo, in the calendar if that is possible, and in the store in any case. -/
def cancel (demo : Demo) : Act Unit := do
  let now : Time ← ask .now
  match demo.calendarEventId with
  | none => pure ()
  | some eventId =>
    if eventId = "" then pure ()
    else
      let _ ← ask (.cancelEvent eventId)
  ask (.saveDemo { demo with cancelledAt := some now })

end NxTutors.DemoAgent
