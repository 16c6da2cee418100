import NxTutors.DemoAgent.Records
import NxTutors.Text.Strings

/-!
# Approved templates

Outside the session window only an approved template is delivered. The registry declares, for
each name, the languages it is approved in and its variables, whose number and order are part of
the contract; `bind` refuses whatever does not fit.
-/

namespace NxTutors.DemoAgent

open Text (Tables)

def TEMPLATE_REMINDER_T24H : String := "demo_reminder_t24h"
def TEMPLATE_REMINDER_T2H : String := "demo_reminder_t2h"
def TEMPLATE_REMINDER_T15M : String := "demo_reminder_t15m"
def TEMPLATE_TUTOR_REQUEST_EXPIRED : String := "demo_tutor_request_expired"
def TEMPLATE_SCHEDULED_CONFIRMATION : String := "demo_scheduled_confirmation"
def TEMPLATE_CANCELLED : String := "demo_cancelled"
def TEMPLATE_FOLLOWUP : String := "demo_followup"
def TEMPLATE_TUTOR_CONFIRMATION : String := "demo_tutor_confirmation_requested"

/-- The contract of one template. -/
structure Template where
  name : String
  languages : List String := ["en"]
  /-- the names of the variables, in order -/
  positionalVariables : List String
  approved : Bool := true
  note : String := ""

def TEMPLATES : List Template :=
  [ { name := TEMPLATE_REMINDER_T24H, positionalVariables := ["demo_datetime", "timezone", "reference"] },
    { name := TEMPLATE_REMINDER_T2H, positionalVariables := ["demo_datetime", "timezone", "reference"] },
    { name := TEMPLATE_REMINDER_T15M, positionalVariables := ["demo_datetime", "timezone", "reference"] },
    { name := TEMPLATE_TUTOR_REQUEST_EXPIRED, positionalVariables := ["reference"] },
    { name := TEMPLATE_SCHEDULED_CONFIRMATION,
      positionalVariables := ["demo_datetime", "timezone", "join_link", "reference"] },
    { name := TEMPLATE_TUTOR_CONFIRMATION,
      positionalVariables := ["demo_datetime", "timezone", "reference"],
      note := "Quick-reply buttons Accept/Decline. Buttons are not bound as variables." },
    { name := TEMPLATE_CANCELLED, positionalVariables := ["demo_datetime", "timezone", "reference"],
      note := "Active in the WABA. Verified 2026-08-18 against " ++
        "GET /{waba}/message_templates: status APPROVED, en, arity confirmed." },
    { name := TEMPLATE_FOLLOWUP, positionalVariables := ["reference"],
      note := "Active in the WABA. Verified 2026-08-18 against " ++
        "GET /{waba}/message_templates: status APPROVED, en, arity confirmed." } ]

/-- `TemplateNotApproved`: the template, and why it cannot be used. -/
structure TemplateNotApproved where
  name : String
  reason : String
  deriving DecidableEq, Repr

/-- A registered and approved template. -/
def Template.get (name : String) : Except TemplateNotApproved Template :=
  match TEMPLATES.find? fun t => t.name = name with
  | none => .error ⟨name, "not in the registry"⟩
  | some template =>
    if template.approved then .ok template
    else .error ⟨name, if template.note = "" then "approved name unconfirmed" else template.note⟩

/-- `repr(s)`, of a text without quotes. -/
def quoted (s : String) : String := "'" ++ s ++ "'"

/-- A binding that can be sent, or why there is none. -/
def Template.bind (t : Tables) (name language : String) (values : List String) :
    Except TemplateNotApproved TemplateBinding :=
  match Template.get name with
  | .error e => .error e
  | .ok template =>
    let names := template.positionalVariables
    if language ∉ template.languages then
      .error ⟨name, "not approved in language " ++ quoted language⟩
    else if values.length ≠ names.length then
      .error ⟨name, "expects " ++ toString names.length ++ " variables (" ++
        ", ".intercalate names ++ "), got " ++ toString values.length⟩
    else if values.any fun value => Text.strip t value = "" then
      .error ⟨name, "template variables must not be empty"⟩
    else .ok { name, language, positionalVariables := values }

/-- **A binding is what was asked for**: the same name, language and variables, none of them
blank. -/
theorem Template.bind_eq_ok {t : Tables} {name language : String} {values : List String}
    {binding : TemplateBinding} (h : Template.bind t name language values = .ok binding) :
    binding = ⟨name, language, values⟩ ∧ ∀ value ∈ values, Text.strip t value ≠ "" := by
  unfold Template.bind at h
  cases hget : Template.get name with
  | error e =>
    rw [hget] at h
    cases h
  | ok template =>
    rw [hget] at h
    dsimp only at h
    split at h
    · cases h
    · split at h
      · cases h
      · split at h
        · cases h
        · rename_i hblank
          cases h
          refine ⟨rfl, fun value hvalue hstrip => hblank ?_⟩
          exact List.any_eq_true.mpr ⟨value, hvalue, decide_eq_true hstrip⟩

/-- **What `bind` accepts.** -/
theorem Template.bind_eq_ok_iff {t : Text.Tables} {name language : String} {values : List String} :
    Template.bind t name language values = .ok ⟨name, language, values⟩ ↔
      ∃ template, Template.get name = .ok template ∧ language ∈ template.languages ∧
        values.length = template.positionalVariables.length ∧
        ∀ value ∈ values, Text.strip t value ≠ "" := by
  constructor
  · intro h
    have hblank := (Template.bind_eq_ok h).2
    unfold Template.bind at h
    cases hget : Template.get name with
    | error e =>
      rw [hget] at h
      cases h
    | ok template =>
      rw [hget] at h
      dsimp only at h
      split at h
      · cases h
      · rename_i hlanguage
        split at h
        · cases h
        · rename_i hlength
          exact ⟨template, rfl, not_not.mp hlanguage, not_not.mp hlength, hblank⟩
  · rintro ⟨template, hget, hlanguage, hlength, hblank⟩
    unfold Template.bind
    rw [hget]
    dsimp only
    rw [if_neg (not_not.mpr hlanguage), if_neg (not_not.mpr hlength), if_neg]
    rw [List.any_eq_true]
    rintro ⟨value, hvalue, hstrip⟩
    exact hblank value hvalue (of_decide_eq_true hstrip)

end NxTutors.DemoAgent
