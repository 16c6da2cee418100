import NxTutors.DemoAgent.Inbound
import NxTutors.Text.Words

/-!
# Words and parts of words

The vocabularies of `capture` are looked for anywhere in a text, so "eco" is found in "recommend"
and "home" in "homework". What has been answered is left alone whatever the text says. What is
filled in comes from a whole word exactly if the first entry that is found at all is also found as
one (`capture_whole_iff`).
-/

namespace NxTutors.DemoAgent

open Text (Tables)

/-! ## Vocabularies -/

/-- The modes, with the phrases that ask for them. -/
def MODES : List (List String × DemoMode) :=
  [(["online", "video", "zoom", "remote"], .online),
    (["home", "at my place", "offline", "in person", "ghar"], .home)]

section Vocabulary

variable {α : Type} {t : Tables} {lowered : String} {table : List (List String × α)}

/-- What the first row stands for one of whose phrases is in a text. -/
def firstHit (lowered : String) (table : List (List String × α)) : Option α :=
  (table.find? fun row => Text.containsAny lowered row.1).map Prod.snd

theorem firstIn_eq (table : List (List String × String)) :
    firstIn lowered table = firstHit lowered table := rfl

theorem modeIn_eq : modeIn lowered = firstHit lowered MODES := by
  rw [modeIn, firstHit, MODES, List.find?_cons, List.find?_cons, List.find?_nil]
  cases Text.containsAny lowered ["online", "video", "zoom", "remote"]
  · cases Text.containsAny lowered ["home", "at my place", "offline", "in person", "ghar"] <;> rfl
  · rfl

/-- **A value stands in the text**: the table maps a phrase to it that the text has as a whole. -/
def Said (t : Tables) (lowered : String) (table : List (List String × α)) (value : α) : Prop :=
  ∃ row ∈ table, row.2 = value ∧ ∃ phrase ∈ row.1, Text.whole t lowered phrase = true

/-- **No entry is found in parts of words only**, unless an earlier one is found: where some phrase
of an entry is in the text, and none of the entries before, a phrase of it is there as a whole. -/
def NotByAccident (t : Tables) (lowered : String) (table : List (List String × α)) : Prop :=
  ∀ before row after, table = before ++ row :: after →
    (∀ earlier ∈ before, ∀ phrase ∈ earlier.1, Text.contains lowered phrase = false) →
      (∃ phrase ∈ row.1, Text.contains lowered phrase = true) →
        ∃ phrase ∈ row.1, Text.whole t lowered phrase = true

/-- The values of a table are those of different rows. -/
abbrev DistinctValues (table : List (List String × α)) : Prop := (table.map Prod.snd).Nodup

theorem containsAny_iff {phrases : List String} :
    Text.containsAny lowered phrases = true ↔ ∃ phrase ∈ phrases,
      Text.contains lowered phrase = true := List.any_eq_true

/-- **What is found first stands in the text exactly if it was not found by accident.** -/
theorem said_firstHit_iff (hdistinct : DistinctValues table) :
    (∀ value ∈ firstHit lowered table, Said t lowered table value) ↔
      NotByAccident t lowered table := by
  constructor
  · intro h before row after htable hbefore hrow
    have hfound : table.find? (fun row => Text.containsAny lowered row.1) = some row := by
      rw [List.find?_eq_some_iff_append]
      refine ⟨containsAny_iff.mpr hrow, before, after, htable, fun earlier hearlier => ?_⟩
      rw [Bool.not_eq_true', Bool.eq_false_iff, Ne, containsAny_iff]
      rintro ⟨phrase, hphrase, hcontains⟩
      rw [hbefore earlier hearlier phrase hphrase] at hcontains
      cases hcontains
    obtain ⟨row', hmem, hvalue, hwhole⟩ := h row.2 (by rw [firstHit, hfound]; rfl)
    have hsame : row' = row :=
      List.inj_on_of_nodup_map hdistinct hmem (List.mem_of_find?_eq_some hfound) hvalue
    rwa [hsame] at hwhole
  · intro h value hvalue
    obtain ⟨row, hfound, rfl⟩ := Option.map_eq_some_iff.mp hvalue
    obtain ⟨hrow, before, after, htable, hbefore⟩ := List.find?_eq_some_iff_append.mp hfound
    refine ⟨row, List.mem_of_find?_eq_some hfound, rfl, h before row after htable ?_ ?_⟩
    · intro earlier hearlier phrase hphrase
      rw [Bool.eq_false_iff]
      intro hcontains
      have hnot := hbefore earlier hearlier
      rw [containsAny_iff.mpr ⟨phrase, hphrase, hcontains⟩] at hnot
      cases hnot
    · exact containsAny_iff.mp hrow

theorem distinct_subjects : DistinctValues SUBJECTS := by decide

theorem distinct_boards : DistinctValues BOARDS := by decide

theorem distinct_services : DistinctValues SERVICES := by decide

theorem distinct_modes : DistinctValues MODES := by decide

end Vocabulary

/-! ## Captures -/

section Captures

variable (t : Tables) (text : String) (current : Requirement)

/-- What has been answered is left alone. -/
structure Unchanged (current after : Requirement) : Prop where
  subject : current.subject ≠ none → after.subject = current.subject
  board : current.board ≠ none → after.board = current.board
  studentClass : current.studentClass ≠ none → after.studentClass = current.studentClass
  mode : current.mode ≠ none → after.mode = current.mode
  service : current.service ≠ none → after.service = current.service
  others : after.region = current.region ∧ after.locality = current.locality ∧
    after.timezone = current.timezone ∧ after.language = current.language

/-- **What is filled in stands in the text**, for each field that has a vocabulary and was not
answered, and nothing else is changed. -/
structure ReadsWords (after : Requirement) : Prop where
  subject : current.subject = none → ∀ value ∈ after.subject,
    Said t (Text.squash t text) SUBJECTS value
  board : current.board = none → ∀ value ∈ after.board, Said t (Text.squash t text) BOARDS value
  mode : current.mode = none → ∀ value ∈ after.mode, Said t (Text.squash t text) MODES value
  service : current.service = none → ∀ value ∈ after.service,
    Said t (Text.squash t text) SERVICES value
  unchanged : Unchanged current after

/-- Of each vocabulary that is looked into, nothing is found by accident. -/
structure NoAccident : Prop where
  subject : current.subject = none → NotByAccident t (Text.squash t text) SUBJECTS
  board : current.board = none → NotByAccident t (Text.squash t text) BOARDS
  mode : current.mode = none → NotByAccident t (Text.squash t text) MODES
  service : current.service = none → NotByAccident t (Text.squash t text) SERVICES

variable {t text current}

/-- **Nothing that was answered is rewritten.** -/
theorem capture_unchanged : Unchanged current (capture t text current) := by
  have hor {α : Type} {x y : Option α} (h : x ≠ none) : x.or y = x := by
    cases x with
    | none => exact absurd rfl h
    | some a => rfl
  rw [capture]
  split
  · exact ⟨fun _ => rfl, fun _ => rfl, fun _ => rfl, fun _ => rfl, fun _ => rfl, rfl, rfl, rfl, rfl⟩
  · exact ⟨hor, hor, hor, hor, hor, rfl, rfl, rfl, rfl⟩

/-- In an empty text nothing is found. -/
theorem firstHit_empty {α : Type} {table : List (List String × α)}
    (h : ∀ row ∈ table, ∀ phrase ∈ row.1, phrase ≠ "") : firstHit "" table = none := by
  rw [firstHit, Option.map_eq_none_iff, List.find?_eq_none]
  intro row hrow hcontains
  obtain ⟨phrase, hphrase, hcontains⟩ := containsAny_iff.mp hcontains
  exact h row hrow phrase hphrase (String.toList_eq_nil_iff.mp
    (List.infix_nil.mp (Text.contains_iff.mp hcontains)))

/-- What a capture fills in, field by field. -/
theorem capture_fields :
    (current.subject = none →
      (capture t text current).subject = firstHit (Text.squash t text) SUBJECTS) ∧
    (current.board = none →
      (capture t text current).board = firstHit (Text.squash t text) BOARDS) ∧
    (current.mode = none →
      (capture t text current).mode = firstHit (Text.squash t text) MODES) ∧
    (current.service = none →
      (capture t text current).service = firstHit (Text.squash t text) SERVICES) := by
  rw [capture]
  split
  next hempty =>
    rw [hempty]
    refine ⟨fun h => ?_, fun h => ?_, fun h => ?_, fun h => ?_⟩ <;>
      rw [h, firstHit_empty (by decide)]
  next =>
    refine ⟨fun h => ?_, fun h => ?_, fun h => ?_, fun h => ?_⟩ <;>
      simp only [captureIn, h, Option.none_or, firstIn_eq, modeIn_eq]

/-- **A capture reads whole words, and overwrites nothing, exactly if no entry of a vocabulary it
looks into is found by accident.** -/
theorem capture_whole_iff (t : Tables) (text : String) (current : Requirement) :
    ReadsWords t text current (capture t text current) ↔ NoAccident t text current := by
  obtain ⟨hsubject, hboard, hmode, hservice⟩ := @capture_fields t text current
  constructor
  · intro h
    refine ⟨fun hnone => ?_, fun hnone => ?_, fun hnone => ?_, fun hnone => ?_⟩
    · exact (said_firstHit_iff distinct_subjects).mp (hsubject hnone ▸ h.subject hnone)
    · exact (said_firstHit_iff distinct_boards).mp (hboard hnone ▸ h.board hnone)
    · exact (said_firstHit_iff distinct_modes).mp (hmode hnone ▸ h.mode hnone)
    · exact (said_firstHit_iff distinct_services).mp (hservice hnone ▸ h.service hnone)
  · intro h
    refine ⟨fun hnone => ?_, fun hnone => ?_, fun hnone => ?_, fun hnone => ?_, capture_unchanged⟩
    · rw [hsubject hnone]
      exact (said_firstHit_iff distinct_subjects).mpr (h.subject hnone)
    · rw [hboard hnone]
      exact (said_firstHit_iff distinct_boards).mpr (h.board hnone)
    · rw [hmode hnone]
      exact (said_firstHit_iff distinct_modes).mpr (h.mode hnone)
    · rw [hservice hnone]
      exact (said_firstHit_iff distinct_services).mpr (h.service hnone)

end Captures

/-- **A recommendation is taken for economics.** -/
theorem economics_in_recommend : ¬ReadsWords Text.ascii "please recommend a tutor" {}
    (capture Text.ascii "please recommend a tutor" {}) := by
  intro h
  have hcaptured : (capture Text.ascii "please recommend a tutor" {}).subject =
      some "Economics" := by decide
  obtain ⟨row, hrow, hvalue, hwhole⟩ := h.subject rfl "Economics" hcaptured
  have hnone : ∀ row ∈ SUBJECTS, row.2 = "Economics" → ∀ phrase ∈ row.1,
      Text.whole Text.ascii (Text.squash Text.ascii "please recommend a tutor") phrase = false := by
    decide
  obtain ⟨phrase, hphrase, hfound⟩ := hwhole
  rw [hnone row hrow hvalue phrase hphrase] at hfound
  cases hfound

end NxTutors.DemoAgent
