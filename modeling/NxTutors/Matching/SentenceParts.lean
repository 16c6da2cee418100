import NxTutors.Matching.FixedWords
import NxTutors.Text.Words

/-!
# The text of an entry in parts

A sentence is fixed words, and behind them what is not chosen here, if there is any. So the text of
an entry is the name and then parts that are fixed or free by turns, and what the audit looks for is
found in it only where it is in the name or in one of the free parts with the blanks around it
(`silent_rendered_iff`).
-/

namespace NxTutors.Matching

open Text MatchAgent
open Segment (Begins Apart text text_append gaps)

/-! ## Sentences in parts -/

/-- The class with the board. -/
def classText (board : Option String) (studentClass : String) : String :=
  match board with
  | none => studentClass
  | some board => board ++ " " ++ studentClass

namespace Sentence

/-- What is not chosen here. It comes at the end of a sentence. -/
def unknown : Sentence → Option String
  | alreadyTeaches board studentClass => some (classText board studentClass)
  | teaches subject => some subject
  | basedIn place => some place
  | _ => none

/-- What comes before it. -/
def known (m : Measures) : Sentence → String
  | alreadyTeaches _ _ => "already teaches"
  | teaches _ => "teaches"
  | basedIn _ => "based in"
  | sentence => sentence.text m

theorem text_eq (m : Measures) (sentence : Sentence) : sentence.text m =
    match sentence.unknown with
    | none => sentence.known m
    | some unknown => sentence.known m ++ " " ++ unknown := by
  have halready : "already teaches " = "already teaches" ++ " " := by decide
  have hteaches : "teaches " = "teaches" ++ " " := by decide
  have hbased : "based in " = "based in" ++ " " := by decide
  cases sentence with
  | alreadyTeaches board studentClass =>
    cases board with
    | none => exact congrArg (· ++ studentClass) halready
    | some board =>
      have hassoc : "already teaches" ++ " " ++ board ++ " " ++ studentClass =
          "already teaches" ++ " " ++ (board ++ " " ++ studentClass) := by
        simp only [String.append_assoc]
      exact (congrArg (· ++ board ++ " " ++ studentClass) halready).trans hassoc
  | teaches subject => exact congrArg (· ++ subject) hteaches
  | basedIn place => exact congrArg (· ++ place) hbased
  | _ => rfl

end Sentence

section Parts

variable {tables : Tables} {m : Measures}

/-- A sentence in parts, in small letters. -/
def parts (tables : Tables) (m : Measures) (sentence : Sentence) : List Segment :=
  .fixed (tables.lower (sentence.known m)).toList ::
    (sentence.unknown.map fun unknown => Segment.free (tables.lower unknown).toList).toList

/-- A label in parts, or nothing. -/
def labelParts (tables : Tables) (m : Measures) (label : Option Sentence) : List Segment :=
  (label.map (parts tables m)).getD [.fixed []]

theorem begins_parts (sentence : Sentence) : Begins (parts tables m sentence) := ⟨_, _, rfl⟩

theorem begins_labelParts (label : Option Sentence) : Begins (labelParts tables m label) := by
  cases label with
  | none => exact ⟨_, _, rfl⟩
  | some sentence => exact begins_parts sentence

theorem apart_parts (sentence : Sentence) : Apart (parts tables m sentence) := by
  unfold parts
  cases sentence.unknown <;> trivial

theorem apart_labelParts (label : Option Sentence) : Apart (labelParts tables m label) := by
  cases label with
  | none => trivial
  | some sentence => exact apart_parts sentence

theorem lowered_parts (hlower : LowersWords tables) (sentence : Sentence) :
    (tables.lower (sentence.text m)).toList = text (parts tables m sentence) := by
  rw [sentence.text_eq, parts]
  cases sentence.unknown with
  | none => rfl
  | some unknown =>
    dsimp only
    rw [hlower.blank, String.toList_append, String.toList_append, List.append_assoc]
    rfl

theorem lowered_labelParts (hlower : LowersWords tables) (label : Option Sentence) :
    (tables.lower (labelText m label)).toList = text (labelParts tables m label) := by
  cases label with
  | none =>
    have hempty : tables.lower "" = "" := hlower.small (by simp)
    rw [labelText, Option.map_none, Option.getD_none, hempty]
    rfl
  | some sentence => exact lowered_parts hlower sentence

/-- Texts with blanks between them, each in parts. -/
theorem lowered_join (hlower : LowersWords tables) {texts : List String}
    {segments : List (List Segment)} (h : List.Forall₂ (fun text segments =>
      (tables.lower text).toList = Segment.text segments ∧ segments ≠ []) texts segments)
    (hne : texts ≠ []) :
    (tables.lower (" ".intercalate texts)).toList = text segments.flatten := by
  induction h with
  | nil => exact absurd rfl hne
  | @cons a ss texts rest hfirst hrest ih =>
    by_cases hnil : texts = []
    · subst hnil
      cases hrest
      rw [String.intercalate_singleton, List.flatten_singleton]
      exact hfirst.1
    · obtain ⟨b, texts', rfl⟩ := List.exists_cons_of_ne_nil hnil
      have hflat : rest.flatten ≠ [] := by
        cases hrest with
        | cons hsecond _ => exact List.append_ne_nil_of_left_ne_nil hsecond.2 _
      rw [String.intercalate_cons_cons, hlower.blank, String.toList_append, String.toList_append,
        ih hnil, hfirst.1, List.flatten_cons, text_append hfirst.2 hflat, List.append_assoc]
      rfl

/-- The gaps of sentences that something comes behind. -/
theorem gaps_sentences {ts : List Segment} (hts : ts ≠ []) (sentences : List Sentence) :
    gaps ((sentences.map (parts tables m)).flatten ++ ts) =
      ((sentences.filterMap Sentence.unknown).map fun unknown =>
        ' ' :: (tables.lower unknown).toList ++ [' ']) ++ gaps ts := by
  induction sentences with
  | nil => rfl
  | cons sentence sentences ih =>
    rw [List.map_cons, List.flatten_cons, List.append_assoc, parts]
    cases hunknown : sentence.unknown with
    | none =>
      rw [List.filterMap_cons_none hunknown, ← ih]
      rfl
    | some unknown =>
      obtain ⟨t, rest, hrest⟩ := List.exists_cons_of_ne_nil (List.append_ne_nil_of_right_ne_nil
        (sentences.map (parts tables m)).flatten hts)
      rw [List.filterMap_cons_some hunknown, List.map_cons]
      refine Eq.trans ?_
        (congrArg ((' ' :: (tables.lower unknown).toList ++ [' ']) :: ·) ih)
      rw [hrest]
      rfl

/-- A label in which everything is fixed. -/
theorem gaps_known {ts : List Segment} {label : Option Sentence}
    (h : label.bind Sentence.unknown = none) : gaps (labelParts tables m label ++ ts) = gaps ts := by
  cases label with
  | none => rfl
  | some sentence =>
    have hunknown : sentence.unknown = none := h
    rw [labelParts, Option.map_some, Option.getD_some, parts, hunknown]
    rfl

/-- The gap of the last label. -/
theorem gaps_label (label : Option Sentence) : gaps (labelParts tables m label) =
    ((label.bind Sentence.unknown).map fun unknown => ' ' :: (tables.lower unknown).toList).toList := by
  cases label with
  | none => rfl
  | some sentence =>
    rw [labelParts, Option.map_some, Option.getD_some, parts, Option.bind_some]
    cases sentence.unknown <;> rfl

end Parts

/-! ## Where the phrases are -/

section Rendered

variable {tables : Tables} {m : Measures} {phrases : List String} {entry : ShortlistEntry}

/-- None of the phrases is in the text. -/
def Silent (tables : Tables) (phrases : List String) (text : String) : Prop :=
  ∀ phrase ∈ phrases, Text.contains (tables.lower text) phrase = false

theorem silent_iff {s : String} {cs : List Char} (hcs : (tables.lower s).toList = cs) :
    Silent tables phrases s ↔ ∀ phrase ∈ phrases, ¬ phrase.toList <:+: cs := by
  unfold Silent
  simp only [← Bool.not_eq_true, Text.contains_iff, hcs]

theorem LowersWords.empty (hlower : LowersWords tables) : tables.lower "" = "" :=
  hlower.small (by simp)

/-- Behind a blank. -/
theorem LowersWords.behind (hlower : LowersWords tables) (s : String) :
    (tables.lower (" " ++ s)).toList = ' ' :: (tables.lower s).toList := by
  have h := hlower.blank "" s
  rw [hlower.empty, String.empty_append] at h
  rw [h, String.toList_append]
  rfl

/-- Before a blank. -/
theorem LowersWords.before (hlower : LowersWords tables) (s : String) :
    (tables.lower (s ++ " ")).toList = (tables.lower s).toList ++ [' '] := by
  have h := hlower.blank s ""
  rw [hlower.empty, String.append_empty, String.append_empty] at h
  rw [h, String.toList_append]
  rfl

/-- What is looked through, but for the name. -/
def ShortlistEntry.heard (entry : ShortlistEntry) : List Sentence :=
  entry.reasons ++ [entry.availabilityLabel, entry.feeLabel, entry.localityLabel].reduceOption

/-- The text in parts. -/
def entryParts (tables : Tables) (m : Measures) (entry : ShortlistEntry) : List Segment :=
  (entry.reasons.map (parts tables m)).flatten ++ (labelParts tables m entry.availabilityLabel ++
    (labelParts tables m entry.feeLabel ++ labelParts tables m entry.localityLabel))

theorem lowered_rendered (hlower : LowersWords tables) : (tables.lower (rendered m entry)).toList =
    text (.free (tables.lower entry.name).toList :: entryParts tables m entry) := by
  have hlabel (label : Option Sentence) :
      (tables.lower (labelText m label)).toList = text (labelParts tables m label) ∧
        labelParts tables m label ≠ [] :=
    ⟨lowered_labelParts hlower label, (begins_labelParts label).ne_nil⟩
  have hreasons : List.Forall₂ (fun s segments => (tables.lower s).toList = text segments ∧
      segments ≠ []) (entry.reasons.map (Sentence.text m)) (entry.reasons.map (parts tables m)) := by
    rw [List.forall₂_map_left_iff, List.forall₂_map_right_iff, List.forall₂_same]
    exact fun sentence _ => ⟨lowered_parts hlower sentence, (begins_parts sentence).ne_nil⟩
  have hall := lowered_join hlower (.cons (R := fun s segments =>
      (tables.lower s).toList = text segments ∧ segments ≠ [])
    (⟨rfl, List.cons_ne_nil _ _⟩ : (tables.lower entry.name).toList =
      text [.free (tables.lower entry.name).toList] ∧ _) (List.rel_append hreasons
      (.cons (hlabel entry.availabilityLabel) (.cons (hlabel entry.feeLabel)
        (.cons (hlabel entry.localityLabel) .nil))))) (List.cons_ne_nil _ _)
  rw [rendered, hall]
  simp only [entryParts, List.flatten_cons, List.flatten_append, List.flatten_nil, List.append_nil,
    List.singleton_append]

theorem begins_sentences {ts : List Segment} (hts : Begins ts) (sentences : List Sentence) :
    Begins ((sentences.map (parts tables m)).flatten ++ ts) := by
  cases sentences with
  | nil => exact hts
  | cons sentence sentences => exact ⟨_, _, rfl⟩

theorem apart_sentences {ts : List Segment} (hbegins : Begins ts) (hapart : Apart ts)
    (sentences : List Sentence) : Apart ((sentences.map (parts tables m)).flatten ++ ts) := by
  induction sentences with
  | nil => exact hapart
  | cons sentence sentences ih =>
    rw [List.map_cons, List.flatten_cons, List.append_assoc]
    exact Apart.append (begins_sentences hbegins sentences) ih _ (apart_parts sentence)

theorem begins_entryParts : Begins (entryParts tables m entry) :=
  begins_sentences (begins_labelParts _).append _

theorem apart_entryParts : Apart (entryParts tables m entry) := by
  have hfee : Apart (labelParts tables m entry.feeLabel ++
      labelParts tables m entry.localityLabel) :=
    Apart.append (begins_labelParts _) (apart_labelParts _) _ (apart_labelParts _)
  have havailability : Apart (labelParts tables m entry.availabilityLabel ++
      (labelParts tables m entry.feeLabel ++ labelParts tables m entry.localityLabel)) :=
    Apart.append (begins_labelParts _).append hfee _ (apart_labelParts _)
  exact apart_sentences (begins_labelParts _).append havailability _

/-- What is fixed in the text is known of some sentence, or nothing. -/
theorem of_fixed_mem {cs : List Char} (h : .fixed cs ∈ entryParts tables m entry) :
    cs = [] ∨ ∃ sentence ∈ entry.heard, cs = (tables.lower (sentence.known m)).toList := by
  have hparts {sentence : Sentence} (h : .fixed cs ∈ parts tables m sentence) :
      cs = (tables.lower (sentence.known m)).toList := by
    rcases List.mem_cons.mp h with h | h
    · cases h
      rfl
    · obtain ⟨unknown, -, h⟩ := Option.map_eq_some_iff.mp (Option.mem_toList.mp h)
      cases h
  have hlabel {label : Option Sentence} (hlabel : ∀ sentence ∈ label, sentence ∈ entry.heard)
      (h : .fixed cs ∈ labelParts tables m label) :
      cs = [] ∨ ∃ sentence ∈ entry.heard, cs = (tables.lower (sentence.known m)).toList := by
    cases label with
    | none =>
      cases List.mem_singleton.mp h
      exact .inl rfl
    | some sentence => exact .inr ⟨sentence, hlabel sentence rfl, hparts h⟩
  have hheard {label : Option Sentence}
      (hlabel : label ∈ [entry.availabilityLabel, entry.feeLabel, entry.localityLabel]) :
      ∀ sentence ∈ label, sentence ∈ entry.heard := by
    rintro sentence rfl
    exact List.mem_append_right _ (List.reduceOption_mem_iff.mpr hlabel)
  rcases List.mem_append.mp h with h | h
  · obtain ⟨ss, hss, h⟩ := List.mem_flatten.mp h
    obtain ⟨sentence, hsentence, rfl⟩ := List.mem_map.mp hss
    exact .inr ⟨sentence, List.mem_append_left _ hsentence, hparts h⟩
  · rcases List.mem_append.mp h with h | h
    · exact hlabel (hheard (by simp)) h
    · rcases List.mem_append.mp h with h | h
      · exact hlabel (hheard (by simp)) h
      · exact hlabel (hheard (by simp)) h

/-- **Where a phrase may be**, if what is known bars it: in the name, in what is unknown of a
reason, or in the place at the end. -/
theorem silent_rendered_iff (hlower : LowersWords tables) (hsub : phrases ⊆ ALL_PHRASES)
    (hknown : ∀ sentence ∈ entry.heard, Barred tables phrases (sentence.known m))
    (havailability : entry.availabilityLabel.bind Sentence.unknown = none)
    (hfee : entry.feeLabel.bind Sentence.unknown = none) :
    Silent tables phrases (rendered m entry) ↔ Silent tables phrases (entry.name ++ " ") ∧
      (∀ sentence ∈ entry.reasons, ∀ unknown ∈ sentence.unknown,
        Silent tables phrases (" " ++ unknown ++ " ")) ∧
      ∀ unknown ∈ entry.localityLabel.bind Sentence.unknown, Silent tables phrases (" " ++ unknown) := by
  obtain ⟨r, ss, hparts⟩ := @begins_entryParts tables m entry
  have hgaps : gaps ss = ((entry.reasons.filterMap Sentence.unknown).map fun unknown =>
      ' ' :: (tables.lower unknown).toList ++ [' ']) ++
      ((entry.localityLabel.bind Sentence.unknown).map fun unknown =>
        ' ' :: (tables.lower unknown).toList).toList := by
    have hall : gaps (entryParts tables m entry) = gaps ss := by rw [hparts]; rfl
    rw [← hall, entryParts, gaps_sentences (begins_labelParts _).append.ne_nil,
      gaps_known havailability, gaps_known hfee, gaps_label]
  have hphrase : ∀ phrase ∈ phrases, (phrase.toList <:+: (tables.lower (rendered m entry)).toList ↔
      phrase.toList <:+: (tables.lower entry.name).toList ++ [' '] ∨
        ∃ gap ∈ gaps ss, phrase.toList <:+: gap) := by
    intro phrase hphrase
    have hword := phrase_of_mem (hsub hphrase)
    rw [lowered_rendered hlower, hparts]
    refine infix_text_iff hword (fun cs hcs => ?_) ?_
    · rw [← hparts] at hcs
      rcases of_fixed_mem hcs with rfl | ⟨sentence, hsentence, rfl⟩
      · exact .of_disjoint hword fun _ _ _ => List.not_mem_nil
      · exact hknown sentence hsentence phrase hphrase
    · have hapart := @apart_entryParts tables m entry
      rw [hparts] at hapart
      exact hapart
  have hbetween (unknown : String) : (tables.lower (" " ++ unknown ++ " ")).toList =
      ' ' :: (tables.lower unknown).toList ++ [' '] := by
    rw [hlower.before, hlower.behind]
  rw [silent_iff rfl, silent_iff (hlower.before entry.name)]
  simp only [silent_iff (hbetween _), silent_iff (hlower.behind _)]
  constructor
  · intro h
    refine ⟨fun phrase hin hfound => h phrase hin ((hphrase phrase hin).mpr (.inl hfound)),
      fun sentence hsentence unknown hunknown phrase hin hfound => ?_,
      fun unknown hunknown phrase hin hfound => ?_⟩
    · refine h phrase hin ((hphrase phrase hin).mpr (.inr ⟨_, ?_, hfound⟩))
      rw [hgaps]
      exact List.mem_append_left _
        (List.mem_map_of_mem (List.mem_filterMap.mpr ⟨sentence, hsentence, hunknown⟩))
    · refine h phrase hin ((hphrase phrase hin).mpr (.inr ⟨_, ?_, hfound⟩))
      rw [hgaps, Option.mem_def.mp hunknown]
      exact List.mem_append_right _ List.mem_cons_self
  · rintro ⟨hname, hreasons, hplace⟩ phrase hin hfound
    rcases (hphrase phrase hin).mp hfound with hfound | ⟨gap, hgap, hfound⟩
    · exact hname phrase hin hfound
    · rw [hgaps] at hgap
      rcases List.mem_append.mp hgap with hgap | hgap
      · obtain ⟨unknown, hunknown, rfl⟩ := List.mem_map.mp hgap
        obtain ⟨sentence, hsentence, hunknown⟩ := List.mem_filterMap.mp hunknown
        exact hreasons sentence hsentence unknown hunknown phrase hin hfound
      · obtain ⟨unknown, hunknown, rfl⟩ := Option.map_eq_some_iff.mp (Option.mem_toList.mp hgap)
        exact hplace unknown hunknown phrase hin hfound

end Rendered

end NxTutors.Matching
