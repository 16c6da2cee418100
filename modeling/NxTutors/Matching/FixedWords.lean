import NxTutors.Matching.Fabrication
import NxTutors.Matching.Fees
import NxTutors.Text.Joined

/-!
# Fixed words and figures

What is said of every tutor in the same words, in numbers, in times and in fees has nothing in it
that the audit looks for, nor has what is put together of it with blanks between (`Barred`). Days
have nothing in them but days, and the words of a rating nothing but ratings.
-/

namespace NxTutors.Matching

open Text MatchAgent

/-! ## Phrases and fixed words -/

section Phrases

variable {t : TutorCandidate} {scores : Dimension → Option SkillScore} {phrase : String}

/-- The phrases whose use the data may or may not bear out, but for days and times and ratings. -/
def OTHER_PHRASES : List String := DISTANCE_WORDS ++ VERIFICATION_WORDS ++ HOURLY_FEE_WORDS

/-- All phrases. -/
def ALL_PHRASES : List String := SCHEDULE_WORDS ++ RATING_WORDS ++ OTHER_PHRASES

/-- What is unsupported is days and times, ratings, or something else. -/
theorem of_mem_unsupported (h : phrase ∈ unsupported t scores) :
    (phrase ∈ SCHEDULE_WORDS ∧ ((scores .availability).any (·.dataQuality ≠ .missing) &&
        t.hasAvailabilityData) = false) ∨
      (phrase ∈ RATING_WORDS ∧ ((scores .performance).any SkillScore.quotable &&
        t.reviews.count ≠ 0) = false) ∨ phrase ∈ OTHER_PHRASES := by
  obtain ⟨a, ha, hin⟩ := List.mem_flatMap.mp h
  obtain ⟨ha, hnot⟩ := List.mem_filter.mp ha
  simp only [audits, List.mem_cons, List.not_mem_nil, or_false] at ha
  rcases ha with rfl | rfl | rfl | rfl | rfl
  · exact .inl ⟨hin, Bool.not_eq_true' _ ▸ hnot⟩
  · exact .inr (.inl ⟨hin, Bool.not_eq_true' _ ▸ hnot⟩)
  · exact .inr (.inr (List.mem_append_left _ (List.mem_append_left _ hin)))
  · exact .inr (.inr (List.mem_append_left _ (List.mem_append_right _ hin)))
  · exact .inr (.inr (List.mem_append_right _ hin))

theorem mem_all_of_unsupported (h : phrase ∈ unsupported t scores) : phrase ∈ ALL_PHRASES := by
  rcases of_mem_unsupported h with ⟨h, -⟩ | ⟨h, -⟩ | h
  · exact List.mem_append_left _ (List.mem_append_left _ h)
  · exact List.mem_append_left _ (List.mem_append_right _ h)
  · exact List.mem_append_right _ h

theorem schedule_subset_all : SCHEDULE_WORDS ++ OTHER_PHRASES ⊆ ALL_PHRASES :=
  List.append_subset.mpr ⟨List.Subset.trans (List.subset_append_left _ _) (List.subset_append_left _ _),
    List.subset_append_right _ _⟩

theorem rating_subset_all : RATING_WORDS ++ OTHER_PHRASES ⊆ ALL_PHRASES :=
  List.append_subset.mpr ⟨List.Subset.trans (List.subset_append_right _ _) (List.subset_append_left _ _),
    List.subset_append_right _ _⟩

/-- What is said in the same words of every tutor. -/
def FIXED_WORDS : List String :=
  ["", "already teaches", "teaches", "based in", "across", "years of teaching experience",
    "matches the teaching style you asked for", "available for this requirement; details to be confirmed"]

/-- The days in small letters. -/
def dayText (day : Fin 7) : List Char := (DAY_NAMES.getD day "").toList.map Char.toLower

/-- A character of a number, a time or a fee. -/
def Figure (c : Char) : Prop := c.isDigit = true ∨ c ∈ [':', '-', ',', '.', '₹', '–']

instance (c : Char) : Decidable (Figure c) := inferInstanceAs (Decidable (_ ∨ _))

/-- **Nothing that is looked for is in the fixed words**; nor, but for ratings, in the words of a
rating, nor, but for days and times, in the name of a day, nor in figures. -/
theorem phrases_checked :
    (∀ w ∈ ALL_PHRASES, Phrase w.toList ∧ (∀ word ∈ FIXED_WORDS, Bars w.toList word.toList) ∧
      (w.toList.all fun c => c = ' ' ∨ ¬ Figure c) = true) ∧
    (∀ w ∈ SCHEDULE_WORDS ++ OTHER_PHRASES, ∀ word ∈ ["rated", "reviews"],
      Bars w.toList word.toList) ∧
    ∀ w ∈ RATING_WORDS ++ OTHER_PHRASES, ∀ day : Fin 7, Bars w.toList (dayText day) := by
  decide +kernel

theorem phrase_of_mem (h : phrase ∈ ALL_PHRASES) : Phrase phrase.toList :=
  (phrases_checked.1 phrase h).1

theorem bars_fixed (h : phrase ∈ ALL_PHRASES) {word : String} (hword : word ∈ FIXED_WORDS) :
    Bars phrase.toList word.toList :=
  (phrases_checked.1 phrase h).2.1 word hword

theorem bars_rated (h : phrase ∈ SCHEDULE_WORDS ++ OTHER_PHRASES) {word : String}
    (hword : word ∈ ["rated", "reviews"]) : Bars phrase.toList word.toList :=
  phrases_checked.2.1 phrase h word hword

theorem bars_day (h : phrase ∈ RATING_WORDS ++ OTHER_PHRASES) (day : Fin 7) :
    Bars phrase.toList (dayText day) :=
  phrases_checked.2.2 phrase h day

theorem bars_figures (h : phrase ∈ ALL_PHRASES) {cs : List Char} (hcs : ∀ c ∈ cs, Figure c) :
    Bars phrase.toList cs := by
  refine .of_disjoint (phrase_of_mem h) fun c hc hne hin => ?_
  have hchar := of_decide_eq_true (List.all_eq_true.mp (phrases_checked.1 phrase h).2.2 c hc)
  exact hchar.elim hne fun hnot => hnot (hcs c hin)

end Phrases

/-! ## Figures -/

theorem figure_toString (n : Nat) : ∀ c ∈ (toString n).toList, Figure c := by
  intro c hc
  by_contra hnot
  exact notMem_toString n (by simpa using fun hdigit => hnot (.inl hdigit)) hc

theorem figure_twoDigits {n : Nat} (h : n < 100) : ∀ c ∈ Sync.twoDigits n, Figure c := by
  have hall : ∀ d < 10, Figure (Nat.digitChar d) := by decide
  intro c hc
  simp only [Sync.twoDigits, List.mem_cons, List.not_mem_nil, or_false] at hc
  rcases hc with rfl | rfl
  · exact hall _ (by omega)
  · exact hall _ (Nat.mod_lt _ (by decide))

theorem figure_hoursAndMinutes (t : Scheduling.ClockTime) :
    ∀ c ∈ (hoursAndMinutes t).toList, Figure c := by
  intro c hc
  rw [hoursAndMinutes, String.toList_ofList, List.mem_append, List.mem_cons] at hc
  rcases hc with hc | rfl | hc
  · exact figure_twoDigits (by omega) c hc
  · decide
  · exact figure_twoDigits (by omega) c hc

theorem figure_timesText (w : Scheduling.TimeWindow) : ∀ c ∈ (timesText w).toList, Figure c := by
  have hend : ∀ c ∈ (if w.finish = .midnight then "24:00" else hoursAndMinutes w.finish).toList,
      Figure c := by
    split
    · exact forall_of_all (by decide)
    · exact figure_hoursAndMinutes w.finish
  intro c hc
  rw [timesText, String.toList_append, String.toList_append, List.mem_append, List.mem_append] at hc
  rcases hc with (hc | hc) | hc
  · exact figure_hoursAndMinutes w.start c hc
  · rw [List.mem_singleton.mp hc]
    decide
  · exact hend c hc

theorem mem_commas {c : Char} : ∀ {digits : List Char}, c ∈ commas digits → c ∈ digits ∨ c = ',' := by
  intro digits
  induction digits using commas.induct with
  | case1 a b c' d rest ih =>
    intro hc
    rw [commas] at hc
    simp only [List.mem_cons] at hc ih ⊢
    rcases hc with h | h | h | h | h
    · exact .inl (.inl h)
    · exact .inl (.inr (.inl h))
    · exact .inl (.inr (.inr (.inl h)))
    · exact .inr h
    · rcases ih h with h | h
      · exact .inl (.inr (.inr (.inr h)))
      · exact .inr h
  | case2 digits hshort =>
    rw [commas]
    · exact .inl
    · exact hshort

theorem figure_withCommas (n : Nat) : ∀ c ∈ (withCommas n).toList, Figure c := by
  intro c hc
  rw [withCommas, String.toList_ofList, List.mem_reverse] at hc
  rcases mem_commas hc with hc | rfl
  · exact .inl (Nat.isDigit_of_mem_toDigits (by decide) (by decide) (List.mem_reverse.mp hc))
  · decide

theorem figure_formatFeeLabel (low high : Nat) : ∀ c ∈ (formatFeeLabel low high).toList, Figure c := by
  have hrupee : ∀ c ∈ "₹".toList, Figure c := forall_of_all (by decide)
  have hdash : ∀ c ∈ "–₹".toList, Figure c := forall_of_all (by decide)
  intro c hc
  unfold formatFeeLabel at hc
  split at hc
  · simp only [String.toList_append, List.mem_append] at hc
    rcases hc with ((hc | hc) | hc) | hc
    · exact hrupee c hc
    · exact figure_withCommas low c hc
    · exact hdash c hc
    · exact figure_withCommas high c hc
  · rw [String.toList_append, List.mem_append] at hc
    rcases hc with hc | hc
    · exact hrupee c hc
    · exact figure_withCommas low c hc

/-! ## Lower case -/

/-- A character of what is fixed. -/
def Spelled (c : Char) : Prop := Printable c ∨ c = '₹' ∨ c = '–'

instance (c : Char) : Decidable (Spelled c) := inferInstanceAs (Decidable (_ ∨ _))

/-- **What lower case is assumed to be**: a blank keeps its sides apart, and what is fixed is
lowered letter by letter. -/
structure LowersWords (tables : Tables) : Prop where
  blank : ∀ a b, tables.lower (a ++ " " ++ b) = tables.lower a ++ " " ++ tables.lower b
  spelled : ∀ s : String, (∀ c ∈ s.toList, Spelled c) →
    (tables.lower s).toList = s.toList.map Char.toLower

theorem lowersWords_ascii : LowersWords Text.ascii where
  blank a b := by
    have hblank : " ".toList.map Char.toLower = " ".toList := rfl
    simp only [Text.ascii, String.toList_append, List.map_append, hblank, String.ofList_append,
      String.ofList_toList]
  spelled _ _ := String.toList_ofList

/-- A character that is small already. -/
def Small (c : Char) : Prop := Spelled c ∧ c.toLower = c

instance (c : Char) : Decidable (Small c) := inferInstanceAs (Decidable (_ ∧ _))

theorem LowersWords.small {tables : Tables} (h : LowersWords tables) {s : String}
    (hs : ∀ c ∈ s.toList, Small c) : tables.lower s = s := by
  rw [← String.toList_inj, h.spelled s fun c hc => (hs c hc).1]
  calc s.toList.map Char.toLower = s.toList.map id := List.map_congr_left fun c hc => (hs c hc).2
    _ = s.toList := List.map_id _

theorem small_of_figure {c : Char} (h : Figure c) : Small c := by
  rcases h with h | h
  · obtain ⟨hlow, hhigh⟩ : '0'.val ≤ c.val ∧ c.val ≤ '9'.val := by
      simpa [Char.isDigit] using h
    have hsmall : ¬ ('A'.val ≤ c.val ∧ c.val ≤ 'Z'.val) := fun hupper =>
      absurd (UInt32.le_trans hupper.1 hhigh) (by decide)
    refine ⟨.inl ⟨?_, ?_⟩, dif_neg hsmall⟩
    · exact UInt32.le_trans (by decide : ' '.val ≤ '0'.val) hlow
    · exact UInt32.le_trans hhigh (by decide : '9'.val ≤ '~'.val)
  · have hall : ∀ c ∈ [':', '-', ',', '.', '₹', '–'], Small c :=
      forall_of_all (by decide)
    exact hall c h

/-! ## What is barred -/

/-- None of the phrases is in the text, however it goes on behind a blank. -/
def Barred (tables : Tables) (phrases : List String) (text : String) : Prop :=
  ∀ phrase ∈ phrases, Bars phrase.toList (tables.lower text).toList

section Barred

variable {tables : Tables} {phrases : List String} {a b : String}

theorem Barred.join (hlower : LowersWords tables) (hsub : phrases ⊆ ALL_PHRASES)
    (ha : Barred tables phrases a) (hb : Barred tables phrases b) :
    Barred tables phrases (a ++ " " ++ b) := by
  intro phrase hphrase
  have hjoin := (ha phrase hphrase).join (phrase_of_mem (hsub hphrase)) (hb phrase hphrase)
  have htext : (tables.lower (a ++ " " ++ b)).toList =
      (tables.lower a).toList ++ ' ' :: (tables.lower b).toList := by
    rw [hlower.blank, String.toList_append, String.toList_append, List.append_assoc]
    rfl
  rwa [htext]

/-- What is fixed. -/
theorem barred_fixed (hlower : LowersWords tables) (hsub : phrases ⊆ ALL_PHRASES)
    (ha : a ∈ FIXED_WORDS) : Barred tables phrases a := by
  have hall : ∀ word ∈ FIXED_WORDS, ∀ c ∈ word.toList, Small c :=
    forall_chars_of_all (by decide)
  intro phrase hphrase
  rw [hlower.small (hall a ha)]
  exact bars_fixed (hsub hphrase) ha

theorem barred_figures (hlower : LowersWords tables) (hsub : phrases ⊆ ALL_PHRASES)
    (ha : ∀ c ∈ a.toList, Figure c) : Barred tables phrases a := by
  intro phrase hphrase
  rw [hlower.small fun c hc => small_of_figure (ha c hc)]
  exact bars_figures (hsub hphrase) ha

/-- **A rating**, where ratings are borne out. -/
theorem barred_rated (hlower : LowersWords tables) (hsub : phrases ⊆ SCHEDULE_WORDS ++ OTHER_PHRASES)
    (ha : ∀ c ∈ a.toList, Figure c) (n : Nat) :
    Barred tables phrases ("rated " ++ a ++ " across " ++ toString n ++ " reviews") := by
  have hall : phrases ⊆ ALL_PHRASES := List.Subset.trans hsub schedule_subset_all
  have hword : ∀ word ∈ ["rated", "reviews"], Barred tables phrases word := by
    have hsmall : ∀ word ∈ ["rated", "reviews"], ∀ c ∈ word.toList, Small c :=
      forall_chars_of_all (by decide)
    intro word hword phrase hphrase
    rw [hlower.small (hsmall word hword)]
    exact bars_rated (hsub hphrase) hword
  have hrated := (hword "rated" List.mem_cons_self).join hlower hall (barred_figures hlower hall ha)
  have hacross := hrated.join hlower hall
    (barred_fixed hlower hall (by simp [FIXED_WORDS] : "across" ∈ FIXED_WORDS))
  have hcount := hacross.join hlower hall (barred_figures hlower hall (figure_toString n))
  have hreviews := hcount.join hlower hall (hword "reviews" (by decide))
  have htext : "rated " ++ a ++ " across " ++ toString n ++ " reviews" =
      "rated" ++ " " ++ a ++ " " ++ "across" ++ " " ++ toString n ++ " " ++ "reviews" := by
    rw [← String.toList_inj]
    simp [String.toList_append]
  rwa [htext]

/-- **A slot**, where days and times are borne out, with or without something behind it. -/
theorem barred_window (hlower : LowersWords tables) (hsub : phrases ⊆ RATING_WORDS ++ OTHER_PHRASES)
    (w : Scheduling.TimeWindow) {tail : String} (htail : ∀ c ∈ tail.toList, Figure c) :
    Barred tables phrases (windowLabel w ++ tail) := by
  have hall : phrases ⊆ ALL_PHRASES := List.Subset.trans hsub rating_subset_all
  have hday : Barred tables phrases (DAY_NAMES.getD w.weekday "") := by
    have hspelled : ∀ day : Fin 7, ∀ c ∈ (DAY_NAMES.getD day "").toList, Spelled c := by
      intro day
      refine forall_of_all ?_
      revert day
      decide
    intro phrase hphrase
    rw [hlower.spelled _ (hspelled w.weekday)]
    exact bars_day (hsub hphrase) w.weekday
  have htimes : ∀ c ∈ (timesText w ++ tail).toList, Figure c := by
    intro c hc
    rw [String.toList_append, List.mem_append] at hc
    exact hc.elim (figure_timesText w c) (htail c)
  have htext : windowLabel w ++ tail = DAY_NAMES.getD w.weekday "" ++ " " ++ (timesText w ++ tail) := by
    simp only [windowLabel, String.append_assoc]
  rw [htext]
  exact hday.join hlower hall (barred_figures hlower hall htimes)

/-- **The label of the slots.** -/
theorem barred_slots (hlower : LowersWords tables) (hsub : phrases ⊆ RATING_WORDS ++ OTHER_PHRASES)
    {slots : List Scheduling.TimeWindow} {label : String} (h : slotsLabel slots = some label) :
    Barred tables phrases label := by
  have hall : phrases ⊆ ALL_PHRASES := List.Subset.trans hsub rating_subset_all
  have hlast (w : Scheduling.TimeWindow) : Barred tables phrases (windowLabel w) := by
    have hnone : ∀ c ∈ "".toList, Figure c := by simp
    have hwindow := barred_window hlower hsub w hnone
    rwa [String.append_empty] at hwindow
  cases slots with
  | nil => cases h
  | cons w rest =>
    rw [slotsLabel, if_neg (List.cons_ne_nil _ _)] at h
    obtain rfl := Option.some.inj h
    cases rest with
    | nil => exact hlast w
    | cons w' rest =>
      have hcomma : ∀ c ∈ ",".toList, Figure c := forall_of_all (by decide)
      have hpair := (barred_window hlower hsub w hcomma).join hlower hall (hlast w')
      have htext : ", ".intercalate (((w :: w' :: rest).take 2).map windowLabel) =
          windowLabel w ++ "," ++ " " ++ windowLabel w' := by
        rw [← String.toList_inj]
        simp [String.toList_append, String.intercalate_cons_cons]
      rwa [htext]

end Barred

end NxTutors.Matching
