import Mathlib.Data.List.Infix
import Mathlib.Tactic.Tauto

/-!
# Phrases in a text put together from parts

A text is put together from parts with a blank between them; some parts are fixed, and what stands
in others is not known. A phrase with at most one blank in it cannot run through a fixed part that
bars it (`Bars`), so it occurs in the text only where it occurs in one of the free parts with the
blanks around it (`infix_text_iff`).
-/

namespace Text

/-- What a test says of every element, element by element. -/
theorem forall_of_all {α : Type} {p : α → Prop} [DecidablePred p] {l : List α}
    (h : (l.all fun a => decide (p a)) = true) : ∀ a ∈ l, p a := fun a ha =>
  of_decide_eq_true (List.all_eq_true.mp h a ha)

/-- What a test says of every character of every word. -/
theorem forall_chars_of_all {p : Char → Prop} [DecidablePred p] {words : List String}
    (h : (words.all fun w => w.toList.all fun c => decide (p c)) = true) :
    ∀ w ∈ words, ∀ c ∈ w.toList, p c := fun w hw =>
  forall_of_all (List.all_eq_true.mp h w hw)

variable {w r s xs ys : List Char}

/-- An occurrence in two texts is in the first, or in the second, or begins in the first and ends in
the second. -/
theorem infix_append_iff : w <:+: xs ++ ys ↔ w <:+: xs ∨ w <:+: ys ∨
    ∃ a b, a ≠ [] ∧ b ≠ [] ∧ w = a ++ b ∧ a <:+ xs ∧ b <+: ys := by
  constructor
  · rintro ⟨u, v, h⟩
    rw [List.append_assoc] at h
    rcases List.append_eq_append_iff.mp h with ⟨m, hxs, hrest⟩ | ⟨m, hu, hys⟩
    · -- it begins in the first
      rcases List.append_eq_append_iff.mp hrest with ⟨n, hm, hv⟩ | ⟨n, hw, hys⟩
      · exact .inl ⟨u, n, by rw [hxs, hm, List.append_assoc]⟩
      · by_cases hmnil : m = []
        · rw [hmnil, List.nil_append] at hw
          exact .inr (.inl ⟨[], v, by rw [hys, hw, List.nil_append]⟩)
        · by_cases hnnil : n = []
          · rw [hnnil, List.append_nil] at hw
            exact .inl ⟨u, [], by rw [hxs, hw, List.append_nil]⟩
          · exact .inr (.inr ⟨m, n, hmnil, hnnil, hw, ⟨u, hxs.symm⟩, ⟨v, hys.symm⟩⟩)
    · exact .inr (.inl ⟨m, v, by rw [hys, List.append_assoc]⟩)
  · rintro (h | h | ⟨a, b, -, -, rfl, ⟨u, hu⟩, v, hv⟩)
    · exact h.trans List.infix_append_left
    · exact h.trans List.infix_append_right
    · exact ⟨u, v, by rw [← hu, ← hv]; simp⟩

/-! ## Fixed parts -/

/-- A phrase with at most one blank, which is more than a blank. -/
structure Phrase (w : List Char) : Prop where
  ne_nil : w ≠ []
  ne_blank : w ≠ [' ']
  one_blank : w.count ' ' ≤ 1

/-- **A fixed part bars a phrase**, which is not in it, and neither begins at its end, behind which
there is a blank, nor ends at its beginning. -/
structure Bars (w r : List Char) : Prop where
  inside : ¬ w <:+: r
  across : ∀ a b, w = a ++ ' ' :: b → (b ≠ [] → ¬ b <+: r) ∧ (a ≠ [] → ¬ a <:+ r)

theorem Phrase.not_twice (h : Phrase w) {a b c : List Char} : w ≠ a ++ ' ' :: (b ++ ' ' :: c) := by
  intro heq
  have hcount := h.one_blank
  rw [heq] at hcount
  simp only [List.count_append, List.count_cons_self] at hcount
  omega

theorem Phrase.not_infix_blank (h : Phrase w) : ¬ w <:+: [' '] := by
  intro hin
  rcases List.infix_cons_iff.mp hin with hin | hin
  · rcases List.prefix_cons_iff.mp hin with rfl | ⟨t, rfl, ht⟩
    · exact h.ne_nil rfl
    · rw [List.prefix_nil.mp ht] at h
      exact h.ne_blank rfl
  · exact h.ne_nil (List.infix_nil.mp hin)

/-- What ends in a blank. -/
theorem of_suffix_blank {a : List Char} (hne : a ≠ []) (h : a <:+ xs ++ [' ']) :
    ∃ a', a = a' ++ [' '] ∧ a' <:+ xs := by
  rcases List.suffix_concat_iff.mp h with rfl | ⟨a', rfl, ha'⟩
  · exact absurd rfl hne
  · exact ⟨a', rfl, ha'⟩

/-- **A fixed part at the end.** -/
theorem Bars.last (h : Bars w r) :
    w <:+: xs ++ ' ' :: r ↔ w <:+: xs ++ [' '] := by
  have hsplit : xs ++ ' ' :: r = (xs ++ [' ']) ++ r := by simp
  rw [hsplit, infix_append_iff]
  constructor
  · rintro (hin | hin | ⟨a, b, ha, hb, heq, hsuffix, hpre⟩)
    · exact hin
    · exact absurd hin h.inside
    · obtain ⟨a', rfl, -⟩ := of_suffix_blank ha hsuffix
      rw [List.append_assoc] at heq
      exact absurd hpre ((h.across a' b heq).1 hb)
  · exact .inl

/-- **A fixed part in the middle**: a phrase is before it or behind it. -/
theorem Bars.middle (hw : Phrase w) (h : Bars w r) :
    w <:+: xs ++ ' ' :: (r ++ ' ' :: ys) ↔ w <:+: xs ++ [' '] ∨ w <:+: ' ' :: ys := by
  have hsplit : xs ++ ' ' :: (r ++ ' ' :: ys) = (xs ++ ' ' :: r) ++ ' ' :: ys := by simp
  rw [hsplit, infix_append_iff, h.last]
  constructor
  · rintro (hin | hin | ⟨a, b, ha, hb, heq, hsuffix, hpre⟩)
    · exact .inl hin
    · exact .inr hin
    · -- it would begin before the second blank, and end behind it
      obtain ⟨b', rfl⟩ : ∃ b', b = ' ' :: b' := by
        rcases List.prefix_cons_iff.mp hpre with rfl | ⟨b', rfl, -⟩
        · exact absurd rfl hb
        · exact ⟨b', rfl⟩
      have hback : ¬ a <:+ r := (h.across a b' heq).2 ha
      have hr : r <:+ xs ++ ' ' :: r := ⟨xs ++ [' '], by simp⟩
      rcases List.suffix_or_suffix_of_suffix hsuffix hr with hin | ⟨c, rfl⟩
      · exact absurd hin hback
      · have hcne : c ≠ [] := by
          rintro rfl
          exact hback (List.suffix_refl _)
        have hc : c <:+ xs ++ [' '] := by
          rw [show xs ++ ' ' :: r = (xs ++ [' ']) ++ r by simp] at hsuffix
          exact List.suffix_append_self_iff.mp hsuffix
        obtain ⟨c', rfl, -⟩ := of_suffix_blank hcne hc
        exact absurd (heq.trans (by simp)) (@Phrase.not_twice w hw c' r b')
  · rintro (hin | hin)
    · exact .inl hin
    · exact .inr (.inl hin)

/-- What begins with no blank in it, and goes into the second of two parts, does not. -/
theorem prefix_of_prefix_blank {b : List Char} (hb : ' ' ∉ b) (h : b <+: r ++ ' ' :: s) : b <+: r := by
  rcases List.prefix_or_prefix_of_prefix h (List.prefix_append r _) with hin | ⟨c, rfl⟩
  · exact hin
  · rcases List.prefix_cons_iff.mp ((List.prefix_append_right_inj r).mp h) with rfl | ⟨c', rfl, -⟩
    · rw [List.append_nil]
    · exact absurd (by simp) hb

theorem suffix_of_suffix_blank {a : List Char} (ha : ' ' ∉ a) (h : a <:+ r ++ ' ' :: s) : a <:+ s := by
  have hreversed : a.reverse <+: s.reverse ++ ' ' :: r.reverse := by
    have h := List.reverse_prefix.mpr h
    simpa using h
  exact List.reverse_prefix.mp
    (prefix_of_prefix_blank (fun hin => ha (List.mem_reverse.mp hin)) hreversed)

theorem Phrase.blank_once (h : Phrase w) {a b : List Char} (heq : w = a ++ ' ' :: b) :
    ' ' ∉ a ∧ ' ' ∉ b := by
  have hcount := h.one_blank
  rw [heq, List.count_append, List.count_cons_self] at hcount
  exact ⟨List.count_eq_zero.mp (by omega), List.count_eq_zero.mp (by omega)⟩

/-- **Two fixed parts** with a blank between them are one. -/
theorem Bars.join (hw : Phrase w) (hr : Bars w r) (hs : Bars w s) : Bars w (r ++ ' ' :: s) := by
  constructor
  · rw [hs.last]
    intro hin
    have hnone : ¬ w <:+: [] ++ ' ' :: (r ++ ' ' :: []) := by
      rw [hr.middle hw]
      exact fun h => h.elim hw.not_infix_blank hw.not_infix_blank
    exact hnone (hin.trans ⟨[' '], [], by simp⟩)
  · intro a b heq
    obtain ⟨ha, hb⟩ := hw.blank_once heq
    exact ⟨fun hne hpre => (hr.across a b heq).1 hne (prefix_of_prefix_blank hb hpre),
      fun hne hsuffix => (hs.across a b heq).2 hne (suffix_of_suffix_blank ha hsuffix)⟩

instance (w : List Char) : Decidable (Phrase w) :=
  decidable_of_iff (w ≠ [] ∧ w ≠ [' '] ∧ w.count ' ' ≤ 1)
    ⟨fun ⟨h, h', h''⟩ => ⟨h, h', h''⟩, fun ⟨h, h', h''⟩ => ⟨h, h', h''⟩⟩

/-- A phrase has its blanks at some of its places. -/
theorem bars_iff : Bars w r ↔ ¬ w <:+: r ∧ ∀ i < w.length, w[i]? = some ' ' →
    (w.drop (i + 1) ≠ [] → ¬ w.drop (i + 1) <+: r) ∧ (w.take i ≠ [] → ¬ w.take i <:+ r) := by
  constructor
  · rintro ⟨hinside, hacross⟩
    refine ⟨hinside, fun i hi hblank => hacross _ _ ?_⟩
    rw [List.getElem?_eq_getElem hi] at hblank
    rw [← Option.some.inj hblank, List.getElem_cons_drop, List.take_append_drop]
  · rintro ⟨hinside, hacross⟩
    refine ⟨hinside, ?_⟩
    rintro a b rfl
    have hdrop : (a ++ ' ' :: b).drop (a.length + 1) = b := by
      rw [List.append_cons]
      exact List.drop_left' (by simp)
    have htake : (a ++ ' ' :: b).take a.length = a := List.take_left' rfl
    have h := hacross a.length (by simp) (by simp)
    rw [hdrop, htake] at h
    exact h

instance (w r : List Char) : Decidable (Bars w r) := decidable_of_iff _ bars_iff.symm

/-- A part that has no character of a phrase but blanks bars it. -/
theorem Bars.of_disjoint (hw : Phrase w) (h : ∀ c ∈ w, c ≠ ' ' → c ∉ r) : Bars w r := by
  have hsome (v : List Char) (hv : v ≠ []) (hsub : v ⊆ w) (hblank : ' ' ∉ v) : ¬ v ⊆ r := by
    obtain ⟨c, hc⟩ := List.exists_mem_of_ne_nil v hv
    exact fun hin => h c (hsub hc) (fun heq => hblank (heq ▸ hc)) (hin hc)
  constructor
  · intro hin
    obtain ⟨c, hc, hne⟩ : ∃ c ∈ w, c ≠ ' ' := by
      by_contra hall
      have hall : ∀ c ∈ w, c = ' ' := fun c hc => by
        by_contra hne
        exact hall ⟨c, hc, hne⟩
      have hcount := hw.one_blank
      rw [List.count_eq_length.mpr fun c hc => (hall c hc).symm] at hcount
      cases hsplit : w with
      | nil => exact hw.ne_nil hsplit
      | cons c cs =>
        rw [hsplit, List.length_cons] at hcount
        have hcs : cs = [] := List.length_eq_zero_iff.mp (by omega)
        rw [hcs, hall c (by rw [hsplit]; exact List.mem_cons_self)] at hsplit
        exact hw.ne_blank hsplit
    exact h c hc hne (hin.subset hc)
  · rintro a b rfl
    have hcount := hw.one_blank
    rw [List.count_append, List.count_cons_self] at hcount
    refine ⟨fun hb hpre => ?_, fun ha hsuffix => ?_⟩
    · exact hsome b hb (fun c hc => by simp [hc]) (List.count_eq_zero.mp (by omega)) hpre.subset
    · exact hsome a ha (fun c hc => by simp [hc]) (List.count_eq_zero.mp (by omega)) hsuffix.subset

/-! ## Texts -/

/-- A part of a text. -/
inductive Segment
  /-- a fixed part -/
  | fixed (cs : List Char)
  | free (cs : List Char)

namespace Segment

def chars : Segment → List Char
  | fixed cs => cs
  | free cs => cs

/-- The parts with blanks between them. -/
def text : List Segment → List Char
  | [] => []
  | [s] => s.chars
  | s :: ss => s.chars ++ ' ' :: text ss

theorem text_cons {s : Segment} {ss : List Segment} (h : ss ≠ []) :
    text (s :: ss) = s.chars ++ ' ' :: text ss := by
  cases ss with
  | nil => exact absurd rfl h
  | cons _ _ => rfl

/-- The free parts with the blanks around them, of parts that come behind a blank. -/
def gaps : List Segment → List (List Char)
  | [] => []
  | [free cs] => [' ' :: cs]
  | free cs :: ss => (' ' :: cs ++ [' ']) :: gaps ss
  | fixed _ :: ss => gaps ss

/-- There is a fixed part between any two free ones. -/
def Apart : List Segment → Prop
  | free _ :: free _ :: _ => False
  | _ :: ss => Apart ss
  | [] => True

/-- The first part is fixed. -/
def Begins (ss : List Segment) : Prop := ∃ r rest, ss = fixed r :: rest

theorem Begins.ne_nil {ss : List Segment} (h : Begins ss) : ss ≠ [] := by
  obtain ⟨r, rest, rfl⟩ := h
  exact List.cons_ne_nil _ _

theorem Begins.append {ss ts : List Segment} (h : Begins ss) : Begins (ss ++ ts) := by
  obtain ⟨r, rest, rfl⟩ := h
  exact ⟨r, rest ++ ts, rfl⟩

theorem text_append {ss ts : List Segment} (hss : ss ≠ []) (hts : ts ≠ []) :
    text (ss ++ ts) = text ss ++ ' ' :: text ts := by
  induction ss with
  | nil => exact absurd rfl hss
  | cons s ss ih =>
    by_cases hnil : ss = []
    · rw [hnil, List.singleton_append, text_cons hts, text]
    · rw [List.cons_append, text_cons (List.append_ne_nil_of_left_ne_nil hnil ts), ih hnil,
        text_cons hnil, List.append_assoc, List.cons_append]

theorem Apart.append {ts : List Segment} (hbegins : Begins ts) (hts : Apart ts) :
    ∀ ss : List Segment, Apart ss → Apart (ss ++ ts)
  | [], _ => hts
  | fixed _ :: ss, hss => Apart.append hbegins hts ss hss
  | [free _], _ => by
    obtain ⟨r, rest, rfl⟩ := hbegins
    exact hts
  | free _ :: fixed _ :: ss, hss => Apart.append hbegins hts ss hss
  | free _ :: free _ :: _, hss => hss.elim

end Segment

open Segment

/-- A fixed part, and whatever comes behind it. -/
theorem Bars.segment (hw : Phrase w) (h : Bars w r) {ss : List Segment} :
    w <:+: xs ++ ' ' :: text (fixed r :: ss) ↔ w <:+: xs ++ [' '] ∨ w <:+: ' ' :: text ss := by
  cases ss with
  | nil => exact h.last.trans (or_iff_left hw.not_infix_blank).symm
  | cons s ss => exact h.middle hw

/-- By the parts, behind a blank: **a phrase occurs just where it occurs in a gap** between parts
that bar it. -/
theorem infix_blank_text_iff (hw : Phrase w) : ∀ ss : List Segment,
    (∀ cs, fixed cs ∈ ss → Bars w cs) → Apart ss →
      (w <:+: ' ' :: text ss ↔ ∃ gap ∈ gaps ss, w <:+: gap)
  | [], _, _ => iff_of_false hw.not_infix_blank (by simp [gaps])
  | fixed r :: ss, hbars, hapart => by
    have hrest := infix_blank_text_iff hw ss
      (fun cs hcs => hbars cs (List.mem_cons_of_mem _ hcs)) hapart
    have hfirst : w <:+: ' ' :: text (fixed r :: ss) ↔ w <:+: [' '] ∨ w <:+: ' ' :: text ss :=
      @Bars.segment w r [] hw (hbars r List.mem_cons_self) ss
    rw [hfirst, or_iff_right hw.not_infix_blank, hrest, gaps]
  | [free cs], _, _ => by simp [gaps, text, Segment.chars]
  | free cs :: fixed r :: ss, hbars, hapart => by
    have hrest := infix_blank_text_iff hw ss
      (fun cs hcs => hbars cs (List.mem_cons_of_mem _ (List.mem_cons_of_mem _ hcs))) hapart
    have hfirst := @Bars.segment w r (' ' :: cs) hw
      (hbars r (List.mem_cons_of_mem _ List.mem_cons_self)) ss
    have hgaps : gaps (free cs :: fixed r :: ss) = (' ' :: cs ++ [' ']) :: gaps ss := rfl
    rw [text_cons (List.cons_ne_nil _ _), Segment.chars, ← List.cons_append, hfirst, hrest, hgaps]
    simp
  | free _ :: free _ :: _, _, hapart => hapart.elim

/-- **A text that begins with a free part**, behind which there is a fixed one. -/
theorem infix_text_iff (hw : Phrase w) {cs r : List Char} {ss : List Segment}
    (hbars : ∀ cs', fixed cs' ∈ fixed r :: ss → Bars w cs') (hapart : Apart ss) :
    w <:+: text (free cs :: fixed r :: ss) ↔
      w <:+: cs ++ [' '] ∨ ∃ gap ∈ gaps ss, w <:+: gap := by
  rw [text_cons (List.cons_ne_nil _ _), Segment.chars, (hbars r List.mem_cons_self).segment hw,
    infix_blank_text_iff hw ss (fun cs' hcs' => hbars cs' (List.mem_cons_of_mem _ hcs')) hapart]

end Text
