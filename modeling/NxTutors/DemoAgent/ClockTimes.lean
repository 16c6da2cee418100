import NxTutors.DemoAgent.TimeParsing
import NxTutors.Text.Words

/-!
# Clock times among other numbers

A text says when a demo should be: a clock time, with half of the day, and a day. The other numbers
of the text are read as times as well, from left to right, and the first that can be the hour of a
demo wins. So the time that is said is the time that is booked exactly if no number before it reads
as another one.
-/

namespace NxTutors.DemoAgent.Timeparse

open Text (Re Cursor Tables)
open Numbers (natOf dayNumber)

variable {p : Characters} {text : String}

/-! ## A clock time -/

/-- A clock time as it is written: the hour, the minute if there is one, and half of the day. -/
structure ClockTime (p : Characters) where
  digits : List Char
  minutes : List Char := []
  gap : List Char := []
  afternoon : Bool
  dot : List Char := []
  digits_eq : (∃ x, digits = [x] ∧ p.isDigit x = true) ∨
    ∃ x y, digits = [x, y] ∧ (x = '0' ∨ x = '1') ∧ p.isDigit y = true
  twelve : 1 ≤ natOf p.toNumerals digits ∧ natOf p.toNumerals digits ≤ 12
  minutes_eq : MinuteText p.toTables minutes
  gap_eq : gap = [] ∨ gap = [' ']
  dot_eq : dot = [] ∨ dot = ['.']

namespace ClockTime

variable (c : ClockTime p)

/-- The first letter of half of the day. -/
def half : Char := if c.afternoon then 'p' else 'a'

/-- How the time is written. -/
def written : List Char := c.digits ++ (c.minutes ++ (c.gap ++ c.half :: (c.dot ++ ['m'])))

/-- The hour of the day. -/
def hour : ℕ :=
  if natOf p.toNumerals c.digits = 12 then if c.afternoon then 12 else 0
  else if c.afternoon then natOf p.toNumerals c.digits + 12
  else natOf p.toNumerals c.digits

def minute : ℕ :=
  natOf p.toNumerals ((if c.minutes = [] then none else some (c.minutes.drop 1)).getD ['0'])

/-- **The time stands in a text** as a whole: no word goes on across its ends, and its hour is not
the minute of another time. -/
structure StandsIn (text : String) (before after : List Char) : Prop where
  split : text.toList = before ++ (c.written ++ after)
  starts : before.getLast?.any p.isWord = false
  whole : ∀ init d sep, before = init ++ [d, sep] → p.isDigit d = true → ¬(sep = ':' ∨ sep = '.')
  ends : after.head?.any p.isWord = false

theorem half_eq : c.half = 'a' ∨ c.half = 'p' := by
  unfold half
  split
  · exact .inr rfl
  · exact .inl rfl

end ClockTime

/-! ## What is in a match -/

section Inside

/-- The printable characters that are no digits are none on any platform. -/
theorem not_isDigit {x : Char} (hprint : Text.Printable x) (hx : x.isDigit = false) :
    p.isDigit x = false := by
  rw [Bool.eq_false_iff, Ne, p.isDigit_iff x hprint, hx]
  exact Bool.false_ne_true

/-- No digit is in what says that a number is a time. -/
theorem not_isDigit_of_meridiemText {cs : List Char} {x : Char} (h : MeridiemText cs) (hx : x ∈ cs) :
    p.isDigit x = false := by
  have hall {css : List (List Char)} (hcheck : (css.all fun cs => cs.all fun x =>
      decide (Text.Printable x) && !x.isDigit) = true) (hcs : cs ∈ css) : p.isDigit x = false := by
    have hboth := List.all_eq_true.mp (List.all_eq_true.mp hcheck cs hcs) x hx
    rw [Bool.and_eq_true, decide_eq_true_eq, Bool.not_eq_true'] at hboth
    exact not_isDigit hboth.1 hboth.2
  rcases h with rfl | ha | hp | hb
  · cases hx
  · exact hall (by decide) ha
  · exact hall (by decide) hp
  · exact hall (by decide) hb

/-- An hour is written in digits. -/
theorem isDigit_of_hourText {digits : List Char} (h : HourText p.toTables digits) :
    digits ≠ [] ∧ ∀ x ∈ digits, p.isDigit x = true := by
  have hsmall {x : Char} (hlow : '0' ≤ x) (hhigh : x ≤ '9') : p.isDigit x = true := by
    refine isDigit_of_ascii ?_
    simp only [Char.isDigit, Bool.and_eq_true, decide_eq_true_eq]
    exact ⟨hlow, hhigh⟩
  rcases h with ⟨x, rfl, hx⟩ | ⟨x, y, rfl, hx, hy⟩ | ⟨y, rfl, hlow, hhigh⟩
  · refine ⟨by simp, fun z hz => ?_⟩
    obtain rfl := List.mem_singleton.mp hz
    exact hx
  · refine ⟨by simp, fun z hz => ?_⟩
    rcases List.mem_cons.mp hz with rfl | hz
    · rcases hx with rfl | rfl <;> exact hsmall (by decide) (by decide)
    · obtain rfl := List.mem_singleton.mp hz
      exact hy
  · refine ⟨by simp, fun z hz => ?_⟩
    rcases List.mem_cons.mp hz with rfl | hz
    · exact hsmall (by decide) (by decide)
    · obtain rfl := List.mem_singleton.mp hz
      exact hsmall hlow (Char.le_trans hhigh (by decide))

/-- Digits are words. -/
theorem isWord_of_digits {v : List Char} (hv : v ≠ []) (hall : ∀ x ∈ v, p.isDigit x = true) :
    v.getLast?.any p.isWord = true := by
  rw [List.getLast?_eq_some_getLast hv]
  exact p.isWord_of_isDigit _ (hall _ (List.getLast_mem hv))

/-- **Before a digit in a match** there is a word, or it is the first of the minutes. -/
theorem TimeMatch.before_digit {at' end' : Cursor} {digits minutes gap cs v w : List Char} {x : Char}
    (h : TimeMatch p.toTables at' end' digits minutes gap cs)
    (hsplit : digits ++ (minutes ++ (gap ++ cs)) = v ++ x :: w) (hx : p.isDigit x = true)
    (hv : v ≠ []) :
    v.getLast?.any p.isWord = true ∨
      ∃ init d sep, v = init ++ [d, sep] ∧ p.isDigit d = true ∧ (sep = ':' ∨ sep = '.') := by
  obtain ⟨hne, hall⟩ := isDigit_of_hourText h.hourText
  -- behind the minutes there are no digits
  have hlast : x ∉ gap ++ cs := by
    intro hmem
    rcases List.mem_append.mp hmem with hgap | hcs
    · have hspace := p.isSpace_of_isDigit x hx
      rw [h.blank x hgap] at hspace
      cases hspace
    · rw [not_isDigit_of_meridiemText h.meridiemText hcs] at hx
      cases hx
  have hword : digits.getLast?.any p.isWord = true := isWord_of_digits hne hall
  rcases List.append_eq_append_iff.mp hsplit with ⟨v', rfl, hrest⟩ | ⟨v', hdigits, -⟩
  · -- behind the hour
    rcases h.minuteText with rfl | ⟨c, y, z, rfl, hc, ⟨hlow, hhigh⟩, hz⟩
    · exact absurd (hrest ▸ List.mem_append_right v' List.mem_cons_self) hlast
    · have hy : p.isDigit y = true := by
        refine isDigit_of_ascii ?_
        simp only [Char.isDigit, Bool.and_eq_true, decide_eq_true_eq]
        exact ⟨hlow, Nat.le_trans hhigh (by decide)⟩
      match v', hrest with
      | [], _ =>
        rw [List.append_nil]
        exact .inl hword
      | [a], hrest =>
        have ha : c = a := (List.cons.inj hrest).1
        right
        refine ⟨digits.dropLast, digits.getLast hne, a, ?_, hall _ (List.getLast_mem hne), ha ▸ hc⟩
        have hlist : digits.dropLast ++ [digits.getLast hne, a] =
            digits.dropLast ++ [digits.getLast hne] ++ [a] := by simp
        rw [hlist, List.dropLast_append_getLast]
      | [a, b], hrest =>
        have hb : y = b := (List.cons.inj (List.cons.inj hrest).2).1
        left
        have hlist : digits ++ [a, b] = digits ++ [a] ++ [b] := by simp
        rw [hlist, List.getLast?_concat, ← hb]
        exact p.isWord_of_isDigit y hy
      | [a, b, e], hrest =>
        have he : z = e := (List.cons.inj (List.cons.inj (List.cons.inj hrest).2).2).1
        left
        have hlist : digits ++ [a, b, e] = digits ++ [a, b] ++ [e] := by simp
        rw [hlist, List.getLast?_concat, ← he]
        exact p.isWord_of_isDigit z hz
      | a :: b :: e :: f :: v', hrest =>
        have htail : gap ++ cs = (f :: v') ++ x :: w :=
          (List.cons.inj (List.cons.inj (List.cons.inj hrest).2).2).2
        exact absurd (htail ▸ List.mem_append_right (f :: v') List.mem_cons_self) hlast
  · left
    refine isWord_of_digits hv fun y hy => hall y ?_
    rw [hdigits]
    exact List.mem_append_left v' hy

end Inside

/-! ## The time is found -/

section Found

variable {β : Type} {t : Tables} {groups : ℕ → Option (List Char)} {before : Option Char}
  {rest dot : List Char} {c : Char}

/-- One half of the day is read up to its last letter, and a full stop behind that. -/
theorem run_half (hc : c = 'a' ∨ c = 'p') (hdot : dot = [] ∨ dot = ['.']) (k : Cursor → Option β) :
    (half c).run t k ⟨before, c :: (dot ++ 'm' :: rest), groups⟩ =
      (Re.opt (.one (· = '.'))).run t k ⟨some 'm', rest, groups⟩ := by
  rcases hc with rfl | rfl <;> rcases hdot with rfl | rfl <;>
    simp [half, Re.seqs, Re.opt, Re.run, Re.ignoreCase]

/-- What is read as one half of the day is read as what says that a number is a time. -/
theorem run_meridiem (hc : c = 'a' ∨ c = 'p') {k : Cursor → Option β} {r : β}
    (h : (half c).run t k ⟨before, c :: rest, groups⟩ = some r) :
    (Re.alt (half 'a') (.alt (half 'p') (.wordIgnoreCase "baje"))).run t k
      ⟨before, c :: rest, groups⟩ = some r := by
  rw [Re.run]
  rcases hc with rfl | rfl
  · rw [h]
    rfl
  · have hnone : (half 'a').run t k ⟨before, 'p' :: rest, groups⟩ = none := by
      simp [half, Re.seqs, Re.run, Re.ignoreCase]
    rw [hnone, Re.run, h]
    rfl

theorem isWord_m : p.isWord 'm' = true := (p.isWord_iff 'm' (by decide)).mpr (by decide)

theorem isWord_dot : p.isWord '.' = false := by
  rw [Bool.eq_false_iff, Ne, p.isWord_iff '.' (by decide)]
  decide

/-- A full stop is taken if that leads on. -/
theorem run_dot_taken {k : Cursor → Option β} {r : β} (h : k ⟨some '.', rest, groups⟩ = some r) :
    (Re.opt (.one (· = '.'))).run t k ⟨before, '.' :: rest, groups⟩ = some r := by
  have hone : (Re.one (· = '.')).run t k ⟨before, '.' :: rest, groups⟩ = some r := h
  rw [Re.opt, Re.run, hone]
  rfl

/-- And left if it does not. -/
theorem run_dot_left {k : Cursor → Option β} {r : β}
    (hnone : ∀ e, rest = '.' :: e → k ⟨some '.', e, groups⟩ = none)
    (h : k ⟨before, rest, groups⟩ = some r) :
    (Re.opt (.one (· = '.'))).run t k ⟨before, rest, groups⟩ = some r := by
  have hone : (Re.one (· = '.')).run t k ⟨before, rest, groups⟩ = none := by
    rw [Re.run]
    split
    · rfl
    · rename_i x e hrest
      split
      · rename_i hx
        obtain rfl := of_decide_eq_true hx
        exact hnone e hrest
      · rfl
  rw [Re.opt, Re.run, hone]
  exact h

/-- The end of a word is read, and nothing behind it. -/
theorem run_end {k : Cursor → Option β} {end' : Cursor} :
    (Re.seq .boundary .empty).run t k end' =
      if (end'.before.any t.isWord != end'.rest.head?.any t.isWord) = true then k end' else none :=
  rfl

/-- **The end of a time**: one half of the day, where no word goes on behind it. -/
theorem prefers_meridiem (hc : c = 'a' ∨ c = 'p') (hdot : dot = [] ∨ dot = ['.'])
    (hends : rest.head?.any p.isWord = false) :
    ∃ end', ∃ cs ∈ halves c,
      Re.Prefers p.toTables (.seq (.opt meridiem) (.seq .boundary .empty))
        ⟨before, c :: (dot ++ 'm' :: rest), groups⟩ end'
      ∧ end'.rest.length ≤ rest.length
      ∧ end'.groups = fun m => if m = 3 then some cs else groups m := by
  have htake {cs e : List Char} (hrest : rest = cs ++ e) :
      (c :: (dot ++ 'm' :: rest)).take ((c :: (dot ++ 'm' :: rest)).length - e.length) =
        c :: (dot ++ 'm' :: cs) := by
    have hlist : c :: (dot ++ 'm' :: rest) = c :: (dot ++ 'm' :: cs) ++ e := by simp [hrest]
    rw [hlist, List.length_append, Nat.add_sub_cancel, List.take_left]
  have hmem {cs : List Char} (hcs : cs = [] ∨ cs = ['.']) : c :: (dot ++ 'm' :: cs) ∈ halves c := by
    rcases hc with rfl | rfl <;> rcases hdot with rfl | rfl <;> rcases hcs with rfl | rfl <;> decide
  -- a full stop is taken if a word follows it, and else the word ends before it
  by_cases htaken : ∃ e, rest = '.' :: e ∧ e.head?.any p.isWord = true
  · obtain ⟨e, rfl, hword⟩ := htaken
    refine ⟨⟨some '.', e, fun m => if m = 3 then some (c :: (dot ++ ['m', '.'])) else groups m⟩,
      c :: (dot ++ ['m', '.']), hmem (.inr rfl), Re.Prefers.seq_left ?_, Nat.le_succ _, rfl⟩
    intro β k r hk
    refine run_meridiem hc ?_
    rw [run_half hc hdot]
    refine run_dot_taken ?_
    have hmark : ((some '.').any p.isWord != e.head?.any p.isWord) = true := by
      rw [hword, Option.any_some, isWord_dot]
      rfl
    rw [@htake ['.'] e rfl, run_end, if_pos hmark]
    exact hk
  · refine ⟨⟨some 'm', rest, fun m => if m = 3 then some (c :: (dot ++ ['m'])) else groups m⟩,
      c :: (dot ++ ['m']), hmem (.inl rfl), Re.Prefers.seq_left ?_, Nat.le_refl _, rfl⟩
    intro β k r hk
    refine run_meridiem hc ?_
    rw [run_half hc hdot]
    have hmark : ((some 'm').any p.isWord != rest.head?.any p.isWord) = true := by
      rw [hends, Option.any_some, isWord_m]
      rfl
    refine run_dot_left (fun e he => ?_) ?_
    · have hnot : e.head?.any p.isWord = false := by
        rw [Bool.eq_false_iff]
        exact fun hword => htaken ⟨e, he, hword⟩
      rw [run_end, if_neg]
      rw [hnot, Option.any_some, isWord_dot]
      decide
    · rw [@htake [] rest rfl, run_end, if_pos hmark]
      exact hk

/-- **The hour** is read as far as there are digits. -/
theorem prefers_hour {digits : List Char}
    (hdigits : (∃ x, digits = [x] ∧ t.isDigit x = true) ∨
      ∃ x y, digits = [x, y] ∧ (x = '0' ∨ x = '1') ∧ t.isDigit y = true)
    (hrest : rest.head?.any t.isDigit = false) :
    ∃ last, Re.Prefers t (hourDigits t) ⟨before, digits ++ rest, groups⟩ ⟨last, rest, groups⟩ := by
  rcases hdigits with ⟨x, rfl, hx⟩ | ⟨x, y, rfl, hx, hy⟩
  · refine ⟨some x, Re.Prefers.left (Re.Prefers.seq_right ?_ ?_)⟩
    · -- no digit follows
      rintro end' ⟨mid, ⟨d, ds, hd, -, rfl⟩, e, es, he, hdigit, -⟩
      have hlist : x :: rest = d :: ds := hd
      have hds : ds = e :: es := he
      rw [(List.cons.inj hlist).2, hds, List.head?_cons, Option.any_some, hdigit] at hrest
      cases hrest
    · exact Re.Prefers.seq Re.prefers_empty (Re.prefers_one hx)
  · have hfirst : (decide (x = '0') || decide (x = '1')) = true := by
      rw [Bool.or_eq_true, decide_eq_true_eq, decide_eq_true_eq]
      exact hx
    refine ⟨some y, Re.Prefers.left (Re.Prefers.seq_left ?_)⟩
    exact Re.Prefers.seq (Re.prefers_one hfirst) (Re.prefers_one hy)

/-- **The minutes** are read if there are any. -/
theorem prefers_minutes {minutes : List Char} (hminutes : MinuteText t minutes)
    (hrest : minutes = [] → ∀ x ∈ rest.head?, x ≠ ':' ∧ x ≠ '.') :
    ∃ last, Re.Prefers t (.opt (minuteDigits t)) ⟨before, minutes ++ rest, groups⟩
      ⟨last, rest, fun m => if m = 2 ∧ minutes ≠ [] then some (minutes.drop 1) else groups m⟩ := by
  rcases hminutes with rfl | ⟨c, x, y, rfl, hc, hx, hy⟩
  · refine ⟨before, Re.Prefers.right ?_ ?_⟩
    · rintro end' ⟨mid, ⟨d, ds, hd, hsep, -⟩, -⟩
      have hlist : rest = d :: ds := hd
      obtain ⟨hcolon, hdot⟩ := hrest rfl d (by rw [hlist]; rfl)
      rw [Bool.or_eq_true, decide_eq_true_eq, decide_eq_true_eq] at hsep
      exact hsep.elim hcolon hdot
    · have hsame : (fun m => if m = 2 ∧ ([] : List Char) ≠ [] then some (([] : List Char).drop 1)
          else groups m) = groups := by
        funext m
        simp
      rw [hsame]
      intro β k r h
      exact h
  · have hsep : (decide (c = ':') || decide (c = '.')) = true := by
      rw [Bool.or_eq_true, decide_eq_true_eq, decide_eq_true_eq]
      exact hc
    have htens : (decide ('0' ≤ x) && decide (x ≤ '5')) = true := by
      rw [Bool.and_eq_true, decide_eq_true_eq, decide_eq_true_eq]
      exact hx
    have hsame : (fun m => if m = 2 ∧ [c, x, y] ≠ [] then some ([c, x, y].drop 1) else groups m) =
        fun m => if m = 2 then some [x, y] else groups m := by
      funext m
      simp
    rw [hsame]
    refine ⟨some y, Re.Prefers.left (Re.Prefers.seq (Re.prefers_one hsep) ?_)⟩
    exact Re.Prefers.group (Re.Prefers.seq (Re.prefers_one htens) (Re.prefers_one hy)) rfl

theorem any_eq_false {α : Type} {f : α → Bool} {o : Option α} (h : ∀ x ∈ o, f x = false) :
    o.any f = false := by
  cases o with
  | none => rfl
  | some x => exact h x rfl

theorem isSpace_blank : p.isSpace ' ' = true := (p.plain.isSpace ' ' (by decide)).mpr rfl

theorem not_isSpace_half (hc : c = 'a' ∨ c = 'p') : p.isSpace c = false := by
  rw [Bool.eq_false_iff, Ne]
  rcases hc with rfl | rfl
  · rw [p.plain.isSpace 'a' (by decide)]
    decide
  · rw [p.plain.isSpace 'p' (by decide)]
    decide

/-- **A clock time is read as it is written**, where it stands. -/
theorem run_written (time : ClockTime p) {after : List Char}
    (hstarts : before.any p.isWord = false) (hends : after.head?.any p.isWord = false) :
    ∃ end', (TIME_RE p.toTables).run p.toTables some ⟨before, time.written ++ after, fun _ => none⟩ =
        some end'
      ∧ end'.groups 1 = some time.digits
      ∧ end'.groups 2 = (if time.minutes = [] then none else some (time.minutes.drop 1)) ∧
      ∃ cs ∈ halves time.half, end'.groups 3 = some cs := by
  obtain ⟨hne, hall⟩ : time.digits ≠ [] ∧ ∀ x ∈ time.digits, p.isDigit x = true :=
    isDigit_of_hourText (time.digits_eq.imp id .inl)
  have hhalf := time.half_eq
  have hlist : time.written ++ after = time.digits ++ (time.minutes ++ (time.gap ++
      time.half :: (time.dot ++ 'm' :: after))) := by simp [ClockTime.written]
  -- what follows the minutes, and what follows the hour
  have hgap : ∀ x ∈ (time.gap ++ time.half :: (time.dot ++ 'm' :: after)).head?,
      x = ' ' ∨ x = 'a' ∨ x = 'p' := by
    intro x hx
    rcases time.gap_eq with hgap | hgap
    · rw [hgap] at hx
      obtain rfl := Option.some.inj hx
      exact .inr hhalf
    · rw [hgap] at hx
      obtain rfl := Option.some.inj hx
      exact .inl rfl
  have hmark : ∀ x ∈ (time.minutes ++ (time.gap ++ time.half :: (time.dot ++ 'm' :: after))).head?,
      p.isDigit x = false := by
    intro x hx
    rcases time.minutes_eq with hminutes | ⟨c, y, z, hminutes, hc, -⟩
    · rw [hminutes] at hx
      rcases hgap x hx with rfl | rfl | rfl <;> exact not_isDigit (by decide) (by decide)
    · rw [hminutes] at hx
      obtain rfl := Option.some.inj hx
      rcases hc with rfl | rfl <;> exact not_isDigit (by decide) (by decide)
  have hboundary : (before.any p.isWord != (time.written ++ after).head?.any p.isWord) = true := by
    have hhead : (time.written ++ after).head? = time.digits.head? := by
      rw [hlist, List.head?_append_of_ne_nil _ hne]
    rw [hhead, hstarts, List.head?_eq_some_head hne, Option.any_some,
      p.isWord_of_isDigit _ (hall _ (List.head_mem hne))]
    rfl
  have hspace : (time.half :: (time.dot ++ 'm' :: after)).head?.any p.isSpace = false :=
    not_isSpace_half hhalf
  have hblank : ∀ x ∈ time.gap, p.isSpace x = true := by
    rcases time.gap_eq with hgap | hgap
    · rw [hgap]
      nofun
    · rw [hgap]
      intro x hx
      obtain rfl := List.mem_singleton.mp hx
      exact isSpace_blank
  obtain ⟨last₁, hhour⟩ := @prefers_hour p.toTables (fun _ => none) before _ _ time.digits_eq
    (any_eq_false hmark)
  obtain ⟨last₂, hminute⟩ := @prefers_minutes p.toTables
    (fun m => if m = 1 then some time.digits else none) last₁
    (time.gap ++ time.half :: (time.dot ++ 'm' :: after)) _ time.minutes_eq (by
      intro _ x hx
      rcases hgap x hx with rfl | rfl | rfl <;> exact ⟨by decide, by decide⟩)
  obtain ⟨end', cs, hcs, hlast, hlength, hgroups⟩ := @prefers_meridiem p
    (fun m => if m = 2 ∧ time.minutes ≠ [] then some (time.minutes.drop 1)
      else if m = 1 then some time.digits else none)
    (time.gap.getLast?.or last₂) after time.dot time.half hhalf time.dot_eq hends
  rw [hlist] at hboundary ⊢
  refine ⟨end', ?_, ?_, ?_, cs, hcs, ?_⟩
  · have htail := Re.Prefers.seq hminute (Re.Prefers.seq (Re.prefers_many hblank hspace) hlast)
    have hall := Re.Prefers.seq (Re.prefers_boundary hboundary)
      (Re.Prefers.seq (Re.Prefers.group hhour rfl) htail)
    exact hall some end' rfl
  · rw [hgroups]
    simp
  · rw [hgroups]
    by_cases hm : time.minutes = [] <;> simp [hm]
  · rw [hgroups]
    simp

theorem promoted_pm {n : ℕ} (hn : n ≤ 12) :
    promoted n "pm" = if n = 12 then 12 else n + 12 := by
  have hp : "pm".toList.head? = some 'p' := rfl
  have ha : "pm".toList.head? ≠ some 'a' := by decide
  have hbare : ¬("pm" = "" ∨ "pm" = "baje") := by decide
  unfold promoted
  by_cases htwelve : n = 12
  · rw [if_neg (fun h => absurd h.2 (by omega)), if_neg (fun h => ha h.1),
      if_neg (fun h => hbare h.1), if_pos htwelve]
    exact htwelve
  · rw [if_pos ⟨hp, by omega⟩, if_neg htwelve]

theorem promoted_am {n : ℕ} : promoted n "am" = if n = 12 then 0 else n := by
  have hp : "am".toList.head? ≠ some 'p' := by decide
  have ha : "am".toList.head? = some 'a' := rfl
  have hbare : ¬("am" = "" ∨ "am" = "baje") := by decide
  unfold promoted
  rw [if_neg (fun h => hp h.1)]
  by_cases htwelve : n = 12
  · rw [if_pos ⟨ha, htwelve⟩, if_pos htwelve]
  · rw [if_neg (fun h => htwelve h.2), if_neg (fun h => hbare h.1), if_neg htwelve]

/-- What half of the day makes of an hour. -/
theorem promoted_half (time : ClockTime p) :
    promoted (natOf p.toNumerals time.digits) (String.ofList [time.half, 'm']) = time.hour := by
  unfold ClockTime.half ClockTime.hour
  cases time.afternoon with
  | true => exact promoted_pm time.twelve.2
  | false => exact promoted_am

/-- **A clock time that stands in a text is found**, and read as what it says. -/
theorem mem_times {time : ClockTime p} {before after : List Char}
    (h : time.StandsIn text before after) :
    ∃ r ∈ times p text, r.hour = time.hour ∧ r.minute = time.minute := by
  obtain ⟨end', hrun, hhour, hminute, cs, hcs, hhalf⟩ := run_written time h.starts h.ends
  have hne : time.digits ≠ [] ∧ ∀ x ∈ time.digits, p.isDigit x = true :=
    isDigit_of_hourText (time.digits_eq.imp id .inl)
  obtain ⟨x, w, hx, hrest⟩ : ∃ x w, p.isDigit x = true ∧ time.written ++ after = x :: w := by
    obtain ⟨x, xs, hdigits⟩ := List.exists_cons_of_ne_nil hne.1
    refine ⟨x, xs ++ (time.minutes ++ (time.gap ++ time.half :: (time.dot ++ ['m'])) ++ after),
      hne.2 x (by rw [hdigits]; exact List.mem_cons_self), ?_⟩
    simp [ClockTime.written, hdigits]
  have hfound := Re.mem_findall h.split hrun ?_
  · refine ⟨_, List.mem_map.mpr ⟨_, hfound, rfl⟩, ?_, ?_⟩
    · have hmeridiem := lower_half (p := p) time.half_eq hcs
      simp only [readingOf, hhour, hhalf, Option.getD_some, hmeridiem]
      exact promoted_half time
    · simp only [readingOf, hminute]
      rfl
  · -- a match that begins before the time does not run into it
    intro u v end₁ hbefore hv hleads
    obtain ⟨digits, minutes, gap, ds, hmatch⟩ := leads_TIME_RE hleads
    by_contra hover
    have hlist : v ++ x :: w = digits ++ (minutes ++ (gap ++ ds)) ++ end₁.rest := by
      rw [← hrest]
      simpa using hmatch.rest
    rw [hrest] at hover
    obtain ⟨w', hsplit⟩ : ∃ w', digits ++ (minutes ++ (gap ++ ds)) = v ++ x :: w' := by
      rcases List.append_eq_append_iff.mp hlist with ⟨s, hs, hs'⟩ | ⟨s, hs, hs'⟩
      · cases s with
        | nil =>
          rw [List.nil_append] at hs'
          rw [hs'] at hover
          exact absurd (Nat.le_refl _) hover
        | cons y s =>
          obtain ⟨rfl, -⟩ := List.cons.inj hs'
          exact ⟨s, hs⟩
      · rw [hs', List.length_append] at hover
        omega
    have hlast : before.getLast? = v.getLast? := by
      rw [hbefore, List.getLast?_append, List.getLast?_eq_some_getLast hv]
      rfl
    rcases hmatch.before_digit hsplit hx hv with hword | ⟨init, d, sep, hv', hd, hsep⟩
    · have hstarts := h.starts
      rw [hlast, hword] at hstarts
      cases hstarts
    · refine h.whole (u ++ init) d sep ?_ hd hsep
      rw [hbefore, hv', List.append_assoc]

end Found

/-! ## A day -/

/-- A date as it is written. -/
structure WrittenDate (p : Characters) where
  dayDigits : List Char
  monthDigits : List Char
  yearDigits : Option (List Char) := none
  day_eq : (∃ x, dayDigits = [x] ∧ p.isDigit x = true) ∨
    ∃ x y, dayDigits = [x, y] ∧ ('0' ≤ x ∧ x ≤ '3') ∧ p.isDigit y = true
  month_eq : (∃ x, monthDigits = [x] ∧ p.isDigit x = true) ∨
    ∃ x y, monthDigits = [x, y] ∧ (x = '0' ∨ x = '1') ∧ p.isDigit y = true
  year_eq : ∀ digits ∈ yearDigits, (2 ≤ digits.length ∧ digits.length ≤ 4) ∧
    ∀ x ∈ digits, p.isDigit x = true

/-- How the date is written. -/
def WrittenDate.written (d : WrittenDate p) : List Char :=
  d.dayDigits ++ ('/' :: (d.monthDigits ++ (d.yearDigits.elim [] ('/' :: ·))))

section Dates

variable {t : Tables} {groups : ℕ → Option (List Char)} {before : Option Char} {rest : List Char}

/-- One or two digits, the first of which is in a range. -/
theorem leads_digits {digits : List Char} {first : Char → Bool}
    (h : (∃ x, digits = [x] ∧ t.isDigit x = true) ∨
      ∃ x y, digits = [x, y] ∧ first x = true ∧ t.isDigit y = true) :
    (Re.seq (.opt (.one first)) (.one t.isDigit)).Leads t ⟨before, digits ++ rest, groups⟩
      ⟨digits.getLast?.or before, rest, groups⟩ := by
  rcases h with ⟨x, rfl, hx⟩ | ⟨x, y, rfl, hx, hy⟩
  · exact ⟨_, .inr rfl, x, rest, rfl, hx, rfl⟩
  · exact ⟨_, .inl ⟨x, y :: rest, rfl, hx, rfl⟩, y, rest, rfl, hy, rfl⟩

theorem leads_separator :
    dateSeparator.Leads t ⟨before, '/' :: rest, groups⟩ ⟨some '/', rest, groups⟩ :=
  ⟨'/', rest, rfl, by decide, rfl⟩

/-- Two, three or four digits. -/
theorem leads_year {digits : List Char} (hlength : 2 ≤ digits.length ∧ digits.length ≤ 4)
    (hall : ∀ x ∈ digits, t.isDigit x = true) :
    (Re.seqs [.one t.isDigit, .one t.isDigit,
      .opt (.seq (.one t.isDigit) (.opt (.one t.isDigit)))]).Leads t
        ⟨before, digits ++ rest, groups⟩ ⟨digits.getLast?.or before, rest, groups⟩ := by
  match digits, hlength with
  | [a, b], _ =>
    have ha := hall a (by simp)
    have hb := hall b (by simp)
    exact ⟨_, ⟨a, b :: rest, rfl, ha, rfl⟩, _, ⟨b, rest, rfl, hb, rfl⟩, _, .inr rfl, rfl⟩
  | [a, b, c], _ =>
    have ha := hall a (by simp)
    have hb := hall b (by simp)
    have hc := hall c (by simp)
    exact ⟨_, ⟨a, b :: c :: rest, rfl, ha, rfl⟩, _, ⟨b, c :: rest, rfl, hb, rfl⟩, _,
      .inl ⟨_, ⟨c, rest, rfl, hc, rfl⟩, .inr rfl⟩, rfl⟩
  | [a, b, c, d], _ =>
    have ha := hall a (by simp)
    have hb := hall b (by simp)
    have hc := hall c (by simp)
    have hd := hall d (by simp)
    exact ⟨_, ⟨a, b :: c :: d :: rest, rfl, ha, rfl⟩, _, ⟨b, c :: d :: rest, rfl, hb, rfl⟩, _,
      .inl ⟨_, ⟨c, d :: rest, rfl, hc, rfl⟩, .inl ⟨d, rest, rfl, hd, rfl⟩⟩, rfl⟩

/-- What is written as a day or a month are digits. -/
theorem isDigit_of_shape {digits : List Char} {first : Char → Prop}
    (h : (∃ x, digits = [x] ∧ p.isDigit x = true) ∨
      ∃ x y, digits = [x, y] ∧ first x ∧ p.isDigit y = true)
    (hfirst : ∀ x, first x → '0' ≤ x ∧ x ≤ '9') :
    digits ≠ [] ∧ ∀ x ∈ digits, p.isDigit x = true := by
  rcases h with ⟨x, rfl, hx⟩ | ⟨x, y, rfl, hx, hy⟩
  · refine ⟨by simp, fun z hz => ?_⟩
    obtain rfl := List.mem_singleton.mp hz
    exact hx
  · refine ⟨by simp, fun z hz => ?_⟩
    rcases List.mem_cons.mp hz with rfl | hz
    · refine isDigit_of_ascii ?_
      simp only [Char.isDigit, Bool.and_eq_true, decide_eq_true_eq]
      exact hfirst _ hx
    · obtain rfl := List.mem_singleton.mp hz
      exact hy

/-- **A date that stands in a text is a match.** -/
theorem leads_date (d : WrittenDate p) {after : List Char}
    (hstarts : before.any p.isWord = false) (hends : after.head?.any p.isWord = false) :
    ∃ end', (DATE_RE p.toTables).Leads p.toTables ⟨before, d.written ++ after, groups⟩ end' := by
  have hday : (∃ x, d.dayDigits = [x] ∧ p.isDigit x = true) ∨ ∃ x y, d.dayDigits = [x, y] ∧
      (decide ('0' ≤ x) && decide (x ≤ '3')) = true ∧ p.isDigit y = true := by
    simpa using d.day_eq
  have hmonth : (∃ x, d.monthDigits = [x] ∧ p.isDigit x = true) ∨ ∃ x y, d.monthDigits = [x, y] ∧
      (decide (x = '0') || decide (x = '1')) = true ∧ p.isDigit y = true := by
    simpa using d.month_eq
  obtain ⟨hdne, hdall⟩ := isDigit_of_shape d.day_eq fun x hx => ⟨hx.1, Char.le_trans hx.2 (by decide)⟩
  obtain ⟨hmne, hmall⟩ := isDigit_of_shape d.month_eq fun x hx => by
    rcases hx with rfl | rfl <;> exact ⟨by decide, by decide⟩
  have hlist : d.written ++ after = d.dayDigits ++ ('/' :: (d.monthDigits ++
      (d.yearDigits.elim [] ('/' :: ·) ++ after))) := by simp [WrittenDate.written]
  have hbegin : (before.any p.isWord != (d.written ++ after).head?.any p.isWord) = true := by
    rw [hlist, List.head?_append_of_ne_nil _ hdne, hstarts, List.head?_eq_some_head hdne,
      Option.any_some, p.isWord_of_isDigit _ (hdall _ (List.head_mem hdne))]
    rfl
  have hend {digits : List Char} {before : Option Char} (hne : digits ≠ [])
      (hall : ∀ x ∈ digits, p.isDigit x = true) :
      ((digits.getLast?.or before).any p.isWord != after.head?.any p.isWord) = true := by
    rw [hends, List.getLast?_eq_some_getLast hne, Option.some_or, Option.any_some,
      p.isWord_of_isDigit _ (hall _ (List.getLast_mem hne))]
    rfl
  rw [hlist] at hbegin ⊢
  cases hyear : d.yearDigits with
  | none =>
    rw [hyear] at hbegin
    exact ⟨_, _, ⟨hbegin, rfl⟩, _, Re.leads_group.mpr ⟨_, _, leads_digits hday, rfl, rfl⟩, _,
      leads_separator, _, Re.leads_group.mpr ⟨_, _, leads_digits hmonth, rfl, rfl⟩, _, .inr rfl, _,
      ⟨hend hmne hmall, rfl⟩, rfl⟩
  | some digits =>
    rw [hyear] at hbegin
    obtain ⟨hlength, hyall⟩ := d.year_eq digits hyear
    have hyne : digits ≠ [] := by
      rintro rfl
      exact absurd hlength.1 (by decide)
    exact ⟨_, _, ⟨hbegin, rfl⟩, _, Re.leads_group.mpr ⟨_, _, leads_digits hday, rfl, rfl⟩, _,
      leads_separator, _, Re.leads_group.mpr ⟨_, _, leads_digits hmonth, rfl, rfl⟩, _,
      .inl ⟨_, leads_separator, Re.leads_group.mpr ⟨_, _, leads_year hlength hyall, rfl, rfl⟩⟩, _,
      ⟨hend hyne hyall, rfl⟩, rfl⟩

end Dates

/-- What names a day: a relative word, a weekday or a date. -/
inductive DayExpression (p : Characters)
  | relative (phrase : String) (days : ℕ)
  | weekday (name : String) (number : ℤ)
  | date (d : WrittenDate p)

/-- How many days ahead a weekday is: the next one, or the one after that. -/
def weekdayAhead (next : Bool) (weekday : ℤ) (localNow : LocalTime) : ℤ :=
  let ahead := (weekday - localNow.weekday) % 7
  let ahead := if ahead = 0 then 7 else ahead
  if next && ahead < 7 then ahead + 7 else ahead

/-- The day on which what has no day falls: today, or tomorrow if the time has passed. -/
def fallback (localNow : LocalTime) (atHour atMinute : ℕ) : ℤ :=
  if wallAt localNow.date atHour atMinute ≤ localNow.wall then localNow.date + 1 else localNow.date

namespace DayExpression

variable (text) in
/-- The day that is named. A weekday is the one after next if the word before it says so. -/
def day (localNow : LocalTime) : DayExpression p → Option ℤ
  | relative _ days => some (localNow.date + days)
  | weekday name number =>
    some (localNow.date + weekdayAhead (stands p text ("next " ++ name)) number localNow)
  | date d => dateOn localNow (natOf p.toNumerals d.dayDigits) (natOf p.toNumerals d.monthDigits)
      (d.yearDigits.map (natOf p.toNumerals))

variable (text) in
/-- **The expression is the only one of the text** that names a day. A relative word may be part of
a longer one, and a date may be followed by others. -/
def Only : DayExpression p → Prop
  | relative phrase days =>
    (phrase, days) ∈ RELATIVE_DAYS ∧ stands p text phrase = true ∧
      ∀ q ∈ RELATIVE_DAYS, stands p text q.1 = true →
        q.2 = days ∨ Text.contains phrase q.1 = true
  | weekday name number =>
    (name, number) ∈ WEEKDAYS ∧ stands p text name = true ∧
      (∀ q ∈ RELATIVE_DAYS, stands p text q.1 = false) ∧
      ∀ q ∈ WEEKDAYS, stands p text q.1 = true → q.2 = number
  | date d =>
    (∃ before after, text.toList = before ++ (d.written ++ after) ∧
      before.getLast?.any p.isWord = false ∧ after.head?.any p.isWord = false) ∧
      (∀ q ∈ RELATIVE_DAYS, stands p text q.1 = false) ∧
      ∀ q ∈ WEEKDAYS, stands p text q.1 = false

variable {localNow : LocalTime}

/-- The relative words, longest first. -/
theorem sorted_relative : (RELATIVE_DAYS.insertionSort fun a b => b.1.length ≤ a.1.length).Pairwise
    fun a b => b.1.length ≤ a.1.length := by decide

/-- A relative word that is part of another, and no shorter, names the same day. -/
theorem same_relative : ∀ a ∈ RELATIVE_DAYS, ∀ q ∈ RELATIVE_DAYS, a.1.length ≤ q.1.length →
    Text.contains a.1 q.1 = true → q.2 = a.2 := by decide

/-- The relative word is found. -/
theorem relativeIn_of_only {phrase : String} {days : ℕ}
    (h : (relative phrase days : DayExpression p).Only text) : relativeIn p text = some days := by
  obtain ⟨hmem, hstands, honly⟩ := h
  have hsorted (q : String × ℕ) : q ∈ (RELATIVE_DAYS.insertionSort fun a b =>
      b.1.length ≤ a.1.length) ↔ q ∈ RELATIVE_DAYS := List.mem_insertionSort _
  cases hfound : (RELATIVE_DAYS.insertionSort fun a b => b.1.length ≤ a.1.length).find?
      (stands p text ·.1) with
  | none =>
    have hnot := List.find?_eq_none.mp hfound _ ((hsorted _).mpr hmem)
    exact absurd hstands hnot
  | some q =>
    obtain ⟨hq, before, after, hsplit, hbefore⟩ := List.find?_eq_some_iff_append.mp hfound
    have hqmem : q ∈ RELATIVE_DAYS := (hsorted _).mp (List.mem_of_find?_eq_some hfound)
    have hsame : q.2 = days := by
      rcases honly q hqmem hq with hsame | hpart
      · exact hsame
      · have hlong : phrase.length ≤ q.1.length := by
          have hin := (hsorted _).mpr hmem
          rw [hsplit] at hin
          rcases List.mem_append.mp hin with hin | hin
          · have hnot := hbefore _ hin
            simp [hstands] at hnot
          · rcases List.mem_cons.mp hin with heq | hin
            · rw [← heq]
            · have hpairs := sorted_relative
              rw [hsplit] at hpairs
              exact (List.pairwise_cons.mp (List.pairwise_append.mp hpairs).2.1).1 _ hin
        exact same_relative _ hmem q hqmem hlong hpart
    rw [relativeIn, hfound, Option.map_some, hsame]

/-- No relative word is found. -/
theorem relativeIn_of_none (h : ∀ q ∈ RELATIVE_DAYS, stands p text q.1 = false) :
    relativeIn p text = none := by
  rw [relativeIn, Option.map_eq_none_iff, List.find?_eq_none]
  intro q hq
  rw [List.mem_insertionSort] at hq
  rw [h q hq]
  exact Bool.false_ne_true

/-- The weekday is found. -/
theorem weekdayIn_of_only {name : String} {number : ℤ}
    (h : (weekday name number : DayExpression p).Only text) : weekdayIn p text = some number := by
  obtain ⟨hmem, hstands, -, honly⟩ := h
  cases hfound : WEEKDAYS.find? (stands p text ·.1) with
  | none => exact absurd hstands (List.find?_eq_none.mp hfound _ hmem)
  | some q =>
    have hstands' : stands p text q.1 = true := by simpa using List.find?_some hfound
    have hsame := honly q (List.mem_of_find?_eq_some hfound) hstands'
    rw [weekdayIn, hfound, Option.map_some, hsame]

/-- Some date is found. -/
theorem dateIn_of_only {d : WrittenDate p} (h : (date d : DayExpression p).Only text) :
    ∃ found, dateIn p text = some found := by
  obtain ⟨⟨before, after, hsplit, hstarts, hends⟩, -, -⟩ := h
  obtain ⟨end', hleads⟩ := leads_date d hstarts hends
  have hsome := Re.isSome_search hsplit hleads
  obtain ⟨groups, hgroups⟩ := Option.isSome_iff_exists.mp hsome
  exact ⟨_, by rw [dateIn, hgroups]; rfl⟩

/-! ### What goes by the wrong day -/

variable (text) in
/-- **The day is not mistaken.** A weekday is taken for the one after next if "next" is anywhere in
the text. And a date is the first that is written in numbers, if that is one; what is none is passed
over. -/
def Clear (localNow : LocalTime) (time : ClockTime p) : DayExpression p → Prop
  | relative _ _ => True
  | weekday name number => Text.contains text "next" = true →
      stands p text ("next " ++ name) = true ∨ (number - localNow.weekday) % 7 = 0
  | date d => ∃ named ∈ (date d).day text localNow, ∀ first ∈ dateIn p text,
      (dateOn localNow first.1 first.2.1 first.2.2).getD
        (fallback localNow time.hour time.minute) = named

theorem contains_of_stands {phrase : String} (h : stands p text phrase = true) :
    Text.contains text phrase = true := by
  obtain ⟨groups, hgroups⟩ := Option.isSome_iff_exists.mp h
  obtain ⟨before, rest, end', htext, ⟨_, ⟨-, rfl⟩, mid, hword, -⟩, -⟩ := Re.search_eq_some hgroups
  have hrest : rest = phrase.toList ++ mid.rest := Re.leads_word hword
  exact Text.contains_iff.mpr ⟨before, mid.rest, by rw [htext, hrest, List.append_assoc]⟩

/-- What is said with "next" before it says "next". -/
theorem contains_next {name : String} (h : stands p text ("next " ++ name) = true) :
    Text.contains text "next" = true := by
  obtain ⟨before, after, htext⟩ := Text.contains_iff.mp (contains_of_stands h)
  refine Text.contains_iff.mpr ⟨before, ' ' :: name.toList ++ after, ?_⟩
  rw [← htext, String.toList_append]
  have hnext : "next ".toList = "next".toList ++ [' '] := rfl
  rw [hnext]
  simp

theorem daysAhead_eq {number : ℤ} :
    daysAhead text number localNow = weekdayAhead (Text.contains text "next") number localNow := rfl

/-- When "next" makes a difference. -/
theorem weekdayAhead_inj {next next' : Bool} {number : ℤ} :
    weekdayAhead next number localNow = weekdayAhead next' number localNow ↔
      next = next' ∨ (number - localNow.weekday) % 7 = 0 := by
  unfold weekdayAhead
  have hlow := Int.emod_nonneg (number - localNow.weekday) (show (7 : ℤ) ≠ 0 by decide)
  have hhigh := Int.emod_lt_of_pos (number - localNow.weekday) (show (0 : ℤ) < 7 by decide)
  generalize (number - localNow.weekday) % 7 = ahead at hlow hhigh
  dsimp only
  by_cases hzero : ahead = 0
  · simp [hzero]
  · have hlt : ahead < 7 := hhigh
    cases next <;> cases next' <;> simp [hzero, hlt]

/-- **The day that is read is the one that is named, exactly if it is not mistaken.** -/
theorem named_iff {e : DayExpression p} {time : ClockTime p} (h : e.Only text) :
    (e.day text localNow =
        some ((dayIn p text localNow).getD (fallback localNow time.hour time.minute))) ↔
      e.Clear text localNow time := by
  cases e with
  | relative phrase days =>
    have hday : dayIn p text localNow = some (localNow.date + days) := by
      rw [dayIn, aheadIn, relativeIn_of_only h]
    rw [hday]
    exact iff_of_true rfl trivial
  | weekday name number =>
    have hday : dayIn p text localNow =
        some (localNow.date + daysAhead text number localNow) := by
      rw [dayIn, aheadIn, relativeIn_of_none h.2.2.1, weekdayIn_of_only h]
      rfl
    rw [hday, Option.getD_some, day, Clear, Option.some_inj, Int.add_right_inj, daysAhead_eq,
      weekdayAhead_inj]
    cases hnext : stands p text ("next " ++ name) with
    | true =>
      rw [contains_next hnext]
      exact iff_of_true (.inl rfl) fun _ => .inl rfl
    | false =>
      cases Text.contains text "next" with
      | true => simp
      | false => simp
  | date d =>
    obtain ⟨found, hfound⟩ := dateIn_of_only h
    have hweekday : weekdayIn p text = none := by
      rw [weekdayIn, Option.map_eq_none_iff, List.find?_eq_none]
      intro q hq
      rw [h.2.2 q hq]
      exact Bool.false_ne_true
    have hday : dayIn p text localNow = dateOn localNow found.1 found.2.1 found.2.2 := by
      rw [dayIn, aheadIn, relativeIn_of_none h.2.1, hweekday, hfound]
      rfl
    rw [hday, Clear, hfound]
    simp only [Option.mem_def, Option.some_inj, forall_eq']
    constructor
    · intro heq
      exact ⟨_, heq, rfl⟩
    · rintro ⟨named, hnamed, heq⟩
      rw [heq]
      exact hnamed

end DayExpression

/-! ## What is booked -/

section Booked

variable {zone : TimeZone} {now : Time} {durationMinutes : ℤ} {guess : TimeGuess} {slot : TimeSlot}
  {time : ClockTime p} {before after : List Char} {e : DayExpression p} {r : Reading}

/-- A number is read as this time. -/
def Reading.Says (r : Reading) (time : ClockTime p) : Prop :=
  r.hour = time.hour ∧ r.minute = time.minute

variable (text time) in
/-- **No other number is taken for the time.** If a number of the text is read as another hour for
demos, one before it is read as the time that is meant. -/
def Undisturbed : Prop :=
  ∀ earlier r later, times p text = earlier ++ r :: later → r.inHours = true → ¬r.Says time →
    ∃ r' ∈ earlier, r'.inHours = true ∧ r'.Says time

/-- The clocks of a zone do show this. -/
def TimeZone.Shows (zone : TimeZone) (wall : Time) : Prop :=
  ∀ fold, (zone.wallClock (zone.moment { wall, fold })).wall = wall

/-- The clocks of a zone leave no time out in the hours of demos. -/
def TimeZone.Unskipped (zone : TimeZone) : Prop :=
  ∀ date atHour atMinute, EARLIEST_HOUR ≤ atHour → atHour ≤ LATEST_HOUR → atMinute < 60 →
    zone.Shows (wallAt date atHour atMinute)

variable (zone text now slot time e) in
/-- **The time that is stated is the time that is booked**: the slot starts, by the clocks of the
zone, at the clock time on the day that is named. -/
def Booked : Prop :=
  ∃ date ∈ e.day (Text.squash p.toTables text) (zone.wallClock now),
    (zone.wallClock slot.startsAt).wall = wallAt date time.hour time.minute

/-- **The first number of the text that is an hour for demos** decides. -/
theorem resolveTime_says (htime : time.StandsIn text before after)
    (hhours : EARLIEST_HOUR ≤ time.hour ∧ time.hour ≤ LATEST_HOUR)
    (h : resolveTime p text = some r) : r.Says time ↔ Undisturbed text time := by
  have hin {r : Reading} (hr : r.Says time) : r.inHours = true := by
    rw [Reading.inHours, Bool.and_eq_true, decide_eq_true_eq, decide_eq_true_eq, hr.1]
    exact hhours
  obtain ⟨r₀, hr₀, hstated⟩ := mem_times htime
  unfold resolveTime at h
  cases hfound : (times p text).find? Reading.inHours with
  | none => exact absurd (hin hstated) (List.find?_eq_none.mp hfound r₀ hr₀)
  | some first =>
    rw [hfound] at h
    obtain rfl := Option.some.inj h
    obtain ⟨hfirst, earlier, later, hsplit, hnot⟩ := List.find?_eq_some_iff_append.mp hfound
    constructor
    · intro hr earlier' r' later' hsplit' hhours' hother
      -- the first is before every other one
      refine ⟨first, ?_, hfirst, hr⟩
      rw [hsplit] at hsplit'
      rcases List.append_eq_append_iff.mp hsplit' with ⟨s, hs, hs'⟩ | ⟨s, hs, hs'⟩
      · cases s with
        | nil =>
          obtain ⟨heq, -⟩ := List.cons.inj hs'
          exact absurd (heq ▸ hr) hother
        | cons x s =>
          obtain ⟨rfl, -⟩ := List.cons.inj hs'
          rw [hs]
          exact List.mem_append_right _ List.mem_cons_self
      · cases s with
        | nil =>
          obtain ⟨heq, -⟩ := List.cons.inj hs'
          exact absurd (heq ▸ hr) hother
        | cons x s =>
          obtain ⟨rfl, -⟩ := List.cons.inj hs'
          have hmem : r' ∈ earlier := by
            rw [hs]
            exact List.mem_append_right _ List.mem_cons_self
          have hfalse := hnot r' hmem
          rw [hhours'] at hfalse
          cases hfalse
    · intro hundisturbed
      by_contra hother
      obtain ⟨r', hr', hhours', -⟩ := hundisturbed earlier first later hsplit hfirst hother
      have hfalse := hnot r' hr'
      rw [hhours'] at hfalse
      cases hfalse

/-- **Where a slot comes from**: a number, or a part of the day, and the local time it stands for. -/
theorem slot_of_interpret (h : interpret p zone text now durationMinutes = .ok guess)
    (hslot : guess.slot = some slot) :
    ∃ r candidate, resolveTime p (Text.squash p.toTables text) = some r ∧
      candidate.wall = wallAt ((dayIn p (Text.squash p.toTables text) (zone.wallClock now)).getD
        (fallback (zone.wallClock now) r.hour r.minute)) r.hour r.minute ∧
      slot.startsAt = zone.moment candidate := by
  have hlocal : datable (zone.wallClock now).wall = true := by
    by_contra hnot
    have hheld : LocalTime.held (zone.wallClock now) = .error .overflowError := if_neg hnot
    rw [interpret, hheld] at h
    cases h
  have hheld := held_eq_ok.mpr ⟨rfl, hlocal⟩
  cases hnamed : resolveDay p (Text.squash p.toTables text) (zone.wallClock now) with
  | error error =>
    rw [interpret, hheld] at h
    simp only [bind, Except.bind, hnamed] at h
    cases h
  | ok named =>
    rw [interpret_eq hlocal hnamed] at h
    cases htime : resolveTime p (Text.squash p.toTables text) with
    | none =>
      rw [htime] at h
      obtain rfl := Except.ok.inj h
      cases hslot
    | some r =>
      obtain ⟨hhours, hminute, -⟩ := resolveTime_eq_some htime
      rw [htime] at h
      dsimp only at h
      split at h
      · obtain rfl := Except.ok.inj h
        cases hslot
      · cases hcandidate : candidateOf (zone.wallClock now) named r with
        | error error =>
          rw [hcandidate] at h
          cases h
        | ok candidate =>
          rw [hcandidate] at h
          have hheldNamed : ∀ l ∈ named, datable l.wall = true := by
            rintro l rfl
            exact datable_of_resolveDay hnamed
          obtain ⟨hwall, -⟩ := candidateOf_eq_ok ⟨r.hour_lt hhours, hminute⟩ hlocal hheldNamed
          refine ⟨r, candidate, rfl, ?_, ((slot_of_slotAt h).1 slot hslot).1⟩
          rw [hwall hcandidate, date_of_resolveDay hnamed]
          cases dayIn p (Text.squash p.toTables text) (zone.wallClock now) with
          | some date => rfl
          | none =>
            rw [Option.getD_none, startOf, fallback]
            split
            · rw [wallAt, wallAt, Int.add_mul, one_mul]
              exact (Int.add_right_comm _ _ _).trans (congrArg (· + _) (Int.add_right_comm _ _ _))
            · rfl

/-- A wall clock shows one time of one day. -/
theorem wallAt_inj {date date' : ℤ} {h h' m m' : ℕ} (hh : h < 24) (hm : m < 60) (hh' : h' < 24)
    (hm' : m' < 60) : wallAt date h m = wallAt date' h' m' ↔ date = date' ∧ h = h' ∧ m = m' := by
  change (date * 86400000000 + h * 3600000000 + m * 60000000 : ℤ) =
    date' * 86400000000 + h' * 3600000000 + m' * 60000000 ↔ _
  omega

/-- The minute of a clock time is one. -/
theorem ClockTime.minute_lt (time : ClockTime p) : time.minute < 60 :=
  natOf_minutes_lt time.minutes_eq

/-- **The time that is stated is booked, exactly if no number and no day is taken for another**, as
far as the clocks of the zone show the times there are. -/
theorem stated_time_booked_iff (hguess : interpret p zone text now durationMinutes = .ok guess)
    (hslot : guess.slot = some slot)
    (htime : time.StandsIn (Text.squash p.toTables text) before after)
    (hhours : EARLIEST_HOUR ≤ time.hour ∧ time.hour ≤ LATEST_HOUR)
    (hday : e.Only (Text.squash p.toTables text)) :
    (Undisturbed (Text.squash p.toTables text) time →
      e.Clear (Text.squash p.toTables text) (zone.wallClock now) time →
      (∀ date ∈ e.day (Text.squash p.toTables text) (zone.wallClock now),
        zone.Shows (wallAt date time.hour time.minute)) →
      Booked text zone now slot time e) ∧
    (zone.Unskipped → (Booked text zone now slot time e ↔
      Undisturbed (Text.squash p.toTables text) time ∧
        e.Clear (Text.squash p.toTables text) (zone.wallClock now) time)) := by
  obtain ⟨r, candidate, hr, hwall, hstarts⟩ := slot_of_interpret hguess hslot
  obtain ⟨hrhours, hrminute, -⟩ := resolveTime_eq_some hr
  have hstated := resolveTime_says htime hhours hr
  have henough : Undisturbed (Text.squash p.toTables text) time →
      e.Clear (Text.squash p.toTables text) (zone.wallClock now) time →
      (∀ date ∈ e.day (Text.squash p.toTables text) (zone.wallClock now),
        zone.Shows (wallAt date time.hour time.minute)) →
      Booked text zone now slot time e := by
    intro hundisturbed hclear hshows
    obtain ⟨hhour, hminute⟩ := hstated.mpr hundisturbed
    have hnamed := (DayExpression.named_iff hday).mpr hclear
    refine ⟨_, hnamed, ?_⟩
    have hshown := hshows _ hnamed candidate.fold
    rw [hhour, hminute] at hwall
    rw [hstarts, ← hwall]
    rw [← hwall] at hshown
    exact hshown
  refine ⟨henough, fun hunskipped => ⟨?_, fun h => henough h.1 h.2 fun date _ =>
    hunskipped date _ _ hhours.1 hhours.2 time.minute_lt⟩⟩
  rintro ⟨date, hdate, hbooked⟩
  have hshown : (zone.wallClock slot.startsAt).wall = candidate.wall := by
    rw [Reading.inHours, Bool.and_eq_true, decide_eq_true_eq, decide_eq_true_eq] at hrhours
    have hshows := fun date => hunskipped date _ _ hrhours.1 hrhours.2 hrminute candidate.fold
    have hshows := hshows ((dayIn p (Text.squash p.toTables text) (zone.wallClock now)).getD
      (fallback (zone.wallClock now) r.hour r.minute))
    rw [← hwall] at hshows
    rw [hstarts]
    exact hshows
  have hlast : time.hour < 24 := Nat.lt_of_le_of_lt hhours.2 (by decide)
  rw [hshown, hwall, wallAt_inj (r.hour_lt hrhours) hrminute hlast time.minute_lt] at hbooked
  obtain ⟨heq, hhour, hminute⟩ := hbooked
  refine ⟨hstated.mp ⟨hhour, hminute⟩, (DayExpression.named_iff hday).mp ?_⟩
  rw [hhour, hminute] at heq
  rw [heq]
  exact hdate

end Booked

/-! ## Five o'clock -/

def fivePm : ClockTime asciiCharacters where
  digits := ['5']
  afternoon := true
  digits_eq := .inl ⟨'5', rfl, by decide⟩
  twelve := by decide
  minutes_eq := .inl rfl
  gap_eq := .inl rfl
  dot_eq := .inl rfl

/-- The slot that starts at an hour of the day after the first of January 1970. -/
def slotOn (atHour : ℕ) : TimeSlot where
  startsAt := wallAt 1 atHour 0
  timezone := "UTC"

theorem squash_kal : Text.squash asciiCharacters.toTables "5pm kal" = "5pm kal" := by decide

theorem fivePm_stands : fivePm.StandsIn (Text.squash asciiCharacters.toTables "5pm kal") []
    [' ', 'k', 'a', 'l'] where
  split := by
    rw [squash_kal]
    rfl
  starts := rfl
  whole init d sep h := by
    have hlength := congrArg List.length h
    simp at hlength
  ends := by decide

theorem kal_only : (.relative "kal" 1 : DayExpression asciiCharacters).Only
    (Text.squash asciiCharacters.toTables "5pm kal") := by
  rw [squash_kal]
  refine ⟨by decide, by decide, ?_⟩
  decide

/-- The time comes first, and is booked. -/
theorem five_booked :
    interpret asciiCharacters (.fixed "UTC" 0) "5pm kal" 0 =
        .ok { slot := some (slotOn 17), confident := true, reason := "parsed" } ∧
      ((Undisturbed (Text.squash asciiCharacters.toTables "5pm kal") fivePm →
        (.relative "kal" 1 : DayExpression asciiCharacters).Clear
          (Text.squash asciiCharacters.toTables "5pm kal")
          ((TimeZone.fixed "UTC" 0).wallClock 0) fivePm →
        (∀ date ∈ (.relative "kal" 1 : DayExpression asciiCharacters).day
            (Text.squash asciiCharacters.toTables "5pm kal") ((TimeZone.fixed "UTC" 0).wallClock 0),
          (TimeZone.fixed "UTC" 0).Shows (wallAt date fivePm.hour fivePm.minute)) →
        Booked "5pm kal" (.fixed "UTC" 0) 0 (slotOn 17) fivePm (.relative "kal" 1)) ∧
      ((TimeZone.fixed "UTC" 0).Unskipped →
        (Booked "5pm kal" (.fixed "UTC" 0) 0 (slotOn 17) fivePm (.relative "kal" 1) ↔
          Undisturbed (Text.squash asciiCharacters.toTables "5pm kal") fivePm ∧
            (.relative "kal" 1 : DayExpression asciiCharacters).Clear
              (Text.squash asciiCharacters.toTables "5pm kal")
              ((TimeZone.fixed "UTC" 0).wallClock 0) fivePm))) := by
  have hguess : interpret asciiCharacters (.fixed "UTC" 0) "5pm kal" 0 =
      .ok { slot := some (slotOn 17), confident := true, reason := "parsed" } := by decide
  exact ⟨hguess, stated_time_booked_iff hguess rfl fivePm_stands (by decide) kal_only⟩

/-- **The number of a class is booked** if it comes first. -/
theorem class_booked :
    interpret asciiCharacters (.fixed "UTC" 0) "class 2 kal 5pm" 0 =
        .ok { slot := some (slotOn 14), confident := false, reason := "parsed" } ∧
      fivePm.StandsIn (Text.squash asciiCharacters.toTables "class 2 kal 5pm")
        "class 2 kal ".toList [] ∧
      (.relative "kal" 1 : DayExpression asciiCharacters).Only
        (Text.squash asciiCharacters.toTables "class 2 kal 5pm") ∧
      ¬ Booked "class 2 kal 5pm" (.fixed "UTC" 0) 0 (slotOn 14) fivePm (.relative "kal" 1) := by
  have hsquash : Text.squash asciiCharacters.toTables "class 2 kal 5pm" = "class 2 kal 5pm" := by
    decide
  refine ⟨by decide, ⟨?_, by decide, ?_, rfl⟩, ⟨by decide, ?_, ?_⟩, ?_⟩
  · rw [hsquash]
    rfl
  · intro init d sep h _
    have hlast := congrArg List.getLast? h
    have hsep : sep = ' ' := by
      rw [show init ++ [d, sep] = init ++ [d] ++ [sep] by simp, List.getLast?_concat] at hlast
      exact (Option.some.inj hlast).symm
    rw [hsep]
    decide
  · rw [hsquash]
    decide
  · rw [hsquash]
    decide
  · rintro ⟨date, hdate, hbooked⟩
    obtain rfl : (1 : ℤ) = date := Option.some.inj hdate
    exact absurd hbooked (by decide)

end NxTutors.DemoAgent.Timeparse
