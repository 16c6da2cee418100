import NxTutors.MatchAgent.OutputGuard
import NxTutors.Privacy.Redaction

/-!
# The amounts and links of a message

The last gate looks for amounts behind a currency mark, and holds them against the labels that may
be quoted. Every amount that is marked is found, however it is spaced and spelled
(`mem_amounts_iff`), and so is every link (`mem_links`). But the second amount of a range needs no
mark of its own, and an amount of rupees has its mark behind it: neither is looked for. So what
leaves is authorised exactly if these are, `guarded_iff`.
-/

namespace NxTutors.MatchAgent.OutputGuard

open Text

/-! ## What is written -/

/-- Tables in which currency marks are no white space and no digits. -/
structure Script extends Tables where
  plain : toTables.Plain
  isDigit_iff : ∀ c, Printable c → (isDigit c = true ↔ c.isDigit = true)
  isSpace_of_isDigit : ∀ c, isDigit c = true → isSpace c = false
  mark : ∀ c ∈ ['₹', 'ſ', 'ı', 'İ'], isSpace c = false ∧ isDigit c = false

/-- A small letter, in some case. -/
def Alike (c x : Char) : Prop :=
  x = c ∨ x = c.toUpper ∨ (c = 's' ∧ x = 'ſ') ∨ (c = 'i' ∧ (x = 'ı' ∨ x = 'İ'))

instance (c x : Char) : Decidable (Alike c x) := inferInstanceAs (Decidable (_ ∨ _))

/-- A word of small letters, each of them in some case. -/
def InAnyCase (word : String) (m : List Char) : Prop := List.Forall₂ Alike word.toList m

/-- A currency mark: `₹`, `Rs`, `Rs.` or `INR`. -/
inductive Mark : List Char → Prop
  | sign : Mark ['₹']
  | rs {m : List Char} (h : InAnyCase "rs" m) : Mark m
  | rsDot {m : List Char} (h : InAnyCase "rs" m) : Mark (m ++ ['.'])
  | inr {m : List Char} (h : InAnyCase "inr" m) : Mark m

/-- A digit, or a comma between digits. -/
def isFigure (t : Tables) (c : Char) : Bool := t.isDigit c || c = ','

/-- A figure, as long as it can be, and what follows it. -/
structure Figure (t : Tables) (w after : List Char) : Prop where
  ne_nil : w ≠ []
  all : ∀ c ∈ w, isFigure t c = true
  ends : after.head?.any (isFigure t) = false

/-- Nothing but white space. -/
def Spaces (t : Tables) (l : List Char) : Prop := ∀ c ∈ l, t.isSpace c = true

/-- An amount at the beginning of a text: a mark and a figure. -/
def Begins (t : Tables) (s w after : List Char) : Prop :=
  ∃ m blanks, s = m ++ (blanks ++ (w ++ after)) ∧ Mark m ∧ Spaces t blanks ∧ Figure t w after

/-- What stands between the two amounts of a range. -/
def Between (t : Tables) (gap : List Char) : Prop :=
  ∃ l sep r, gap = l ++ (sep ++ r) ∧ Spaces t l ∧ Spaces t r ∧
    (sep ∈ [['-'], ['–'], ['—']] ∨ InAnyCase "to" sep)

/-- An amount with its mark. -/
def Marked (t : Tables) (s w : List Char) : Prop := ∃ a b after, s = a ++ b ∧ Begins t b w after

/-- The second amount of a range whose first amount has a mark. -/
def InRange (t : Tables) (s w : List Char) : Prop :=
  ∃ a b first gap after, s = a ++ b ∧ Begins t b first (gap ++ (w ++ after)) ∧ Between t gap ∧
    Figure t w after

/-- An amount of rupees. -/
def InRupees (t : Tables) (s w : List Char) : Prop :=
  ∃ a blanks r after, s = a ++ (w ++ (blanks ++ (r ++ after))) ∧
    a.getLast?.any (isFigure t) = false ∧ Figure t w (blanks ++ (r ++ after)) ∧ Spaces t blanks ∧
    InAnyCase "rupees" r

/-- **An amount that is written in a text.** -/
def Written (t : Tables) (s w : List Char) : Prop :=
  Marked t s w ∨ InRange t s w ∨ InRupees t s w

/-- A figure without its commas. -/
def worth (w : List Char) : String := String.ofList (w.filter (· ≠ ','))

/-- What may be quoted: the labels of the shortlist, and those that are authorised besides. -/
def labels (decision : Option MatchDecision) (authorisedFees : List String) : List String :=
  ((decision.map (·.shortlist)).getD []).filterMap (·.feeLabel) ++ authorisedFees

/-- An amount is one of an authorised label. -/
def Authorised (t : Tables) (decision : Option MatchDecision) (authorisedFees : List String)
    (w : List Char) : Prop :=
  ∃ label ∈ labels decision authorisedFees, ∃ w', Written t label.toList w' ∧ worth w' = worth w

/-! ## Marked amounts -/

section

variable {t : Script} {before : Option Char} {groups : Nat → Option (List Char)}

theorem alike_iff {c x : Char} : Alike c x ↔
    (x = c || x = c.toUpper || (c = 's' && x = 'ſ') || (c = 'i' && (x = 'ı' || x = 'İ'))) = true := by
  simp only [Alike, Bool.or_eq_true, Bool.and_eq_true, decide_eq_true_eq, or_assoc]

theorem prefers_inAnyCase {word m rest : List Char} (h : List.Forall₂ Alike word m) :
    Re.Prefers t.toTables (word.foldr (fun c r => .seq (.ignoreCase c) r) .empty)
      ⟨before, m ++ rest, groups⟩ ⟨m.getLast?.or before, rest, groups⟩ := by
  induction h generalizing before with
  | nil => exact Re.prefers_empty
  | @cons c x word m hc _ ih =>
    rw [Re.getLast?_cons_or]
    exact .seq (Re.prefers_one (alike_iff.mp hc)) ih

theorem spells_inAnyCase {word m : List Char} :
    (word.foldr (fun c r => Re.seq (.ignoreCase c) r) .empty).Spells m ↔
      List.Forall₂ Alike word m := by
  induction word generalizing m with
  | nil => exact List.forall₂_nil_left_iff.symm
  | cons c word ih =>
    constructor
    · rintro ⟨u, v, rfl, ⟨x, rfl, hx⟩, hv⟩
      exact .cons (alike_iff.mpr hx) (ih.mp hv)
    · intro h
      cases h with
      | @cons _ x _ m hx hm => exact ⟨[x], m, rfl, ⟨x, rfl, alike_iff.mp hx⟩, ih.mpr hm⟩

/-- The characters that marks are made of. -/
def MARK_CHARS : List Char := ['₹', 'r', 'R', 's', 'S', 'ſ', '.', 'i', 'I', 'ı', 'İ', 'n', 'N']

theorem InAnyCase.mem {word : String} {m : List Char} (h : InAnyCase word m) {x : Char}
    (hx : x ∈ m) : ∃ c ∈ word.toList, Alike c x := by
  unfold InAnyCase at h
  generalize word.toList = letters at h ⊢
  induction h with
  | nil => cases hx
  | @cons c y letters m hc _ ih =>
    rcases List.mem_cons.mp hx with rfl | hx
    · exact ⟨c, List.mem_cons_self, hc⟩
    · obtain ⟨d, hd, hdx⟩ := ih hx
      exact ⟨d, List.mem_cons_of_mem c hd, hdx⟩

theorem alike_mem {c x : Char} (hc : c ∈ ['r', 's', 'i', 'n']) (h : Alike c x) :
    x ∈ MARK_CHARS := by
  simp only [List.mem_cons, List.not_mem_nil, or_false] at hc
  rcases hc with rfl | rfl | rfl | rfl <;> rcases h with rfl | rfl | ⟨-, rfl⟩ | ⟨-, rfl | rfl⟩ <;>
    decide

theorem Mark.mem {m : List Char} (h : Mark m) {x : Char} (hx : x ∈ m) : x ∈ MARK_CHARS := by
  have hword {word : String} {m : List Char} (hword : ∀ c ∈ word.toList, c ∈ ['r', 's', 'i', 'n'])
      (h : InAnyCase word m) (hx : x ∈ m) : x ∈ MARK_CHARS := by
    obtain ⟨c, hc, hcx⟩ := h.mem hx
    exact alike_mem (hword c hc) hcx
  have hrs : ∀ c ∈ "rs".toList, c ∈ ['r', 's', 'i', 'n'] := forall_of_all (by decide)
  cases h with
  | sign =>
    rw [List.mem_singleton.mp hx]
    decide
  | rs h => exact hword hrs h hx
  | rsDot h =>
    rcases List.mem_append.mp hx with hx | hx
    · exact hword hrs h hx
    · rw [List.mem_singleton.mp hx]
      decide
  | inr h => exact hword (forall_of_all (by decide)) h hx

/-- No part of a mark is white space, or part of a figure. -/
theorem mark_char {c : Char} (hc : c ∈ MARK_CHARS) :
    t.isSpace c = false ∧ isFigure t.toTables c = false := by
  have hprintable {c : Char} (hc : Printable c ∧ c ≠ ' ' ∧ c.isDigit = false ∧ c ≠ ',') :
      t.isSpace c = false ∧ isFigure t.toTables c = false := by
    obtain ⟨hc, hblank, hdigit, hcomma⟩ := hc
    refine ⟨t.plain.not_space ⟨hc, hblank⟩, ?_⟩
    rw [isFigure, Bool.or_eq_false_iff, decide_eq_false_iff_not]
    refine ⟨Bool.eq_false_iff.mpr fun h => ?_, hcomma⟩
    rw [(t.isDigit_iff c hc).mp h] at hdigit
    cases hdigit
  have hother {c : Char} (hc : c ∈ ['₹', 'ſ', 'ı', 'İ']) (hcomma : c ≠ ',') :
      t.isSpace c = false ∧ isFigure t.toTables c = false := by
    refine ⟨(t.mark c hc).1, ?_⟩
    rw [isFigure, (t.mark c hc).2, decide_eq_false hcomma]
    rfl
  simp only [MARK_CHARS, List.mem_cons, List.not_mem_nil, or_false] at hc
  rcases hc with rfl | rfl | rfl | rfl | rfl | rfl | rfl | rfl | rfl | rfl | rfl | rfl | rfl
  all_goals first
    | exact hprintable (by decide)
    | exact hother (by decide) (by decide)

theorem not_space_of_isFigure {c : Char} (h : isFigure t.toTables c = true) :
    t.isSpace c = false := by
  rw [isFigure, Bool.or_eq_true, decide_eq_true_eq] at h
  rcases h with h | rfl
  · exact t.isSpace_of_isDigit c h
  · exact t.plain.not_space (by decide)

/-- The part of the pattern behind a mark. -/
def FIGURE (t : Tables) : Re :=
  .seqs [.many t.isSpace, .group 1 (.seq (.one (isFigure t)) (.many (isFigure t)))]

/-- What the group has captured. -/
def captured (w : List Char) : Nat → Option (List Char) := fun n => if n = 1 then some w else none

/-- White space and a figure are taken in whole. -/
theorem prefers_figure {blanks w after : List Char} (hblanks : Spaces t.toTables blanks)
    (hw : Figure t.toTables w after) :
    ∃ before', Re.Prefers t.toTables (FIGURE t.toTables)
      ⟨before, blanks ++ (w ++ after), fun _ => none⟩ ⟨before', after, captured w⟩ := by
  obtain ⟨c, cs, rfl⟩ := List.exists_cons_of_ne_nil hw.ne_nil
  have hc : isFigure t.toTables c = true := hw.all c List.mem_cons_self
  have hstop : (c :: cs ++ after).head?.any t.isSpace = false := not_space_of_isFigure hc
  have hcs : ∀ d ∈ cs, isFigure t.toTables d = true := fun d hd =>
    hw.all d (List.mem_cons_of_mem c hd)
  exact ⟨_, .seq (Re.prefers_many hblanks hstop) (.seq (.group
    (.seq (Re.prefers_one hc) (Re.prefers_many hcs hw.ends)) rfl) Re.prefers_empty)⟩

/-- The letters that a mark may begin with. -/
theorem first_mem {c x : Char} (hc : c = 'r' ∨ c = 'i') (h : Alike c x) :
    x ∈ if c = 'r' then ['r', 'R'] else ['i', 'I', 'ı', 'İ'] := by
  rcases hc with rfl | rfl
  · rcases h with rfl | rfl | ⟨h, -⟩ | ⟨h, -⟩
    · decide
    · decide
    · exact absurd h (by decide)
    · exact absurd h (by decide)
  · rcases h with rfl | rfl | ⟨h, -⟩ | ⟨-, rfl | rfl⟩
    · decide
    · decide
    · exact absurd h (by decide)
    · decide
    · decide

theorem alike_first {c x : Char} (hc : c = 'r' ∨ c = 'i') (h : Alike c x) :
    x ≠ '₹' ∧ (c = 'i' → ¬Alike 'r' x) := by
  have hmem := first_mem hc h
  rcases hc with rfl | rfl
  · have hall : ∀ x ∈ ['r', 'R'], x ≠ '₹' := forall_of_all (by decide)
    exact ⟨hall x hmem, fun h => absurd h (by decide)⟩
  · have hall : ∀ x ∈ ['i', 'I', 'ı', 'İ'], x ≠ '₹' ∧ ¬Alike 'r' x := forall_of_all (by decide)
    exact ⟨(hall x hmem).1, fun _ => (hall x hmem).2⟩

/-- The sign does not begin what begins with a letter. -/
theorem sign_fails {c : Char} {rest : List Char} {b : Re} (hc : c ≠ '₹') :
    (Re.seq (.word "₹") b).Fails t.toTables ⟨before, c :: rest, groups⟩ := by
  refine Re.fails_of_begins (P := (· = '₹')) (.inl (.inl trivial)) ?_ ?_
  · exact ⟨⟨fun d hd => eq_of_beq hd, .inl trivial⟩, .inl (.inl trivial)⟩
  · rintro d ⟨⟩
    exact hc

/-- **A mark and a figure are found**, and the figure is captured. -/
theorem run_begins {s w after : List Char} (h : Begins t.toTables s w after) :
    ∃ e, (feeAmount t.toTables).run t.toTables some ⟨before, s, fun _ => none⟩ = some e ∧
      e.rest = after ∧ e.groups = captured w := by
  obtain ⟨m, blanks, rfl, hm, hblanks, hw⟩ := h
  obtain ⟨c, cs, hwc⟩ := List.exists_cons_of_ne_nil hw.ne_nil
  have hstop : (w ++ after).head?.any t.isSpace = false := by
    rw [hwc]
    exact not_space_of_isFigure (hw.all c (hwc ▸ List.mem_cons_self))
  suffices hprefers : ∃ before', Re.Prefers t.toTables (feeAmount t.toTables)
      ⟨before, m ++ (blanks ++ (w ++ after)), fun _ => none⟩ ⟨before', after, captured w⟩ by
    obtain ⟨before', hprefers⟩ := hprefers
    exact ⟨_, hprefers some _ rfl, rfl, rfl⟩
  have hfigure (b : Option Char) : ∃ before', Re.Prefers t.toTables (FIGURE t.toTables)
      ⟨b, w ++ after, fun _ => none⟩ ⟨before', after, captured w⟩ :=
    @prefers_figure t b [] w after (fun d hd => absurd hd List.not_mem_nil) hw
  have hmany {before' : Option Char} : Re.Prefers t.toTables (.many t.isSpace)
      ⟨before', blanks ++ (w ++ after), fun _ => none⟩
      ⟨blanks.getLast?.or before', w ++ after, fun _ => none⟩ := Re.prefers_many hblanks hstop
  have hrs {m' tail : List Char} {before' : Option Char} (hm' : InAnyCase "rs" m')
      (hdot : Re.Prefers t.toTables (.opt (.word ".")) ⟨m'.getLast?.or before, tail, fun _ => none⟩
        ⟨before', blanks ++ (w ++ after), fun _ => none⟩) :
      ∃ before', Re.Prefers t.toTables (feeAmount t.toTables)
        ⟨before, m' ++ tail, fun _ => none⟩ ⟨before', after, captured w⟩ := by
    cases hm' with
    | cons hx hm' =>
      obtain ⟨before'', hfigure⟩ := hfigure _
      refine ⟨before'', Re.Prefers.seq_right (sign_fails (alike_first (.inl rfl) hx).1)
        (Re.Prefers.seq_left (.seq ?_ hfigure))⟩
      exact .seq (prefers_inAnyCase (.cons hx hm')) (.seq hdot (.seq hmany Re.prefers_empty))
  cases hm with
  | sign =>
    obtain ⟨before', hfigure⟩ := @prefers_figure t (some '₹') blanks w after hblanks hw
    exact ⟨before', Re.Prefers.seq_left
      (.seq (.seq (Re.prefers_one rfl) Re.prefers_empty) hfigure)⟩
  | rs hm =>
    refine hrs hm (Re.Prefers.right (Re.fails_of_begins (P := (· = '.')) (.inl trivial) ?_ ?_)
      Re.prefers_empty)
    · exact ⟨fun d hd => eq_of_beq hd, .inl trivial⟩
    · -- a dot is neither white space nor part of a figure
      rintro d hd rfl
      have hdot : t.isSpace '.' = false ∧ isFigure t.toTables '.' = false := mark_char (by decide)
      cases blanks with
      | nil =>
        rw [hwc] at hd hw
        obtain rfl := Option.some.inj hd
        rw [hw.all _ List.mem_cons_self] at hdot
        cases hdot.2
      | cons b blanks =>
        obtain rfl := Option.some.inj hd
        rw [hblanks _ List.mem_cons_self] at hdot
        cases hdot.1
  | @rsDot m' hm =>
    rw [List.append_assoc]
    exact hrs hm (Re.Prefers.left (.seq (Re.prefers_one rfl) Re.prefers_empty))
  | inr hm =>
    cases hm with
    | cons hx hm =>
      obtain ⟨before', hfigure⟩ := hfigure _
      obtain ⟨hsign, hrs⟩ := alike_first (.inr rfl) hx
      refine ⟨before', Re.Prefers.seq_right (sign_fails hsign) (Re.Prefers.seq_right ?_ (.seq
        (.seq (prefers_inAnyCase (.cons hx hm)) (.seq hmany Re.prefers_empty)) hfigure))⟩
      refine Re.fails_of_begins (P := Alike 'r') (.inl (.inl (.inl trivial))) ?_ ?_
      · exact ⟨⟨⟨fun d hd => alike_iff.mpr hd, .inl trivial⟩, .inl (.inl trivial)⟩,
          .inl (.inl (.inl trivial))⟩
      · rintro d ⟨⟩
        exact hrs rfl

theorem inAnyCase_rs {m : List Char} (h : InAnyCase "rs" m) :
    ∃ x y, m = [x, y] ∧ Alike 'r' x ∧ Alike 's' y := by
  have hletters : List.Forall₂ Alike ['r', 's'] m := h
  obtain ⟨x, m₁, hx, h₁, rfl⟩ := List.forall₂_cons_left_iff.mp hletters
  obtain ⟨y, m₂, hy, h₂, rfl⟩ := List.forall₂_cons_left_iff.mp h₁
  obtain rfl := List.forall₂_nil_left_iff.mp h₂
  exact ⟨x, y, rfl, hx, hy⟩

theorem inAnyCase_inr {m : List Char} (h : InAnyCase "inr" m) :
    ∃ x y z, m = [x, y, z] ∧ Alike 'i' x ∧ Alike 'n' y ∧ Alike 'r' z := by
  have hletters : List.Forall₂ Alike ['i', 'n', 'r'] m := h
  obtain ⟨x, m₁, hx, h₁, rfl⟩ := List.forall₂_cons_left_iff.mp hletters
  obtain ⟨y, m₂, hy, h₂, rfl⟩ := List.forall₂_cons_left_iff.mp h₁
  obtain ⟨z, m₃, hz, h₃, rfl⟩ := List.forall₂_cons_left_iff.mp h₂
  obtain rfl := List.forall₂_nil_left_iff.mp h₃
  exact ⟨x, y, z, rfl, hx, hy, hz⟩

/-- How a mark begins. -/
theorem Mark.begins {m : List Char} (h : Mark m) : ∃ x m', m = x :: m' ∧
    (x = '₹' ∨ Alike 'i' x ∨ (Alike 'r' x ∧ ∃ y m'', m' = y :: m'' ∧ Alike 's' y)) := by
  cases h with
  | sign => exact ⟨'₹', [], rfl, .inl rfl⟩
  | rs h =>
    obtain ⟨x, y, rfl, hx, hy⟩ := inAnyCase_rs h
    exact ⟨x, [y], rfl, .inr (.inr ⟨hx, y, [], rfl, hy⟩)⟩
  | rsDot h =>
    obtain ⟨x, y, rfl, hx, hy⟩ := inAnyCase_rs h
    exact ⟨x, [y, '.'], rfl, .inr (.inr ⟨hx, y, ['.'], rfl, hy⟩)⟩
  | inr h =>
    obtain ⟨x, y, z, rfl, hx, -, -⟩ := inAnyCase_inr h
    exact ⟨x, [y, z], rfl, .inr (.inl hx)⟩

/-- What stands in a mark behind its beginning. -/
theorem Mark.inside {v z : List Char} {x : Char} (h : Mark (v ++ x :: z)) (hv : v ≠ []) :
    Alike 's' x ∨ x = '.' ∨ Alike 'n' x ∨ (Alike 'r' x ∧ z = []) := by
  obtain ⟨c, cs, rfl⟩ := List.exists_cons_of_ne_nil hv
  generalize hm : c :: cs ++ x :: z = m at h
  -- behind the first character there is only so much
  obtain ⟨y, l, hl, hrest⟩ : ∃ y l, m = y :: l ∧ cs ++ x :: z = l := by
    rw [← hm]
    exact ⟨c, _, rfl, rfl⟩
  cases h with
  | sign =>
    obtain ⟨-, rfl⟩ := List.cons.inj hl
    cases cs <;> cases hrest
  | rs h =>
    obtain ⟨a, b, rfl, -, hb⟩ := inAnyCase_rs h
    obtain ⟨-, rfl⟩ := List.cons.inj hl
    cases cs with
    | nil => exact .inl ((List.cons.inj hrest).1 ▸ hb)
    | cons d cs => cases cs <;> cases hrest
  | rsDot h =>
    obtain ⟨a, b, rfl, -, hb⟩ := inAnyCase_rs h
    obtain ⟨-, rfl⟩ := List.cons.inj hl
    rcases cs with - | ⟨d, cs⟩
    · exact .inl ((List.cons.inj hrest).1 ▸ hb)
    · cases cs with
      | nil => exact .inr (.inl (List.cons.inj (List.cons.inj hrest).2).1)
      | cons e cs => cases cs <;> cases hrest
  | inr h =>
    obtain ⟨a, b, d, rfl, -, hb, hd⟩ := inAnyCase_inr h
    obtain ⟨-, rfl⟩ := List.cons.inj hl
    rcases cs with - | ⟨e, cs⟩
    · exact .inr (.inr (.inl ((List.cons.inj hrest).1 ▸ hb)))
    · cases cs with
      | nil =>
        obtain ⟨rfl, hz⟩ := List.cons.inj (List.cons.inj hrest).2
        exact .inr (.inr (.inr ⟨hd, hz⟩))
      | cons f cs => cases cs <;> cases hrest

/-- **What the pattern matches**: a mark, white space, and a figure. -/
theorem spells_feeAmount {cs : List Char} (h : (feeAmount t.toTables).Spells cs) :
    ∃ m blanks w, cs = m ++ (blanks ++ w) ∧ Mark m ∧ Spaces t.toTables blanks ∧ w ≠ [] ∧
      ∀ c ∈ w, isFigure t.toTables c = true := by
  obtain ⟨u, v, rfl, hu, blanks, v', rfl, hblanks, w, v'', rfl, ⟨a, b, rfl, ⟨c, rfl, hc⟩, hb⟩,
    rfl⟩ := h
  have hw : ∀ d ∈ [c] ++ b, isFigure t.toTables d = true := List.forall_mem_cons.mpr ⟨hc, hb⟩
  have hne : [c] ++ b ≠ [] := List.cons_ne_nil _ _
  rcases hu with hu | hu | hu
  · obtain ⟨u, u', rfl, ⟨d, rfl, hd⟩, rfl⟩ := hu
    obtain rfl : d = '₹' := eq_of_beq hd
    exact ⟨['₹'], blanks, [c] ++ b, by simp, .sign, hblanks, hne, hw⟩
  · obtain ⟨u, u', rfl, hu, d, d', rfl, hd, spaces, d'', rfl, hspaces, rfl⟩ := hu
    have hspaces' : Spaces t.toTables (spaces ++ blanks) := fun x hx =>
      (List.mem_append.mp hx).elim (hspaces x) (hblanks x)
    have hrs : InAnyCase "rs" u := spells_inAnyCase.mp hu
    rcases hd with ⟨e, e', rfl, ⟨f, rfl, hf⟩, rfl⟩ | rfl
    · obtain rfl : f = '.' := eq_of_beq hf
      exact ⟨u ++ ['.'], spaces ++ blanks, [c] ++ b, by simp, .rsDot hrs, hspaces', hne, hw⟩
    · exact ⟨u, spaces ++ blanks, [c] ++ b, by simp, .rs hrs, hspaces', hne, hw⟩
  · obtain ⟨u, u', rfl, hu, spaces, d'', rfl, hspaces, rfl⟩ := hu
    have hspaces' : Spaces t.toTables (spaces ++ blanks) := fun x hx =>
      (List.mem_append.mp hx).elim (hspaces x) (hblanks x)
    exact ⟨u, spaces ++ blanks, [c] ++ b, by simp, .inr (spells_inAnyCase.mp hu), hspaces', hne, hw⟩

/-- What is left out of a run does not go on with it. -/
theorem head_dropWhile (p : Char → Bool) (l : List Char) : (l.dropWhile p).head?.any p = false := by
  induction l with
  | nil => rfl
  | cons c cs ih =>
    rw [List.dropWhile_cons]
    split
    · exact ih
    · next hc => exact Bool.eq_false_iff.mpr hc

/-- A figure that goes on is taken as long as it is. -/
theorem exists_begins {m blanks w rest : List Char} (hm : Mark m)
    (hblanks : Spaces t.toTables blanks) (hne : w ≠ [])
    (hw : ∀ c ∈ w, isFigure t.toTables c = true) :
    ∃ w' after, Begins t.toTables (m ++ (blanks ++ w) ++ rest) w' after := by
  refine ⟨w ++ rest.takeWhile (isFigure t.toTables), rest.dropWhile (isFigure t.toTables), m, blanks,
    ?_, hm, hblanks, ?_, ?_, ?_⟩
  · simp only [List.append_assoc, List.takeWhile_append_dropWhile]
  · exact fun h => hne (List.append_eq_nil_iff.mp h).1
  · intro c hc
    exact (List.mem_append.mp hc).elim (hw c) fun h => List.mem_takeWhile_imp h
  · exact head_dropWhile _ _

/-- What a mark begins with does not stand inside of one, but for an `r`. -/
theorem first_not_inside {x : Char} (h : x = '₹' ∨ Alike 'i' x ∨ Alike 'r' x) :
    ¬Alike 's' x ∧ x ≠ '.' ∧ ¬Alike 'n' x := by
  have hall : ∀ x ∈ ['₹', 'r', 'R', 'i', 'I', 'ı', 'İ'],
      ¬Alike 's' x ∧ x ≠ '.' ∧ ¬Alike 'n' x := forall_of_all (by decide)
  refine hall x ?_
  rcases h with rfl | h | h
  · decide
  · have hmem := first_mem (.inr rfl) h
    exact List.mem_cons_of_mem _ (List.mem_cons_of_mem _ (List.mem_cons_of_mem _ hmem))
  · have hmem : x ∈ ['r', 'R'] := first_mem (.inl rfl) h
    exact List.mem_cons_of_mem _ (List.mem_append_left ['i', 'I', 'ı', 'İ'] hmem)

/-- Where an amount begins, no other one is going on. -/
theorem not_inside {v b w after rest cs : List Char} (hv : v ≠ [])
    (hbegins : Begins t.toTables b w after) (hcs : v ++ b = cs ++ rest)
    (hspells : (feeAmount t.toTables).Spells cs) : b.length ≤ rest.length := by
  obtain ⟨m, blanks, rfl, hm, hblanks, hw⟩ := hbegins
  obtain ⟨m', blanks', w', rfl, hm', hblanks', hne', hw'⟩ := spells_feeAmount hspells
  obtain ⟨x, m₁, rfl, hx⟩ := hm.begins
  have hmark : x ∈ MARK_CHARS := hm.mem List.mem_cons_self
  -- behind a mark there is nothing that could be part of one
  have hbehind {y : Char} (hy : y ∈ MARK_CHARS) : y ∉ blanks' ++ w' := by
    intro hmem
    obtain ⟨hspace, hfigure⟩ : t.isSpace y = false ∧ isFigure t.toTables y = false := mark_char hy
    rcases List.mem_append.mp hmem with hmem | hmem
    · rw [hblanks' y hmem] at hspace
      cases hspace
    · rw [hw' y hmem] at hfigure
      cases hfigure
  rcases List.append_eq_append_iff.mp hcs with ⟨p, hp, hb⟩ | ⟨p, -, hb⟩
  · cases p with
    | nil => exact (congrArg List.length hb).le
    | cons x' p =>
      obtain ⟨rfl, hrest⟩ := List.cons.inj hb
      rcases List.append_eq_append_iff.mp hp with ⟨z, -, hz⟩ | ⟨z, hz, hz'⟩
      · refine absurd ?_ (hbehind hmark)
        rw [hz]
        exact List.mem_append_right z List.mem_cons_self
      · cases z with
        | nil =>
          refine absurd ?_ (hbehind hmark)
          rw [← List.nil_append (blanks' ++ w'), ← hz']
          exact List.mem_cons_self
        | cons x' z =>
          obtain ⟨rfl, hp'⟩ := List.cons.inj hz'
          rw [hz] at hm'
          have hfirst : x = '₹' ∨ Alike 'i' x ∨ Alike 'r' x :=
            hx.imp_right (Or.imp_right fun h => h.1)
          obtain ⟨hs, hdot, hn⟩ := first_not_inside hfirst
          rcases hm'.inside hv with h | h | h | ⟨hr, rfl⟩
          · exact absurd h hs
          · exact absurd h hdot
          · exact absurd h hn
          · -- `inr` ends where `rs` begins, so that an `s` is behind it
            rcases hx with rfl | hi | ⟨-, y, m₂, rfl, hy⟩
            · exact absurd hr (by decide)
            · exact absurd hr ((alike_first (.inr rfl) hi).2 rfl)
            · refine absurd ?_ (hbehind (alike_mem (by decide) hy))
              obtain ⟨q, qs, hq⟩ := List.exists_cons_of_ne_nil
                (fun h => hne' (List.append_eq_nil_iff.mp h).2 : blanks' ++ w' ≠ [])
              have hp'' : p = q :: qs := hp'.trans hq
              rw [hp''] at hrest
              rw [hq, (List.cons.inj hrest).1]
              exact List.mem_cons_self
  · have hlength := congrArg List.length hb
    rw [List.length_append] at hlength
    exact hlength ▸ Nat.le_add_left _ _

/-- **All marked amounts are found**, and nothing else is. -/
theorem mem_amounts_iff {s x : String} : x ∈ amounts t.toTables s ↔
    ∃ w, Marked t.toTables s.toList w ∧ worth w = x := by
  rw [amounts, List.mem_map]
  constructor
  · rintro ⟨found, hfound, rfl⟩
    obtain ⟨before, rest, end', hsplit, hrun, -, hgroups⟩ := Re.run_of_mem_findall hfound
    obtain ⟨end₁, hleads, -⟩ := Re.run_eq_some hrun
    obtain ⟨cs, hcs, hspells⟩ := hleads.spells
    obtain ⟨m, blanks, w, rfl, hm, hblanks, hne, hw⟩ := spells_feeAmount hspells
    obtain ⟨w', after, hbegins⟩ := @exists_begins t m blanks w end₁.rest hm hblanks hne hw
    obtain ⟨end₂, hrun', -, hcaptured⟩ := @run_begins t before.getLast? _ w' after hbegins
    have hcs' : found.1 ++ rest = m ++ (blanks ++ w) ++ end₁.rest := hcs
    rw [hcs', hrun'] at hrun
    obtain rfl := Option.some.inj hrun
    refine ⟨w', ⟨before, _, after, hsplit, hcs' ▸ hbegins⟩, ?_⟩
    rw [← hgroups, hcaptured]
    rfl
  · rintro ⟨w, ⟨a, b, after, hs, hbegins⟩, rfl⟩
    obtain ⟨end', hrun, -, hcaptured⟩ := @run_begins t a.getLast? b w after hbegins
    refine ⟨_, Re.mem_findall hs hrun fun u v end₁ hv hne hleads => ?_, ?_⟩
    · obtain ⟨cs, hcs, hspells⟩ := hleads.spells
      exact not_inside hne hbegins hcs hspells
    · rw [hcaptured]
      rfl

/-! ## Links -/

/-- `http://` or `https://`. -/
def Scheme (m : List Char) : Prop :=
  ∃ h s, m = h ++ (s ++ [':', '/', '/']) ∧ InAnyCase "http" h ∧ (s = [] ∨ ∃ x, s = [x] ∧ Alike 's' x)

/-- A character that a link goes on with. -/
def isLinked (t : Tables) (c : Char) : Bool := !t.isSpace c && !"<>\"')".toList.contains c

/-- A link at the beginning of a text, as long as it can be. -/
def BeginsLink (t : Tables) (s u after : List Char) : Prop :=
  ∃ m w, s = m ++ (w ++ after) ∧ u = m ++ w ∧ Scheme m ∧ w ≠ [] ∧
    (∀ c ∈ w, isLinked t c = true) ∧ after.head?.any (isLinked t) = false

/-- **A link in a text**: where it begins, none that has begun before is going on. -/
def Link (t : Tables) (s u : List Char) : Prop :=
  ∃ a b after, s = a ++ b ∧ BeginsLink t b u after ∧ ∀ v y u' after', a = v ++ y → y ≠ [] →
    BeginsLink t (y ++ b) u' after' → b.length ≤ after'.length

theorem spells_url {cs : List Char} (h : (url t.toTables).Spells cs) :
    ∃ m w, cs = m ++ w ∧ Scheme m ∧ w ≠ [] ∧ ∀ c ∈ w, isLinked t.toTables c = true := by
  obtain ⟨h', v, rfl, hhttp, s, v', rfl, hs, x, v'', rfl, hx, y, v''', rfl, ⟨c, rfl, hc⟩, z, z', rfl,
    hz, rfl⟩ := h
  have hx' : x = [':', '/', '/'] := by
    obtain ⟨a, a', rfl, ⟨d, rfl, hd⟩, b, b', rfl, ⟨e, rfl, he⟩, f, f', rfl, ⟨g, rfl, hg⟩, rfl⟩ := hx
    rw [eq_of_beq hd, eq_of_beq he, eq_of_beq hg]
    rfl
  refine ⟨h' ++ (s ++ [':', '/', '/']), [c] ++ z, by simp [hx'], ⟨h', s, rfl,
    spells_inAnyCase.mp hhttp, ?_⟩, List.cons_ne_nil _ _, List.forall_mem_cons.mpr ⟨hc, hz⟩⟩
  rcases hs with ⟨d, rfl, hd⟩ | rfl
  · exact .inr ⟨d, rfl, alike_iff.mpr hd⟩
  · exact .inl rfl

theorem run_beginsLink {s u after : List Char} (h : BeginsLink t.toTables s u after) :
    ∃ e, (url t.toTables).run t.toTables some ⟨before, s, fun _ => none⟩ = some e ∧
      e.rest = after := by
  obtain ⟨m, w, rfl, rfl, ⟨http, x, rfl, hhttp, hx⟩, hne, hw, hends⟩ := h
  obtain ⟨c, cs, rfl⟩ := List.exists_cons_of_ne_nil hne
  rw [List.forall_mem_cons] at hw
  have hafter {before' : Option Char} : ∃ before'', Re.Prefers t.toTables
      (.seqs [.word "://", .one (isLinked t.toTables), .many (isLinked t.toTables)])
      ⟨before', [':', '/', '/'] ++ (c :: cs ++ after), fun _ => none⟩
      ⟨before'', after, fun _ => none⟩ :=
    ⟨_, .seq (.seq (Re.prefers_one rfl) (.seq (Re.prefers_one rfl) (.seq (Re.prefers_one rfl)
      Re.prefers_empty))) (.seq (Re.prefers_one hw.1) (.seq (Re.prefers_many hw.2 hends)
        Re.prefers_empty))⟩
  suffices hprefers : ∃ before', Re.Prefers t.toTables (url t.toTables)
      ⟨before, http ++ (x ++ [':', '/', '/']) ++ (c :: cs ++ after), fun _ => none⟩
      ⟨before', after, fun _ => none⟩ by
    obtain ⟨before', hprefers⟩ := hprefers
    exact ⟨_, hprefers some _ rfl, rfl⟩
  rw [List.append_assoc, List.append_assoc]
  rcases hx with rfl | ⟨y, rfl, hy⟩
  · obtain ⟨before', hafter⟩ := @hafter (http.getLast?.or before)
    refine ⟨before', .seq (prefers_inAnyCase hhttp) (.seq (Re.Prefers.right ?_ Re.prefers_empty)
      hafter)⟩
    refine Re.fails_of_begins (P := Alike 's') trivial (fun d hd => alike_iff.mpr hd) ?_
    rintro d ⟨⟩
    decide
  · obtain ⟨before', hafter⟩ := @hafter (some y)
    exact ⟨before', .seq (prefers_inAnyCase hhttp) (.seq (Re.Prefers.left
      (Re.prefers_one (alike_iff.mp hy))) hafter)⟩

/-- **All links are found.** -/
theorem mem_links {s : String} {u : List Char} (h : Link t.toTables s.toList u) :
    clean u ∈ links t.toTables s := by
  obtain ⟨a, b, after, hs, hbegins, hclear⟩ := h
  obtain ⟨end', hrun, hend⟩ := @run_beginsLink t a.getLast? b u after hbegins
  have hfound : (b.take (b.length - end'.rest.length), end'.groups) ∈
      (url t.toTables).findall t.toTables s := by
    refine Re.mem_findall hs hrun fun v y end₁ hv hne hleads => ?_
    obtain ⟨cs, hcs, hspells⟩ := hleads.spells
    obtain ⟨m, w, rfl, hm, hw, hlinked⟩ := spells_url hspells
    have hcs' : y ++ b = m ++ w ++ end₁.rest := hcs
    refine (hclear v y _ (end₁.rest.dropWhile (isLinked t.toTables)) hv hne
      ⟨m, w ++ end₁.rest.takeWhile (isLinked t.toTables), ?_, rfl, hm, ?_, ?_, ?_⟩).trans
        (List.dropWhile_sublist _).length_le
    · rw [hcs']
      simp only [List.append_assoc, List.takeWhile_append_dropWhile]
    · exact fun h => hw (List.append_eq_nil_iff.mp h).1
    · exact fun c hc => (List.mem_append.mp hc).elim (hlinked c) fun h => List.mem_takeWhile_imp h
    · exact head_dropWhile _ _
  obtain ⟨m, w, hb, rfl, -⟩ := hbegins
  rw [links, List.mem_map]
  refine ⟨_, hfound, ?_⟩
  dsimp only
  rw [hend, hb, ← List.append_assoc, List.length_append, Nat.add_sub_cancel, List.take_left]

end

/-! ## Passing -/

/-- **A message passes every check** of the guard. -/
structure Passes (g : Rules) (message : String) (decision : Option MatchDecision)
    (authorisedFees : List String) : Prop where
  short : message.length ≤ MAX_MESSAGE_CHARS
  long : MIN_MESSAGE_CHARS ≤ (strip g.t message).length
  noControl : message.toList.any isControl = false
  noPii : (g.foundPiiKinds message).any (· ≠ "url") = false
  noError : containsAny (g.t.lower message) LEAK_MARKERS = false
  noPrompt : containsAny (g.t.lower message) PROMPT_MARKERS = false
  noInternal : containsAny (g.t.lower message) INTERNAL_MARKERS = false
  noGuarantee : containsAny (g.t.lower message) FORBIDDEN_CLAIM_MARKERS = false
  noSuperlative : containsAny (g.t.lower message) UNSUPPORTED_SUPERLATIVES = false
  links : ∀ link ∈ links g.t message, linkViolations g decision link = []
  noCandidate : (decision.any fun d => namesCandidate g.t d message) = false
  fees : unauthorisedFees g.t message decision authorisedFees = []

theorem flagged_eq_nil_iff {v : Violation} {b : Bool} : flagged v b = [] ↔ b = false := by
  cases b
  · exact iff_of_true rfl rfl
  · exact iff_of_false (List.cons_ne_nil _ _) Bool.noConfusion

theorem eraseDups_eq_nil_iff {l : List Violation} : l.eraseDups = [] ↔ l = [] := by
  constructor
  · intro h
    refine List.eq_nil_iff_forall_not_mem.mpr fun v hv => ?_
    have hmem := List.mem_eraseDups.mpr hv
    rw [h] at hmem
    cases hmem
  · rintro rfl
    rfl

variable {g : Rules} {message : String} {decision : Option MatchDecision} {fees : List String}

theorem validate_eq_nil_iff : validate g message decision fees = [] ↔
    Passes g message decision fees := by
  rw [validate, eraseDups_eq_nil_iff, findings]
  simp only [List.append_eq_nil_iff, flagged_eq_nil_iff, List.flatMap_eq_nil_iff,
    decide_eq_false_iff_not, not_lt, ne_eq, not_not]
  constructor
  · rintro ⟨⟨⟨⟨⟨⟨⟨⟨⟨⟨⟨h₁, h₂⟩, h₃⟩, h₄⟩, h₅⟩, h₆⟩, h₇⟩, h₈⟩, h₉⟩, h₁₀⟩, h₁₁⟩, h₁₂⟩
    exact ⟨h₁, h₂, h₃, h₄, h₅, h₆, h₇, h₈, h₉, h₁₀, h₁₁, h₁₂⟩
  · rintro ⟨h₁, h₂, h₃, h₄, h₅, h₆, h₇, h₈, h₉, h₁₀, h₁₁, h₁₂⟩
    exact ⟨⟨⟨⟨⟨⟨⟨⟨⟨⟨⟨h₁, h₂⟩, h₃⟩, h₄⟩, h₅⟩, h₆⟩, h₇⟩, h₈⟩, h₉⟩, h₁₀⟩, h₁₁⟩, h₁₂⟩

/-- What passes is sent as it is, and anything else is replaced. -/
theorem enforce_eq_self_iff : (enforce g message decision fees).1 = message ↔
    Passes g message decision fees ∨ message = SAFE_FALLBACK := by
  rw [enforce_fst, ← validate_eq_nil_iff]
  split
  · next hpasses => exact iff_of_true rfl (.inl hpasses)
  · next hnot => rw [or_iff_right hnot, eq_comm]

/-! ## The fallback -/

/-- The guard of a deployment, with the personal data that it looks for. -/
def rules (t : Script) (publicBaseUrl : String) : Rules :=
  ⟨t.toTables, Pii.foundPiiKinds t.toTables, publicBaseUrl⟩

/-- There are no digits in the fallback, and no marks of addresses and links. -/
theorem fallback_chars : ∀ c ∈ SAFE_FALLBACK.toList,
    Printable c ∧ c.isDigit = false ∧ c ≠ ',' ∧ c ≠ ':' ∧ c ≠ '@' :=
  forall_of_all (by decide)

variable {t : Script}

theorem fallback_not_digit {c : Char} (hc : c ∈ SAFE_FALLBACK.toList) : ¬t.isDigit c = true := by
  intro h
  obtain ⟨hprintable, hdigit, -⟩ := fallback_chars c hc
  rw [(t.isDigit_iff c hprintable).mp h] at hdigit
  cases hdigit

theorem fallback_not_figure {c : Char} (hc : c ∈ SAFE_FALLBACK.toList) :
    ¬isFigure t.toTables c = true := by
  rw [isFigure, Bool.or_eq_true, decide_eq_true_eq]
  rintro (h | rfl)
  · exact fallback_not_digit hc h
  · exact (fallback_chars _ hc).2.2.1 rfl

theorem fallback_kinds : Pii.foundPiiKinds t.toTables SAFE_FALLBACK = [] := by
  have hdigit : ∀ c ∈ SAFE_FALLBACK.toList, ¬t.isDigit c = true := fun c => fallback_not_digit
  rw [Pii.foundPiiKinds, List.map_eq_nil_iff, List.filter_eq_nil_iff]
  intro kind hkind
  suffices h : occurs kind.2 SAFE_FALLBACK.toList = false by
    rw [h, Bool.and_false]
    exact Bool.false_ne_true
  simp only [Pii.KINDS, List.mem_cons, List.not_mem_nil, or_false] at hkind
  rcases hkind with rfl | rfl | rfl | rfl | rfl
  · exact occurs_finder_eq_false (.inr (.inl (.inl fun c h => h))) hdigit
  · refine occurs_finder_eq_false (P := (· = '@')) (.inr (.inr (.inl (.inl ?_)))) ?_
    · exact fun c hc => eq_of_beq hc
    · exact fun c hc => (fallback_chars c hc).2.2.2.2
  · exact occurs_finder_eq_false (.inr (.inr (.inl (.inl fun c h => h)))) hdigit
  · exact occurs_eq_false (.inr (.inr (.inl (.inl (.inr fun c h => h))))) hdigit
  · refine occurs_finder_eq_false (P := (· = ':')) (.inr (.inr (.inl (.inl ?_)))) ?_
    · exact fun c hc => eq_of_beq hc
    · exact fun c hc => (fallback_chars c hc).2.2.2.1

/-- White space at its ends or not, the fallback is long enough. -/
theorem fallback_long : MIN_MESSAGE_CHARS ≤ (strip t.toTables SAFE_FALLBACK).length := by
  have hword : ∀ c ∈ "coordinators".toList, Printable c ∧ c ≠ ' ' := forall_of_all (by decide)
  have hin : "coordinators".toList <:+: (strip t.toTables SAFE_FALLBACK).toList :=
    (infix_strip_iff (by decide) fun c hc => t.plain.not_space (hword c hc)).mpr (by decide)
  exact (show MIN_MESSAGE_CHARS ≤ "coordinators".toList.length by decide).trans hin.length_le

theorem fallback_lower : t.lower SAFE_FALLBACK =
    String.ofList (SAFE_FALLBACK.toList.map Char.toLower) :=
  t.plain.lower SAFE_FALLBACK fun c hc => (fallback_chars c hc).1

set_option maxRecDepth 20000 in
/-- No marker is in the fallback. -/
theorem fallback_unmarked : ∀ markers ∈ [LEAK_MARKERS, PROMPT_MARKERS, INTERNAL_MARKERS,
    FORBIDDEN_CLAIM_MARKERS, UNSUPPORTED_SUPERLATIVES],
    containsAny (String.ofList (SAFE_FALLBACK.toList.map Char.toLower)) markers = false :=
  forall_of_all (by decide)

theorem amounts_fallback : amounts t.toTables SAFE_FALLBACK = [] := by
  rw [List.eq_nil_iff_forall_not_mem]
  intro x hx
  obtain ⟨w, ⟨a, b, after, hs, m, blanks, hb, -, -, hw⟩, -⟩ := mem_amounts_iff.mp hx
  obtain ⟨c, cs, rfl⟩ := List.exists_cons_of_ne_nil hw.ne_nil
  refine fallback_not_figure ?_ (hw.all c List.mem_cons_self)
  rw [hs, hb]
  simp

theorem links_fallback : links t.toTables SAFE_FALLBACK = [] := by
  have hneeds : (url t.toTables).Needs (· = ':') :=
    .inr (.inr (.inl (.inl fun c hc => eq_of_beq hc)))
  rw [links, Re.findall_eq_nil hneeds fun c hc => (fallback_chars c hc).2.2.2.1]
  rfl

/-- **The fallback passes**, unless an id of a candidate is in it. -/
theorem fallback_passes {publicBaseUrl : String}
    (h : (decision.any fun d => namesCandidate t.toTables d SAFE_FALLBACK) = false) :
    Passes (rules t publicBaseUrl) SAFE_FALLBACK decision fees := by
  have hlower : (rules t publicBaseUrl).t.lower SAFE_FALLBACK =
      String.ofList (SAFE_FALLBACK.toList.map Char.toLower) := fallback_lower
  have hnone (markers : List String) (hmarkers : markers ∈ [LEAK_MARKERS, PROMPT_MARKERS,
      INTERNAL_MARKERS, FORBIDDEN_CLAIM_MARKERS, UNSUPPORTED_SUPERLATIVES]) :
      containsAny ((rules t publicBaseUrl).t.lower SAFE_FALLBACK) markers = false := by
    rw [hlower]
    exact fallback_unmarked markers hmarkers
  have hamounts : amounts (rules t publicBaseUrl).t SAFE_FALLBACK = [] := amounts_fallback
  have hlinks : links (rules t publicBaseUrl).t SAFE_FALLBACK = [] := links_fallback
  have hkinds : (rules t publicBaseUrl).foundPiiKinds SAFE_FALLBACK = [] := fallback_kinds
  exact {
    short := by decide
    long := fallback_long
    noControl := by decide
    noPii := by rw [hkinds]; rfl
    noError := hnone _ (by simp)
    noPrompt := hnone _ (by simp)
    noInternal := hnone _ (by simp)
    noGuarantee := hnone _ (by simp)
    noSuperlative := hnone _ (by simp)
    links := by
      rw [hlinks]
      exact fun link hlink => absurd hlink List.not_mem_nil
    noCandidate := h
    fees := by rw [unauthorisedFees, hamounts]; rfl }

/-! ## What leaves -/

/-- **Nothing unauthorised leaves**: a message that is sent as it is has only amounts of authorised
labels and, with a decision, only links of its shortlist; any other is replaced by the fallback, and
the fallback passes itself. -/
structure Guarded (t : Script) (publicBaseUrl message : String) (decision : Option MatchDecision)
    (fees : List String) : Prop where
  amounts : (enforce (rules t publicBaseUrl) message decision fees).1 = message →
    ∀ w, Written t.toTables message.toList w → Authorised t.toTables decision fees w
  links : (enforce (rules t publicBaseUrl) message decision fees).1 = message →
    ∀ d ∈ decision, ∀ u, Link t.toTables message.toList u →
      clean u ∈ d.shortlist.map (·.profileUrl)
  replaced : (enforce (rules t publicBaseUrl) message decision fees).1 ≠ message →
    (enforce (rules t publicBaseUrl) message decision fees).1 = SAFE_FALLBACK
  fallback : validate (rules t publicBaseUrl) SAFE_FALLBACK decision fees = []

/-- Marked amounts of what passes are authorised. -/
theorem authorised_of_marked {publicBaseUrl : String} {w : List Char}
    (h : Passes (rules t publicBaseUrl) message decision fees)
    (hw : Marked t.toTables message.toList w) : Authorised t.toTables decision fees w := by
  have hmem : worth w ∈ amounts t.toTables message := mem_amounts_iff.mpr ⟨w, hw, rfl⟩
  have hall := List.filter_eq_nil_iff.mp h.fees (worth w) hmem
  rw [decide_eq_true_eq, not_not] at hall
  obtain ⟨label, hlabel, hamount⟩ := List.mem_flatMap.mp hall
  obtain ⟨w', hw', hworth⟩ := mem_amounts_iff.mp hamount
  exact ⟨label, hlabel, w', .inl hw', hworth⟩

/-- Links of what passes are in the shortlist. -/
theorem link_shortlisted {publicBaseUrl : String} {u : List Char} {d : MatchDecision}
    (h : Passes (rules t publicBaseUrl) message (some d) fees)
    (hu : Link t.toTables message.toList u) : clean u ∈ d.shortlist.map (·.profileUrl) := by
  have hnone := h.links (clean u) (mem_links hu)
  unfold linkViolations at hnone
  split at hnone
  · cases hnone
  · dsimp only at hnone
    split at hnone
    · assumption
    · cases hnone

/-- **When nothing unauthorised leaves**: exactly if, in a message that passes every check, the second
amounts of ranges and the amounts of rupees are authorised, and no id of a candidate is in the
fallback. -/
theorem guarded_iff (t : Script) (publicBaseUrl message : String) (decision : Option MatchDecision)
    (fees : List String) : Guarded t publicBaseUrl message decision fees ↔
      (Passes (rules t publicBaseUrl) message decision fees → ∀ w,
        InRange t.toTables message.toList w ∨ InRupees t.toTables message.toList w →
          Authorised t.toTables decision fees w) ∧
      (decision.any fun d => namesCandidate t.toTables d SAFE_FALLBACK) = false := by
  constructor
  · intro h
    refine ⟨fun hpasses w hw => h.amounts (enforce_eq_self_iff.mpr (.inl hpasses)) w (.inr hw), ?_⟩
    exact (validate_eq_nil_iff.mp h.fallback).noCandidate
  · rintro ⟨hunmarked, hcandidate⟩
    have hfallback : Passes (rules t publicBaseUrl) SAFE_FALLBACK decision fees :=
      fallback_passes hcandidate
    have hpasses (hself : (enforce (rules t publicBaseUrl) message decision fees).1 = message) :
        Passes (rules t publicBaseUrl) message decision fees := by
      rcases enforce_eq_self_iff.mp hself with hpasses | rfl
      · exact hpasses
      · exact hfallback
    refine ⟨fun hself w hw => ?_, fun hself d hd u hu => ?_, fun hself => ?_,
      validate_eq_nil_iff.mpr hfallback⟩
    · rcases hw with hw | hw
      · exact authorised_of_marked (hpasses hself) hw
      · exact hunmarked (hpasses hself) w hw
    · obtain rfl := Option.mem_def.mp hd
      exact link_shortlisted (hpasses hself) hu
    · rw [enforce_fst] at hself ⊢
      split at hself
      · exact absurd rfl hself
      · next hnot => rw [if_neg hnot]

theorem isDigit_ascii (c : Char) (_ : Printable c) :
    ascii.isDigit c = true ↔ c.isDigit = true := Iff.rfl

/-- On ASCII. -/
def asciiScript : Script where
  toTables := ascii
  plain := plain_ascii
  isDigit_iff := isDigit_ascii
  isSpace_of_isDigit c hc := by
    rw [Bool.eq_false_iff]
    intro hspace
    have hmem : c ∈ [' ', '\t', '\n', '\r', '\x0b', '\x0c'] := of_decide_eq_true hspace
    have hnot : ∀ d ∈ [' ', '\t', '\n', '\r', '\x0b', '\x0c'], ¬d.isDigit = true :=
      forall_of_all (by decide)
    exact hnot c hmem hc
  mark := forall_of_all (by decide)

def publicSite : String := "https://www.nxtutors.com"

/-- **An amount of rupees leaves** that nothing authorises. -/
theorem rupees_leave :
    ¬Guarded asciiScript publicSite "The fee is 900 rupees a month." none [] := by
  intro h
  have hself : (enforce (rules asciiScript publicSite) "The fee is 900 rupees a month." none []).1 =
      "The fee is 900 rupees a month." := by
    rw [enforce_fst]
    exact if_pos (by decide)
  have hwritten : InRupees asciiScript.toTables "The fee is 900 rupees a month.".toList
      "900".toList := by
    refine ⟨"The fee is ".toList, [' '], "rupees".toList, " a month.".toList, by decide, by decide,
      ⟨by decide, forall_of_all (by decide), by decide⟩, forall_of_all (by decide), ?_⟩
    exact .cons (.inl rfl) (.cons (.inl rfl) (.cons (.inl rfl) (.cons (.inl rfl)
      (.cons (.inl rfl) (.cons (.inl rfl) .nil)))))
  obtain ⟨label, hlabel, -⟩ := h.amounts hself _ (.inr (.inr hwritten))
  cases hlabel

end NxTutors.MatchAgent.OutputGuard
