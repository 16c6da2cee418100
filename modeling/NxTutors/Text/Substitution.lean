import NxTutors.Text.Regex
import NxTutors.Text.Segments

/-!
# Replacing what is found

A text is gone through once, from left to right: what is found at a position is replaced, and the
search goes on behind it. So what is put in is not searched again, nor is what comes to stand
together where something was taken out.

A word is found in the result only where it was in the text, unless it takes up some of what was put
in (`Substituted.occurred`); and what is found wherever it stands is not in the result at all
(`Substituted.not_occurs`).
-/

namespace Text

/-- How many characters are found at a position, by the character before it and the text ahead. -/
abbrev Finder := Option Char → List Char → Option Nat

/-- A pattern, at the first way it matches. -/
def Re.finder (t : Tables) (a : Re) : Finder := fun before rest =>
  (a.run t some ⟨before, rest, fun _ => none⟩).map fun end' => rest.length - end'.rest.length

/-- `re.subn`, of what is never empty: the text, and how often something was replaced. So many
characters are passed over first. -/
def subnFrom (find : Finder) (new : List Char) : Nat → Option Char → List Char → List Char × Nat
  | _, _, [] => ([], 0)
  | n + 1, _, c :: cs => subnFrom find new n (some c) cs
  | 0, before, c :: cs =>
    match find before (c :: cs) with
    | some (k + 1) =>
      let later := subnFrom find new k (some c) cs
      (new ++ later.1, later.2 + 1)
    | _ =>
      let later := subnFrom find new 0 (some c) cs
      (c :: later.1, later.2)

def subn (find : Finder) (new : List Char) (s : List Char) : List Char × Nat :=
  subnFrom find new 0 none s

/-- **One pass over a text**: what is found is replaced, and anything else is kept. -/
inductive Substituted (find : Finder) (new : List Char) :
    Option Char → List Char → List Char → Nat → Prop
  /-- the end of the text -/
  | nil (before : Option Char) : Substituted find new before [] [] 0
  /-- nothing is found here -/
  | keep {before : Option Char} {c : Char} {cs out : List Char} {n : Nat}
    (hnone : ∀ k, find before (c :: cs) ≠ some (k + 1))
    (hlater : Substituted find new (some c) cs out n) :
    Substituted find new before (c :: cs) (c :: out) n
  /-- something is found here -/
  | found {before after : Option Char} {c : Char} {cs out : List Char} {n k : Nat}
    (hfound : find before (c :: cs) = some (k + 1))
    (hlater : Substituted find new after (cs.drop k) out n) :
    Substituted find new before (c :: cs) (new ++ out) (n + 1)

section

variable {find : Finder} {new s out m : List Char} {before : Option Char} {n : Nat}

theorem substituted_subnFrom (skip : Nat) (before : Option Char) (s : List Char) :
    ∃ after, (skip = 0 → after = before) ∧ Substituted find new after (s.drop skip)
      (subnFrom find new skip before s).1 (subnFrom find new skip before s).2 := by
  induction s generalizing skip before with
  | nil =>
    refine ⟨before, fun _ => rfl, ?_⟩
    rw [List.drop_nil, subnFrom]
    exact .nil before
  | cons c cs ih =>
    cases skip with
    | succ skip =>
      obtain ⟨after, -, hafter⟩ := ih skip (some c)
      exact ⟨after, nofun, hafter⟩
    | zero =>
      refine ⟨before, fun _ => rfl, ?_⟩
      obtain ⟨after, hsame, hkept⟩ := ih 0 (some c)
      obtain rfl := hsame rfl
      rw [List.drop_zero] at hkept ⊢
      unfold subnFrom
      split
      · rename_i k hfound
        obtain ⟨after, -, hlater⟩ := ih k (some c)
        exact .found hfound hlater
      · rename_i hnone
        exact .keep hnone hkept

theorem substituted_subn (find : Finder) (new s : List Char) :
    Substituted find new none s (subn find new s).1 (subn find new s).2 := by
  obtain ⟨after, hsame, h⟩ := @substituted_subnFrom find new 0 none s
  rw [hsame rfl] at h
  exact h

/-- What is left over is a part of the text, or was put in. -/
theorem Substituted.mem (h : Substituted find new before s out n) {c : Char} (hc : c ∈ out) :
    c ∈ s ∨ c ∈ new := by
  induction h with
  | nil => exact .inl hc
  | keep _ _ ih =>
    rcases List.mem_cons.mp hc with rfl | hc
    · exact .inl List.mem_cons_self
    · exact (ih hc).imp_left (List.mem_cons_of_mem _)
  | found _ _ ih =>
    rcases List.mem_append.mp hc with hc | hc
    · exact .inr hc
    · exact (ih hc).imp_left fun hc => List.mem_cons_of_mem _ (List.mem_of_mem_drop hc)

/-- Where nothing is replaced the text stays what it is. -/
theorem Substituted.eq_of_zero (h : Substituted find new before s out 0) : out = s := by
  generalize hn : 0 = n at h
  induction h with
  | nil => rfl
  | keep _ _ ih => rw [ih hn]
  | found => cases hn

/-- A word that takes up nothing of what is put in. -/
structure Aloof (m new : List Char) : Prop where
  ne_nil : m ≠ []
  begins : ∀ c ∈ m, ∀ rest, c :: rest ≠ new
  put_in : new ≠ []
  inside : ∀ out, m <:+: new ++ out → m <:+: out

/-- What the result begins with, the text began with. -/
theorem Substituted.prefix_of_prefix (h : Substituted find new before s out n) (hnew : new ≠ [])
    (hm : ∀ c ∈ m, ∀ rest, c :: rest ≠ new) (hpre : m <+: out) : m <+: s := by
  induction h generalizing m with
  | nil => exact hpre
  | keep hnone hlater ih =>
    cases m with
    | nil => exact List.nil_prefix
    | cons d m =>
      obtain ⟨hd, hpre⟩ := List.cons_prefix_cons.mp hpre
      exact List.cons_prefix_cons.mpr
        ⟨hd, ih (fun c hc => hm c (List.mem_cons_of_mem _ hc)) hpre⟩
  | found _ _ _ =>
    cases m with
    | nil => exact List.nil_prefix
    | cons d m =>
      cases new with
      | nil => exact absurd rfl hnew
      | cons e new =>
        obtain ⟨rfl, -⟩ := List.cons_prefix_cons.mp hpre
        exact absurd rfl (hm d List.mem_cons_self new)

/-- **What is in the result was in the text**, unless it takes up some of what was put in. -/
theorem Substituted.occurred (h : Substituted find new before s out n) (hm : Aloof m new)
    (hin : m <:+: out) : m <:+: s := by
  induction h with
  | nil => exact hin
  | @keep before c cs out n hnone hlater ih =>
    rcases List.infix_cons_iff.mp hin with hpre | hin
    · have hall : Substituted find new before (c :: cs) (c :: out) n := .keep hnone hlater
      exact (hall.prefix_of_prefix hm.put_in hm.begins hpre).isInfix
    · exact List.infix_cons (ih hin)
  | @found _ _ c cs out n k hfound hlater ih =>
    exact List.infix_cons ((ih (hm.inside _ hin)).trans (List.drop_suffix k cs).isInfix)

/-- **What is found wherever it stands is not in the result.** -/
theorem Substituted.not_occurs (h : Substituted find new before s out n) (hm : Aloof m new)
    (hfind : ∀ before rest, m <+: rest → ∃ k, find before rest = some (k + 1)) : ¬m <:+: out := by
  induction h with
  | nil => exact fun hin => hm.ne_nil (List.infix_nil.mp hin)
  | @keep before c cs out n hnone hlater ih =>
    intro hin
    rcases List.infix_cons_iff.mp hin with hpre | hin
    · have hall : Substituted find new before (c :: cs) (c :: out) n := .keep hnone hlater
      obtain ⟨k, hk⟩ := hfind before _ (hall.prefix_of_prefix hm.put_in hm.begins hpre)
      exact hnone k hk
    · exact ih hin
  | found hfound hlater ih => exact fun hin => ih (hm.inside _ hin)

/-- A word without any character that is found stays where it is. -/
theorem Substituted.prefix_mono (h : Substituted find new before s out n)
    (hfind : ∀ before c cs k, find before (c :: cs) = some (k + 1) →
      ∀ d ∈ c :: cs.take k, d ∉ m) (hpre : m <+: s) : m <+: out := by
  induction h generalizing m with
  | nil => exact hpre
  | keep hnone hlater ih =>
    cases m with
    | nil => exact List.nil_prefix
    | cons d m =>
      obtain ⟨hd, hpre⟩ := List.cons_prefix_cons.mp hpre
      exact List.cons_prefix_cons.mpr ⟨hd, ih (fun before c cs k hk e he hm =>
        hfind before c cs k hk e he (List.mem_cons_of_mem _ hm)) hpre⟩
  | found hfound _ _ =>
    cases m with
    | nil => exact List.nil_prefix
    | cons d m =>
      obtain ⟨rfl, -⟩ := List.cons_prefix_cons.mp hpre
      exact absurd List.mem_cons_self (hfind _ _ _ _ hfound d List.mem_cons_self)

theorem Substituted.infix_mono (h : Substituted find new before s out n)
    (hfind : ∀ before c cs k, find before (c :: cs) = some (k + 1) →
      ∀ d ∈ c :: cs.take k, d ∉ m) (hin : m <:+: s) : m <:+: out := by
  induction h with
  | nil => exact hin
  | keep hnone hlater ih =>
    rcases List.infix_cons_iff.mp hin with hpre | hin
    · exact ((Substituted.keep hnone hlater).prefix_mono hfind hpre).isInfix
    · exact List.infix_cons (ih hin)
  | @found _ _ c cs out n k hfound hlater ih =>
    have hfree := hfind _ _ _ _ hfound
    rw [← List.take_append_drop k cs, ← List.cons_append, infix_append_iff] at hin
    rcases hin with hin | hin | ⟨a, b, ha, -, rfl, hsuf, -⟩
    · cases m with
      | nil => exact List.nil_infix
      | cons d m => exact absurd List.mem_cons_self (hfree d (hin.subset List.mem_cons_self))
    · exact (ih hin).trans (List.suffix_append _ _).isInfix
    · obtain ⟨d, hd⟩ := List.exists_mem_of_ne_nil a ha
      exact absurd (List.mem_append_left _ hd) (hfree d (hsuf.subset hd))

/-! ## Taking a word out -/

variable {w : List Char}

/-- A word is found where it stands. -/
def literal (w : List Char) : Finder := fun _ rest =>
  if w.isPrefixOf rest then some w.length else none

/-- `s.replace(w, "")`. -/
def remove (w s : List Char) : List Char := (subn (literal w) [] s).1

theorem subnFrom_literal (skip : Nat) (before : Option Char) (s : List Char) :
    (subnFrom (literal w) [] skip before s).1 = remove w (s.drop skip) := by
  induction s generalizing skip before with
  | nil =>
    rw [List.drop_nil, subnFrom]
    rfl
  | cons c cs ih =>
    cases skip with
    | zero => rfl
    | succ skip => exact ih skip (some c)

@[simp] theorem remove_nil : remove w [] = [] := rfl

/-- A word that stands at the front is taken out. -/
theorem remove_append (hw : w ≠ []) (s : List Char) : remove w (w ++ s) = remove w s := by
  cases w with
  | nil => exact absurd rfl hw
  | cons c w =>
    have hpre : (c :: w).isPrefixOf (c :: (w ++ s)) = true :=
      List.isPrefixOf_iff_prefix.mpr (List.prefix_append (c :: w) s)
    have hfound : literal (c :: w) none (c :: (w ++ s)) = some (w.length + 1) := if_pos hpre
    rw [List.cons_append, remove, subn, subnFrom, hfound]
    dsimp only
    rw [List.nil_append, subnFrom_literal, List.drop_left]

theorem remove_cons {c : Char} {cs : List Char} (h : ¬w <+: c :: cs) :
    remove w (c :: cs) = c :: remove w cs := by
  have hnone : literal w none (c :: cs) = none := by
    rw [literal, if_neg fun hpre => h (List.isPrefixOf_iff_prefix.mp hpre)]
  rw [remove, subn, subnFrom, hnone]
  dsimp only
  rw [subnFrom_literal, List.drop_zero]

/-- A text begins with the word, or with a character where it does not stand, and so on. -/
theorem remove_induction (hw : w ≠ []) {motive : List Char → Prop} (nil : motive [])
    (whole : ∀ s, motive s → motive (w ++ s))
    (char : ∀ c cs, ¬w <+: c :: cs → motive cs → motive (c :: cs)) (s : List Char) : motive s := by
  induction hn : s.length using Nat.strongRecOn generalizing s with
  | _ n ih =>
    by_cases hpre : w <+: s
    · obtain ⟨later, rfl⟩ := hpre
      have hlen : 0 < w.length := List.length_pos_iff.mpr hw
      rw [List.length_append] at hn
      exact whole later (ih later.length (by omega) later rfl)
    · cases s with
      | nil => exact nil
      | cons c cs =>
        rw [List.length_cons] at hn
        exact char c cs hpre (ih cs.length (by omega) cs rfl)

/-! ## Words in pieces

What is taken out may stand between the pieces of a word, which then come together.
-/

/-- The last of some pieces. -/
def lastPiece (p : List Char) (ps : List (List Char)) : List Char :=
  (p :: ps).getLast (List.cons_ne_nil p ps)

theorem lastPiece_suffix (p : List Char) (ps : List (List Char)) :
    lastPiece p ps <:+ p ++ ps.flatten := by
  rw [← List.flatten_cons, ← List.dropLast_concat_getLast (List.cons_ne_nil p ps),
    List.flatten_append, List.flatten_singleton]
  exact List.suffix_append _ _

theorem lastPiece_mem {p : List Char} {ps : List (List Char)} (hps : ps ≠ []) :
    lastPiece p ps ∈ ps := by
  unfold lastPiece
  rw [List.getLast_cons hps]
  exact List.getLast_mem hps

/-- **A word is spelt** in a text from some position on, up to `b`: its pieces follow each other with
`w` between them, and `w` does not begin in the last of them. -/
structure Spelt (w m : List Char) (p : List Char) (ps : List (List Char)) (b : List Char) :
    Prop where
  word : m = p ++ ps.flatten
  last : lastPiece p ps ≠ []
  kept : ∀ u, u ≠ [] → u <:+ lastPiece p ps → ¬w <+: u ++ b

/-- What the result begins with was spelt at the front, perhaps behind the word itself. -/
theorem spelt_of_prefix (hw : w ≠ []) {s : List Char} {m : List Char} (hm : m ≠ [])
    (hpre : m <+: remove w s) :
    ∃ p ps b, s = p ++ (ps.flatMap (w ++ ·) ++ b) ∧ Spelt w m p ps b := by
  induction s using remove_induction hw generalizing m with
  | nil => exact absurd (List.prefix_nil.mp hpre) hm
  | whole s ih =>
    rw [remove_append hw] at hpre
    obtain ⟨p, ps, b, rfl, h⟩ := ih hm hpre
    refine ⟨[], p :: ps, b, by simp, ?_, ?_, ?_⟩
    · rw [h.word]
      rfl
    · exact h.last
    · exact h.kept
  | char c cs hnot ih =>
    rw [remove_cons hnot] at hpre
    cases m with
    | nil => exact absurd rfl hm
    | cons d m =>
      obtain ⟨hd, htail⟩ := List.cons_prefix_cons.mp hpre
      subst hd
      by_cases hmnil : m = []
      · subst hmnil
        refine ⟨[d], [], cs, rfl, rfl, by simp [lastPiece], fun u hu hsuf => ?_⟩
        obtain rfl : u = [d] := by
          rcases List.suffix_cons_iff.mp hsuf with h | h
          · exact h
          · exact absurd (List.suffix_nil.mp h) hu
        exact hnot
      · obtain ⟨p, ps, b, rfl, h⟩ := ih hmnil htail
        refine ⟨d :: p, ps, b, rfl, by rw [h.word]; rfl, ?_, ?_⟩
        · cases ps with
          | nil => simp [lastPiece]
          | cons q ps => exact h.last
        · cases ps with
          | nil =>
            intro u hu hsuf
            rcases List.suffix_cons_iff.mp hsuf with rfl | hsuf
            · exact hnot
            · exact h.kept u hu hsuf
          | cons q ps => exact h.kept

/-- **What is in the result was spelt in the text.** -/
theorem spelt_of_infix (hw : w ≠ []) {s m : List Char} (hm : m ≠ []) (hin : m <:+: remove w s) :
    ∃ a p ps b, s = a ++ (p ++ (ps.flatMap (w ++ ·) ++ b)) ∧ p ≠ [] ∧ Spelt w m p ps b := by
  induction s using remove_induction hw with
  | nil => exact absurd (List.infix_nil.mp hin) hm
  | whole s ih =>
    rw [remove_append hw] at hin
    obtain ⟨a, p, ps, b, rfl, hp, h⟩ := ih hin
    exact ⟨w ++ a, p, ps, b, by simp, hp, h⟩
  | char c cs hnot ih =>
    rw [remove_cons hnot] at hin
    rcases List.infix_cons_iff.mp hin with hpre | hin
    · rw [← remove_cons hnot] at hpre
      obtain ⟨p, ps, b, hs, h⟩ := spelt_of_prefix hw hm hpre
      refine ⟨[], p, ps, b, hs, ?_, h⟩
      rintro rfl
      -- without a first piece the text would begin with the word
      cases ps with
      | nil => exact h.last rfl
      | cons q ps => exact hnot ⟨q ++ (ps.flatMap (w ++ ·) ++ b), by simp [hs]⟩
    · obtain ⟨a, p, ps, b, rfl, hp, h⟩ := ih hin
      exact ⟨c :: a, p, ps, b, rfl, hp, h⟩

/-! ## Words that do not overlap -/

/-- **No end of `w` is its beginning**, but the whole. -/
def BorderFree (w : List Char) : Prop := ∀ q, q ≠ [] → q <+: w → q <:+ w → q = w

/-- What runs over the end of a text begins with a part of it. -/
theorem prefix_append_cases {w r b : List Char} (h : w <+: r ++ b) :
    w <+: r ∨ ∃ q, q ≠ [] ∧ w = r ++ q ∧ q <+: b := by
  obtain ⟨later, h⟩ := h
  rcases List.append_eq_append_iff.mp h with ⟨q, hr, -⟩ | ⟨q, hw, hb⟩
  · exact .inl ⟨q, hr.symm⟩
  · by_cases hnil : q = []
    · subst hnil
      exact .inl ⟨[], by rw [hw, List.append_nil, List.append_nil]⟩
    · exact .inr ⟨q, hnil, hw, later, hb.symm⟩

/-- Each place where the word stands is taken out by itself. -/
theorem remove_at (hw : w ≠ []) (hfree : BorderFree w) (a b : List Char) :
    remove w (a ++ (w ++ b)) = remove w a ++ remove w b := by
  induction a using remove_induction hw with
  | nil => rw [List.nil_append, remove_append hw, remove_nil, List.nil_append]
  | whole a ih => rw [List.append_assoc, remove_append hw, remove_append hw, ih]
  | char c cs hnot ih =>
    have hnot' : ¬w <+: c :: (cs ++ (w ++ b)) := by
      intro hpre
      rcases prefix_append_cases (r := c :: cs) hpre with hpre | ⟨q, hq, hsplit, hpre⟩
      · exact hnot hpre
      · have hlen : q.length < w.length := by
          rw [hsplit, List.length_append]
          simp
        have hqw : q = w := by
          refine hfree q hq ?_ ⟨c :: cs, hsplit.symm⟩
          exact List.prefix_of_prefix_length_le hpre (List.prefix_append w b) hlen.le
        exact absurd (congrArg List.length hqw) hlen.ne
    rw [List.cons_append, remove_cons hnot', remove_cons hnot, ih, List.cons_append]

/-- A piece in which the word does not begin is kept. -/
theorem remove_kept {r b : List Char} (hkept : ∀ u, u ≠ [] → u <:+ r → ¬w <+: u ++ b) :
    remove w (r ++ b) = r ++ remove w b := by
  induction r with
  | nil => rfl
  | cons c r ih =>
    have hnot : ¬w <+: c :: (r ++ b) := hkept (c :: r) (by simp) (List.suffix_refl _)
    rw [List.cons_append, remove_cons hnot,
      ih fun u hu hsuf => hkept u hu (hsuf.trans (List.suffix_cons _ _)), List.cons_append]

/-- A piece into which the word does not run either. -/
theorem remove_between (hw : w ≠ []) {r b : List Char}
    (hover : ∀ q, q ≠ [] → q <:+ w → ¬q <+: r ++ b)
    (hkept : ∀ u, u ≠ [] → u <:+ r → ¬w <+: u ++ b) (a : List Char) :
    remove w (a ++ (r ++ b)) = remove w a ++ (r ++ remove w b) := by
  induction a using remove_induction hw with
  | nil => rw [List.nil_append, remove_kept hkept, remove_nil, List.nil_append]
  | whole a ih => rw [List.append_assoc, remove_append hw, remove_append hw, ih]
  | char c cs hnot ih =>
    have hnot' : ¬w <+: c :: (cs ++ (r ++ b)) := by
      intro hpre
      rcases prefix_append_cases (r := c :: cs) hpre with hpre | ⟨q, hq, hsplit, hpre⟩
      · exact hnot hpre
      · exact hover q hq ⟨c :: cs, hsplit.symm⟩ hpre
    rw [List.cons_append, remove_cons hnot', remove_cons hnot, ih, List.cons_append]

/-- A text where the word does not stand stays what it is. -/
theorem remove_of_absent {r : List Char} (hnot : ¬w <:+: r) : remove w r = r := by
  have hkept : ∀ u, u ≠ [] → u <:+ r → ¬w <+: u ++ [] := by
    intro u _ hsuf hpre
    rw [List.append_nil] at hpre
    exact hnot (hpre.isInfix.trans hsuf.isInfix)
  have h := remove_kept hkept
  rwa [List.append_nil, remove_nil, List.append_nil] at h

/-- Pieces, each with the word in front of it, come together. -/
theorem remove_pieces (hw : w ≠ []) (hfree : BorderFree w) {p b : List Char}
    {ps : List (List Char)} (hpieces : ∀ q ∈ p :: ps, ¬w <:+: q)
    (hkept : ∀ u, u ≠ [] → u <:+ lastPiece p ps → ¬w <+: u ++ b) :
    remove w (p ++ (ps.flatMap (w ++ ·) ++ b)) = p ++ (ps.flatten ++ remove w b) := by
  induction ps generalizing p with
  | nil => exact remove_kept hkept
  | cons q ps ih =>
    have hp : remove w p = p := remove_of_absent (hpieces p List.mem_cons_self)
    have hrest := ih (p := q) (fun r hr => hpieces r (List.mem_cons_of_mem _ hr)) hkept
    rw [List.flatMap_cons, List.append_assoc, List.append_assoc, remove_at hw hfree, hp, hrest,
      List.flatten_cons, List.append_assoc]

/-- **Another word**, or the same: one is in the other only if they are the same, and only then does
`w` end as `m` begins. -/
structure Foreign (w m : List Char) : Prop where
  ends : ∀ q, q ≠ [] → q <:+ w → q <+: m → q = w
  inside : w <:+: m → m = w
  outside : m <:+: w → m = w

theorem length_piece_lt {m p b : List Char} {ps : List (List Char)} (h : Spelt w m p ps b)
    (hp : p ≠ []) (hps : ps ≠ []) : ∀ q ∈ p :: ps, q.length < m.length := by
  have hfirst : 0 < p.length := List.length_pos_iff.mpr hp
  have hlast : 0 < (lastPiece p ps).length := List.length_pos_iff.mpr h.last
  have hword : m.length = p.length + ps.flatten.length := by rw [h.word, List.length_append]
  have hin : ∀ q ∈ ps, q.length ≤ ps.flatten.length := fun q hq =>
    (List.sublist_flatten_of_mem hq).length_le
  intro q hq
  rcases List.mem_cons.mp hq with rfl | hq
  · have := hin _ (lastPiece_mem (p := q) hps)
    omega
  · have := hin q hq
    omega

/-- **What is spelt in the text is in the result.** -/
theorem infix_of_spelt (hw : w ≠ []) (hfree : BorderFree w) {m : List Char} (hm : Foreign w m)
    {p b : List Char} {ps : List (List Char)} (hp : p ≠ []) (h : Spelt w m p ps b)
    (a : List Char) : m <:+: remove w (a ++ (p ++ (ps.flatMap (w ++ ·) ++ b))) := by
  cases ps with
  | nil =>
    obtain rfl : m = p := by rw [h.word, List.flatten_nil, List.append_nil]
    have hne : m ≠ w := by
      rintro rfl
      exact h.kept m hp (List.suffix_refl _) (List.prefix_append m b)
    have hover : ∀ q, q ≠ [] → q <:+ w → ¬q <+: m ++ b := by
      intro q hq hsuf hpre
      rcases prefix_append_cases hpre with hpre | ⟨r, -, rfl, -⟩
      · obtain rfl := hm.ends q hq hsuf hpre
        exact hne (hm.inside hpre.isInfix)
      · exact hne (hm.outside ((List.prefix_append m r).isInfix.trans hsuf.isInfix))
    rw [List.flatMap_nil, List.nil_append, remove_between hw hover h.kept]
    exact ⟨remove w a, remove w b, by simp⟩
  | cons q ps =>
    have hlen := length_piece_lt h hp (List.cons_ne_nil q ps)
    have hnot : ∀ r ∈ p :: q :: ps, ¬w <:+: r := by
      intro r hr hin
      have hshort := hlen r hr
      have hinword : w <:+: m := by
        rw [h.word, ← List.flatten_cons]
        exact hin.trans (List.infix_of_mem_flatten hr)
      rw [hm.inside hinword] at hshort
      exact absurd hin.length_le (not_le.mpr hshort)
    have hfront : remove w (a ++ p) = remove w a ++ p := by
      have hover : ∀ r, r ≠ [] → r <:+ w → ¬r <+: p ++ [] := by
        intro r hr hsuf hpre
        rw [List.append_nil] at hpre
        have hpre' : r <+: m := hpre.trans ⟨_, h.word.symm⟩
        obtain rfl := hm.ends r hr hsuf hpre'
        exact hnot p List.mem_cons_self hpre.isInfix
      have hkept : ∀ u, u ≠ [] → u <:+ p → ¬w <+: u ++ [] := by
        intro u _ hsuf hpre
        rw [List.append_nil] at hpre
        exact hnot p List.mem_cons_self (hpre.isInfix.trans hsuf.isInfix)
      have hbetween := remove_between hw hover hkept a
      rwa [List.append_nil, remove_nil, List.append_nil] at hbetween
    have hrest := @remove_pieces w hw hfree q b ps
      (fun r hr => hnot r (List.mem_cons_of_mem _ hr)) h.kept
    rw [List.flatMap_cons, ← List.append_assoc a p, List.append_assoc w, List.append_assoc w,
      List.append_assoc q, remove_at hw hfree, hfront, hrest, h.word]
    exact ⟨remove w a, remove w b, by simp⟩

/-! ## The word itself

What is left of the word itself after it was taken out was in pieces.
-/

/-- **A word stands in pieces** in a text, with the same word between any two of them. -/
def InPieces (w s : List Char) : Prop :=
  ∃ a p ps b, p ≠ [] ∧ ps ≠ [] ∧ lastPiece p ps ≠ [] ∧ w = p ++ ps.flatten
    ∧ s = a ++ (p ++ (ps.flatMap (w ++ ·) ++ b))

theorem foreign_self (hfree : BorderFree w) : Foreign w w where
  ends q hq hsuf hpre := hfree q hq hpre hsuf
  inside _ := rfl
  outside _ := rfl

/-- **When a word is still there after it was taken out.** -/
theorem infix_remove_self_iff (hw : w ≠ []) (hfree : BorderFree w) {s : List Char} :
    w <:+: remove w s ↔ InPieces w s := by
  constructor
  · intro hin
    obtain ⟨a, p, ps, b, rfl, hp, h⟩ := spelt_of_infix hw hw hin
    refine ⟨a, p, ps, b, hp, ?_, h.last, h.word, rfl⟩
    rintro rfl
    -- in one piece it would have been taken out
    obtain rfl : w = p := by simpa using h.word
    exact h.kept w hw (List.suffix_refl _) (List.prefix_append w b)
  · rintro ⟨a, p, ps, b, hp, hps, hlast, hword, rfl⟩
    refine infix_of_spelt hw hfree (foreign_self hfree) hp ⟨hword, hlast, fun u hu hsuf hpre => ?_⟩ a
    -- the last piece is short, so that the word would begin as it ends
    have hfirst : 0 < p.length := List.length_pos_iff.mpr hp
    have hlen : u.length < w.length := by
      have hlength := congrArg List.length hword
      rw [List.length_append] at hlength
      have := (List.sublist_flatten_of_mem (lastPiece_mem (p := p) hps)).length_le
      have := hsuf.length_le
      omega
    have hend : u <:+ w := by
      rw [hword]
      exact hsuf.trans (lastPiece_suffix p ps)
    have hbegin : u <+: w :=
      List.prefix_of_prefix_length_le (List.prefix_append u b) hpre hlen.le
    exact absurd (congrArg List.length (hfree u hu hbegin hend)) hlen.ne

/-! ## Cutting off at the ends -/

theorem infix_dropWhile_iff {p : Char → Bool} {m s : List Char} (hm : m ≠ [])
    (hfree : ∀ c ∈ m, p c = false) : m <:+: s.dropWhile p ↔ m <:+: s := by
  constructor
  · exact fun h => h.trans (List.dropWhile_suffix p).isInfix
  · intro h
    induction s with
    | nil => exact h
    | cons c cs ih =>
      by_cases hc : p c = true
      · rw [List.dropWhile_cons_of_pos hc]
        rcases List.infix_cons_iff.mp h with hpre | hin
        · cases m with
          | nil => exact absurd rfl hm
          | cons d m =>
            obtain ⟨rfl, -⟩ := List.cons_prefix_cons.mp hpre
            rw [hfree d List.mem_cons_self] at hc
            cases hc
        · exact ih hin
      · rwa [List.dropWhile_cons_of_neg hc]

/-- A word without white space is in a text exactly if it is in it without the white space at its
ends. -/
theorem infix_strip_iff {t : Tables} {m : List Char} {s : String} (hm : m ≠ [])
    (hfree : ∀ c ∈ m, t.isSpace c = false) : m <:+: (strip t s).toList ↔ m <:+: s.toList := by
  have hreverse : ∀ c ∈ m.reverse, t.isSpace c = false := fun c hc =>
    hfree c (List.mem_reverse.mp hc)
  rw [strip, String.toList_ofList, ← List.reverse_infix, List.reverse_reverse,
    infix_dropWhile_iff (by simpa using hm) hreverse, List.reverse_infix,
    infix_dropWhile_iff hm hfree]

/-! ## Marks at the end -/

/-- **A text ends with a mark** that is nowhere else in it. -/
structure EndsOnce (mark s : List Char) : Prop where
  ends : mark <:+ s
  once : ∀ a b, s = a ++ (mark ++ b) → b = []

/-- A word does not run over a character that is not in it. -/
theorem infix_line_iff {z : Char} {m x y : List Char} (hm : m ≠ []) (hline : z ∉ m) :
    m <:+: x ++ z :: y ↔ m <:+: x ∨ m <:+: y := by
  have hbegin : ∀ b, b ≠ [] → z ∉ b → ¬b <+: z :: y := by
    intro b hb hfree hpre
    cases b with
    | nil => exact hb rfl
    | cons c b =>
      obtain ⟨rfl, -⟩ := List.cons_prefix_cons.mp hpre
      exact hfree List.mem_cons_self
  rw [infix_append_iff, List.infix_cons_iff]
  constructor
  · rintro (h | (h | h) | ⟨a, b, -, hb, rfl, -, hpre⟩)
    · exact .inl h
    · exact absurd h (hbegin m hm hline)
    · exact .inr h
    · exact absurd hpre (hbegin b hb fun hc => hline (List.mem_append_right _ hc))
  · rintro (h | h)
    · exact .inl h
    · exact .inr (.inl (.inr h))

/-- A word takes up nothing of one character that is not in it. -/
theorem aloof_singleton {z : Char} {m : List Char} (hm : m ≠ []) (hz : z ∉ m) : Aloof m [z] where
  ne_nil := hm
  begins c hc rest heq := hz ((List.cons.inj heq).1 ▸ hc)
  put_in := List.cons_ne_nil _ _
  inside out hin := by
    rw [List.singleton_append, ← List.nil_append (z :: out), infix_line_iff hm hz] at hin
    exact hin.resolve_left fun h => hm (List.infix_nil.mp h)

/-- A word takes up nothing of a text in brackets that are not in it, if it is not in the text. -/
theorem aloof_bracketed {y z : Char} {m inner : List Char} (hm : m ≠ []) (hy : y ∉ m) (hz : z ∉ m)
    (hinner : ¬m <:+: inner) : Aloof m (y :: (inner ++ [z])) where
  ne_nil := hm
  begins c hc rest heq := hy ((List.cons.inj heq).1 ▸ hc)
  put_in := List.cons_ne_nil _ _
  inside out hin := by
    have hsplit : y :: (inner ++ [z]) ++ out = [] ++ y :: (inner ++ z :: out) := by simp
    rw [hsplit, infix_line_iff hm hy, infix_line_iff hm hz] at hin
    rcases hin with h | h | h
    · exact absurd (List.infix_nil.mp h) hm
    · exact absurd h hinner
    · exact h

/-- A mark on a line of its own is nowhere else if it is nowhere before. -/
theorem endsOnce_iff {mark s : List Char} (hmark : mark ≠ []) (hline : '\n' ∉ mark) :
    EndsOnce mark (s ++ '\n' :: mark) ↔ ¬mark <:+: s := by
  constructor
  · rintro h ⟨a, b, rfl⟩
    have hb := h.once a (b ++ '\n' :: mark) (by simp)
    simp at hb
  · intro hnot
    refine ⟨⟨s ++ ['\n'], by simp⟩, fun a b heq => ?_⟩
    rcases List.append_eq_append_iff.mp heq with ⟨m, rfl, hrest⟩ | ⟨m, rfl, hrest⟩
    · -- it begins with the line or behind, where there is room for one only
      have hlen := congrArg List.length hrest
      simp only [List.length_cons, List.length_append] at hlen
      cases m with
      | nil =>
        cases mark with
        | nil => exact absurd rfl hmark
        | cons c mark =>
          obtain ⟨rfl, -⟩ := List.cons.inj hrest
          exact absurd List.mem_cons_self hline
      | cons c m =>
        rw [List.length_cons] at hlen
        exact List.length_eq_zero_iff.mp (by omega)
    · -- it begins before, and cannot run over the end of a line
      rcases prefix_append_cases ⟨b, hrest⟩ with hpre | ⟨q, hq, rfl, hpre⟩
      · exact absurd (hpre.isInfix.trans (List.suffix_append a m).isInfix) hnot
      · cases q with
        | nil => exact absurd rfl hq
        | cons c q =>
          obtain ⟨rfl, -⟩ := List.cons_prefix_cons.mp hpre
          exact absurd (by simp) hline

end

end Text
