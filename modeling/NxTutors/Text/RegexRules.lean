import NxTutors.Text.Regex

/-!
# What patterns match

`Re.run` is a search. What it finds is one of the ways in which the pattern leads from one position
to another (`run_eq_some`), and it finds something if there is a way that the rest of the search
accepts (`isSome_run`). Which of them it finds is a matter of preference: `Prefers` says that it is
this one, as soon as the rest of the search accepts it, and `Fails` that there is none.
-/

namespace Text

namespace Re

/-- **A pattern leads from one position to another**, in one of its ways of matching. -/
def Leads (t : Tables) : Re → Cursor → Cursor → Prop
  | .empty, at', end' => end' = at'
  | .one p, at', end' =>
    ∃ c cs, at'.rest = c :: cs ∧ p c = true ∧ end' = ⟨some c, cs, at'.groups⟩
  | .seq a b, at', end' => ∃ mid, a.Leads t at' mid ∧ b.Leads t mid end'
  | .alt a b, at', end' => a.Leads t at' end' ∨ b.Leads t at' end'
  | .many p, at', end' =>
    ∃ cs, at'.rest = cs ++ end'.rest ∧ (∀ c ∈ cs, p c = true)
      ∧ end' = ⟨cs.getLast?.or at'.before, end'.rest, at'.groups⟩
  | .group n a, at', end' =>
    ∃ mid, a.Leads t at' mid ∧ end' = ⟨mid.before, mid.rest, fun m => if m = n then
      some (at'.rest.take (at'.rest.length - mid.rest.length)) else mid.groups m⟩
  | .boundary, at', end' =>
    (at'.before.any t.isWord != at'.rest.head?.any t.isWord) = true ∧ end' = at'

variable {t : Tables} {β : Type} {a b : Re} {at' mid end' : Cursor}

/-- The last of several characters, if there is one behind the first. -/
theorem getLast?_cons_or {c : Char} {cs : List Char} {before : Option Char} :
    (c :: cs).getLast?.or before = cs.getLast?.or (some c) := by
  cases cs using List.reverseRecOn with
  | nil => rfl
  | append_singleton cs x =>
    rw [← List.cons_append, List.getLast?_concat, List.getLast?_concat]
    rfl

theorem eq_some_of_orElse {x y : Option β} {r : β} (h : (x <|> y) = some r) :
    x = some r ∨ y = some r := by
  cases x with
  | none => exact .inr h
  | some x => exact .inl h

/-! ## What is found -/

theorem runMany_eq_some {p : Char → Bool} {groups : Nat → Option (List Char)}
    {k : Cursor → Option β} {before : Option Char} {rest : List Char} {r : β}
    (h : runMany p groups k before rest = some r) :
    ∃ cs rest', rest = cs ++ rest' ∧ (∀ c ∈ cs, p c = true) ∧
      k ⟨cs.getLast?.or before, rest', groups⟩ = some r := by
  induction rest generalizing before with
  | nil => exact ⟨[], [], rfl, by simp, h⟩
  | cons c cs ih =>
    have hstop (hk : k ⟨before, c :: cs, groups⟩ = some r) : ∃ cs' rest', c :: cs = cs' ++ rest' ∧
        (∀ c ∈ cs', p c = true) ∧ k ⟨cs'.getLast?.or before, rest', groups⟩ = some r :=
      ⟨[], c :: cs, rfl, by simp, hk⟩
    rw [runMany] at h
    split at h
    · rename_i hc
      rcases eq_some_of_orElse h with h | h
      · obtain ⟨cs', rest', rfl, hall, hk⟩ := ih h
        refine ⟨c :: cs', rest', rfl, ?_, ?_⟩
        · intro d hd
          rcases List.mem_cons.mp hd with rfl | hd
          · exact hc
          · exact hall d hd
        · rw [getLast?_cons_or]
          exact hk
      · exact hstop h
    · exact hstop h

/-- **What a search finds is a way of matching** that the rest accepts. -/
theorem run_eq_some {k : Cursor → Option β} {r : β} (h : a.run t k at' = some r) :
    ∃ end', a.Leads t at' end' ∧ k end' = some r := by
  induction a generalizing k at' with
  | empty => exact ⟨at', rfl, h⟩
  | one p =>
    rw [run] at h
    split at h
    · cases h
    · rename_i c cs hrest
      split at h
      · rename_i hc
        exact ⟨_, ⟨c, cs, hrest, hc, rfl⟩, h⟩
      · cases h
  | seq a b iha ihb =>
    obtain ⟨mid, ha, hmid⟩ := iha h
    obtain ⟨end', hb, hend⟩ := ihb hmid
    exact ⟨end', ⟨mid, ha, hb⟩, hend⟩
  | alt a b iha ihb =>
    rcases eq_some_of_orElse h with h | h
    · obtain ⟨end', ha, hend⟩ := iha h
      exact ⟨end', .inl ha, hend⟩
    · obtain ⟨end', hb, hend⟩ := ihb h
      exact ⟨end', .inr hb, hend⟩
  | many p =>
    obtain ⟨cs, rest', hrest, hall, hk⟩ := runMany_eq_some h
    exact ⟨_, ⟨cs, hrest, hall, rfl⟩, hk⟩
  | group n a iha =>
    obtain ⟨mid, ha, hmid⟩ := iha h
    exact ⟨_, ⟨mid, ha, rfl⟩, hmid⟩
  | boundary =>
    rw [run] at h
    split at h
    · rename_i hbound
      exact ⟨at', ⟨hbound, rfl⟩, h⟩
    · cases h

theorem isSome_orElse {x y : Option β} : (x <|> y).isSome = (x.isSome || y.isSome) := by
  cases x <;> rfl

theorem isSome_runMany {p : Char → Bool} {groups : Nat → Option (List Char)}
    {k : Cursor → Option β} {before : Option Char} {cs rest : List Char}
    (hall : ∀ c ∈ cs, p c = true) (hk : (k ⟨cs.getLast?.or before, rest, groups⟩).isSome = true) :
    (runMany p groups k before (cs ++ rest)).isSome = true := by
  induction cs generalizing before with
  | nil =>
    cases rest with
    | nil => exact hk
    | cons c cs =>
      rw [List.nil_append, runMany]
      split
      · rw [isSome_orElse, Bool.or_eq_true]
        exact .inr hk
      · exact hk
  | cons c cs ih =>
    rw [List.cons_append, runMany, if_pos (hall c List.mem_cons_self), isSome_orElse,
      Bool.or_eq_true]
    refine .inl (ih (fun d hd => hall d (List.mem_cons_of_mem c hd)) ?_)
    rwa [getLast?_cons_or] at hk

/-- **A search finds something** if some way of matching is accepted. -/
theorem isSome_run {k : Cursor → Option β} (h : a.Leads t at' end')
    (hk : (k end').isSome = true) : (a.run t k at').isSome = true := by
  induction a generalizing k at' end' with
  | empty =>
    rw [Leads] at h
    rwa [run, ← h]
  | one p =>
    obtain ⟨c, cs, hrest, hc, rfl⟩ := h
    simp only [run, hrest, hc, if_true]
    exact hk
  | seq a b iha ihb =>
    obtain ⟨mid, ha, hb⟩ := h
    exact iha ha (ihb hb hk)
  | alt a b iha ihb =>
    rw [run, isSome_orElse, Bool.or_eq_true]
    exact h.imp (iha · hk) (ihb · hk)
  | many p =>
    obtain ⟨cs, hrest, hall, hend⟩ := h
    rw [hend] at hk
    rw [run, hrest]
    exact isSome_runMany hall hk
  | group n a iha =>
    obtain ⟨mid, ha, rfl⟩ := h
    exact iha (k := fun end' => k ⟨end'.before, end'.rest, fun m => if m = n then
      some (at'.rest.take (at'.rest.length - end'.rest.length)) else end'.groups m⟩) ha hk
  | boundary =>
    obtain ⟨hbound, rfl⟩ := h
    rw [run, if_pos hbound]
    exact hk

/-- What is matched is the text up to where the pattern leads. -/
theorem Leads.consumed (h : a.Leads t at' end') :
    ∃ cs, at'.rest = cs ++ end'.rest ∧ end'.before = cs.getLast?.or at'.before := by
  induction a generalizing at' end' with
  | empty =>
    cases h
    exact ⟨[], rfl, rfl⟩
  | one p =>
    obtain ⟨c, cs, hrest, -, rfl⟩ := h
    exact ⟨[c], hrest, rfl⟩
  | seq a b iha ihb =>
    obtain ⟨mid, ha, hb⟩ := h
    obtain ⟨cs, hrest, hbefore⟩ := iha ha
    obtain ⟨ds, hrest', hbefore'⟩ := ihb hb
    refine ⟨cs ++ ds, ?_, ?_⟩
    · rw [hrest, hrest', List.append_assoc]
    · rw [hbefore', hbefore, List.getLast?_append]
      exact (Option.or_assoc ..).symm
  | alt a b iha ihb => exact h.elim iha ihb
  | many p =>
    obtain ⟨cs, hrest, -, hend⟩ := h
    exact ⟨cs, hrest, by rw [hend]⟩
  | group n a iha =>
    obtain ⟨mid, ha, rfl⟩ := h
    obtain ⟨cs, hrest, hbefore⟩ := iha ha
    exact ⟨cs, hrest, hbefore⟩
  | boundary =>
    obtain ⟨-, rfl⟩ := h
    exact ⟨[], rfl, rfl⟩

/-- Only characters of a kind are matched. -/
def Only (P : Char → Prop) : Re → Prop
  | .empty => True
  | .one p => ∀ c, p c = true → P c
  | .seq a b => a.Only P ∧ b.Only P
  | .alt a b => a.Only P ∧ b.Only P
  | .many p => ∀ c, p c = true → P c
  | .group _ a => a.Only P
  | .boundary => True

theorem Leads.only {P : Char → Prop} (ha : a.Only P) (h : a.Leads t at' end') :
    ∃ cs, at'.rest = cs ++ end'.rest ∧ ∀ c ∈ cs, P c := by
  induction a generalizing at' end' with
  | empty =>
    cases h
    exact ⟨[], rfl, nofun⟩
  | one p =>
    obtain ⟨c, cs, hrest, hc, rfl⟩ := h
    refine ⟨[c], hrest, fun d hd => ?_⟩
    rw [List.mem_singleton.mp hd]
    exact ha c hc
  | seq a b iha ihb =>
    obtain ⟨mid, hleads, hleads'⟩ := h
    obtain ⟨cs, hrest, hall⟩ := iha ha.1 hleads
    obtain ⟨ds, hrest', hall'⟩ := ihb ha.2 hleads'
    refine ⟨cs ++ ds, by rw [hrest, hrest', List.append_assoc], fun c hc => ?_⟩
    exact (List.mem_append.mp hc).elim (hall c) (hall' c)
  | alt a b iha ihb => exact h.elim (iha ha.1) (ihb ha.2)
  | many p =>
    obtain ⟨cs, hrest, hall, hend⟩ := h
    exact ⟨cs, hrest, fun c hc => ha c (hall c hc)⟩
  | group n a iha =>
    obtain ⟨mid, hleads, rfl⟩ := h
    obtain ⟨cs, hrest, hall⟩ := iha ha hleads
    exact ⟨cs, hrest, hall⟩
  | boundary =>
    obtain ⟨-, rfl⟩ := h
    exact ⟨[], rfl, nofun⟩

/-- Something is matched. -/
def Consumes : Re → Prop
  | .one _ => True
  | .seq a b => a.Consumes ∨ b.Consumes
  | .alt a b => a.Consumes ∧ b.Consumes
  | .group _ a => a.Consumes
  | _ => False

/-- What is matched begins with a character of a kind, if it is anything. -/
def Begins (P : Char → Prop) : Re → Prop
  | .one p => ∀ c, p c = true → P c
  | .seq a b => a.Begins P ∧ (a.Consumes ∨ b.Begins P)
  | .alt a b => a.Begins P ∧ b.Begins P
  | .many p => ∀ c, p c = true → P c
  | .group _ a => a.Begins P
  | _ => True

theorem Leads.consumes (ha : a.Consumes) (h : a.Leads t at' end') : at'.rest ≠ end'.rest := by
  induction a generalizing at' end' with
  | empty => exact ha.elim
  | one p =>
    obtain ⟨c, cs, hrest, -, rfl⟩ := h
    rw [hrest]
    exact List.cons_ne_self c cs
  | seq a b iha ihb =>
    obtain ⟨mid, hleads, hleads'⟩ := h
    obtain ⟨cs, hrest, -⟩ := hleads.consumed
    obtain ⟨ds, hrest', -⟩ := hleads'.consumed
    intro heq
    have hlen := congrArg List.length hrest
    have hlen' := congrArg List.length hrest'
    rw [List.length_append] at hlen hlen'
    rw [heq] at hlen
    rcases ha with ha | hb
    · have hnil : cs = [] := List.length_eq_zero_iff.mp (by omega)
      exact iha ha hleads (by rw [hrest, hnil, List.nil_append])
    · have hnil : ds = [] := List.length_eq_zero_iff.mp (by omega)
      exact ihb hb hleads' (by rw [hrest', hnil, List.nil_append])
  | alt a b iha ihb => exact h.elim (iha ha.1) (ihb ha.2)
  | many p => exact ha.elim
  | group n a iha =>
    obtain ⟨mid, hleads, rfl⟩ := h
    have hmid := iha ha hleads
    exact hmid
  | boundary => exact ha.elim

theorem Leads.begins {P : Char → Prop} (ha : a.Begins P) (h : a.Leads t at' end') :
    at'.rest = end'.rest ∨ ∃ c cs, at'.rest = c :: cs ∧ P c := by
  induction a generalizing at' end' with
  | empty =>
    cases h
    exact .inl rfl
  | one p =>
    obtain ⟨c, cs, hrest, hc, rfl⟩ := h
    exact .inr ⟨c, cs, hrest, ha c hc⟩
  | seq a b iha ihb =>
    obtain ⟨mid, hleads, hleads'⟩ := h
    rcases iha ha.1 hleads with heq | hfirst
    · rcases ha.2 with hconsumes | hbegins
      · exact absurd heq (hleads.consumes hconsumes)
      · rw [heq]
        exact ihb hbegins hleads'
    · exact .inr hfirst
  | alt a b iha ihb => exact h.elim (iha ha.1) (ihb ha.2)
  | many p =>
    obtain ⟨cs, hrest, hall, -⟩ := h
    cases cs with
    | nil => exact .inl hrest
    | cons c cs => exact .inr ⟨c, _, hrest, ha c (hall c List.mem_cons_self)⟩
  | group n a iha =>
    obtain ⟨mid, hleads, rfl⟩ := h
    have hmid := iha ha hleads
    exact hmid
  | boundary =>
    obtain ⟨-, rfl⟩ := h
    exact .inl rfl

/-- The texts that a pattern matches, whatever stands around them. -/
def Spells : Re → List Char → Prop
  | .empty, cs => cs = []
  | .one p, cs => ∃ c, cs = [c] ∧ p c = true
  | .seq a b, cs => ∃ u v, cs = u ++ v ∧ a.Spells u ∧ b.Spells v
  | .alt a b, cs => a.Spells cs ∨ b.Spells cs
  | .many p, cs => ∀ c ∈ cs, p c = true
  | .group _ a, cs => a.Spells cs
  | .boundary, cs => cs = []

/-- **What is matched** is one of the texts of the pattern. -/
theorem Leads.spells (h : a.Leads t at' end') : ∃ cs, at'.rest = cs ++ end'.rest ∧ a.Spells cs := by
  induction a generalizing at' end' with
  | empty =>
    cases h
    exact ⟨[], rfl, rfl⟩
  | one p =>
    obtain ⟨c, cs, hrest, hc, rfl⟩ := h
    exact ⟨[c], hrest, c, rfl, hc⟩
  | seq a b iha ihb =>
    obtain ⟨mid, hleads, hleads'⟩ := h
    obtain ⟨u, hrest, hu⟩ := iha hleads
    obtain ⟨v, hrest', hv⟩ := ihb hleads'
    exact ⟨u ++ v, by rw [hrest, hrest', List.append_assoc], u, v, rfl, hu, hv⟩
  | alt a b iha ihb =>
    rcases h with h | h
    · obtain ⟨cs, hrest, hcs⟩ := iha h
      exact ⟨cs, hrest, .inl hcs⟩
    · obtain ⟨cs, hrest, hcs⟩ := ihb h
      exact ⟨cs, hrest, .inr hcs⟩
  | many p =>
    obtain ⟨cs, hrest, hall, -⟩ := h
    exact ⟨cs, hrest, hall⟩
  | group n a iha =>
    obtain ⟨mid, hleads, rfl⟩ := h
    obtain ⟨cs, hrest, hcs⟩ := iha hleads
    exact ⟨cs, hrest, hcs⟩
  | boundary =>
    obtain ⟨-, rfl⟩ := h
    exact ⟨[], rfl, rfl⟩

/-- In every text of the pattern there is a character of a kind. -/
def Needs (P : Char → Prop) : Re → Prop
  | .one p => ∀ c, p c = true → P c
  | .seq a b => a.Needs P ∨ b.Needs P
  | .alt a b => a.Needs P ∧ b.Needs P
  | .group _ a => a.Needs P
  | _ => False

theorem Spells.needs {P : Char → Prop} {cs : List Char} (ha : a.Needs P) (h : a.Spells cs) :
    ∃ c ∈ cs, P c := by
  induction a generalizing cs with
  | empty => exact ha.elim
  | one p =>
    obtain ⟨c, rfl, hc⟩ := h
    exact ⟨c, List.mem_singleton.mpr rfl, ha c hc⟩
  | seq a b iha ihb =>
    obtain ⟨u, v, rfl, hu, hv⟩ := h
    rcases ha with ha | hb
    · obtain ⟨c, hc, hP⟩ := iha ha hu
      exact ⟨c, List.mem_append_left v hc, hP⟩
    · obtain ⟨c, hc, hP⟩ := ihb hb hv
      exact ⟨c, List.mem_append_right u hc, hP⟩
  | alt a b iha ihb => exact h.elim (iha ha.1) (ihb ha.2)
  | many p => exact ha.elim
  | group n a iha => exact iha ha h
  | boundary => exact ha.elim

/-- A pattern leaves a group alone. -/
def Avoids (n : Nat) : Re → Prop
  | .seq a b => a.Avoids n ∧ b.Avoids n
  | .alt a b => a.Avoids n ∧ b.Avoids n
  | .group m a => m ≠ n ∧ a.Avoids n
  | _ => True

theorem Leads.groups_eq {n : Nat} (ha : a.Avoids n)
    (h : a.Leads t at' end') : end'.groups n = at'.groups n := by
  induction a generalizing at' end' with
  | empty =>
    cases h
    rfl
  | one p =>
    obtain ⟨c, cs, -, -, rfl⟩ := h
    rfl
  | seq a b iha ihb =>
    obtain ⟨mid, hleads, hleads'⟩ := h
    rw [ihb ha.2 hleads', iha ha.1 hleads]
  | alt a b iha ihb => exact h.elim (iha ha.1) (ihb ha.2)
  | many p =>
    obtain ⟨cs, -, -, hend⟩ := h
    rw [hend]
  | group m a iha =>
    obtain ⟨mid, hleads, rfl⟩ := h
    dsimp only
    rw [if_neg ha.1.symm, iha ha.2 hleads]
  | boundary =>
    obtain ⟨-, rfl⟩ := h
    rfl

/-- The text of a group is what was matched. -/
theorem leads_group {n : Nat} : (Re.group n a).Leads t at' end' ↔
    ∃ mid cs, a.Leads t at' mid ∧ at'.rest = cs ++ mid.rest
      ∧ end' = ⟨mid.before, mid.rest, fun m => if m = n then some cs else mid.groups m⟩ := by
  constructor
  · rintro ⟨mid, ha, rfl⟩
    obtain ⟨cs, hrest, -⟩ := ha.consumed
    refine ⟨mid, cs, ha, hrest, ?_⟩
    rw [hrest, List.length_append, Nat.add_sub_cancel, List.take_left]
  · rintro ⟨mid, cs, ha, hrest, rfl⟩
    refine ⟨mid, ha, ?_⟩
    rw [hrest, List.length_append, Nat.add_sub_cancel, List.take_left]

/-- A word is matched letter by letter. -/
theorem leads_word {s : String} (h : (Re.word s).Leads t at' end') :
    at'.rest = s.toList ++ end'.rest := by
  have hletters (cs : List Char) {at' : Cursor}
      (h : (cs.foldr (fun c r => Re.seq (.one (· == c)) r) .empty).Leads t at' end') :
      at'.rest = cs ++ end'.rest := by
    induction cs generalizing at' with
    | nil =>
      cases h
      rfl
    | cons c cs ih =>
      obtain ⟨mid, ⟨d, ds, hrest, hd, rfl⟩, hcs⟩ := h
      rw [hrest, eq_of_beq hd]
      exact congrArg _ (ih hcs)
  exact hletters s.toList h

/-! ## What is preferred -/

variable (t) in
/-- A pattern does not match. -/
def Fails (a : Re) (at' : Cursor) : Prop := ∀ end', ¬ a.Leads t at' end'

variable (t) in
/-- **The first way of matching** leads here. -/
def Prefers (a : Re) (at' end' : Cursor) : Prop :=
  ∀ ⦃β : Type⦄ (k : Cursor → Option β) (r : β), k end' = some r → a.run t k at' = some r

/-- A pattern does not match where it would have to begin with another character. -/
theorem fails_of_begins {P : Char → Prop} (hconsumes : a.Consumes) (hbegins : a.Begins P)
    (hnot : ∀ c ∈ at'.rest.head?, ¬P c) : a.Fails t at' := by
  intro end' hleads
  rcases hleads.begins hbegins with heq | ⟨c, cs, hrest, hc⟩
  · exact hleads.consumes hconsumes heq
  · exact hnot c (by rw [hrest]; rfl) hc

theorem Fails.run_eq_none (h : a.Fails t at') (k : Cursor → Option β) : a.run t k at' = none := by
  cases hrun : a.run t k at' with
  | none => rfl
  | some r =>
    obtain ⟨end', hleads, -⟩ := run_eq_some hrun
    exact absurd hleads (h end')

theorem prefers_empty : Prefers t .empty at' at' := fun _ _ _ h => h

theorem prefers_one {p : Char → Bool} {c : Char} {cs : List Char} {before : Option Char}
    {groups : Nat → Option (List Char)} (hc : p c = true) :
    Prefers t (.one p) ⟨before, c :: cs, groups⟩ ⟨some c, cs, groups⟩ := by
  intro β k r h
  rw [run]
  simp only [hc, if_true]
  exact h

theorem Prefers.seq (ha : Prefers t a at' mid) (hb : Prefers t b mid end') :
    Prefers t (.seq a b) at' end' := fun _ k r h => ha (b.run t k) r (hb k r h)

theorem Prefers.assoc {c : Re} (h : Prefers t (.seq (.seq a b) c) at' end') :
    Prefers t (.seq a (.seq b c)) at' end' := h

theorem Prefers.left (ha : Prefers t a at' end') : Prefers t (.alt a b) at' end' := by
  intro β k r h
  rw [run, ha k r h]
  rfl

theorem Prefers.right (hfails : a.Fails t at') (hb : Prefers t b at' end') :
    Prefers t (.alt a b) at' end' := by
  intro β k r h
  rw [run, hfails.run_eq_none]
  exact hb k r h

/-- The first pattern of an alternative is taken if it leads on. -/
theorem Prefers.seq_left {a' : Re} (h : Prefers t (.seq a b) at' end') :
    Prefers t (.seq (.alt a a') b) at' end' := by
  intro β k r hk
  have hrun : a.run t (b.run t k) at' = some r := h k r hk
  rw [run, run, hrun]
  rfl

/-- And the second if the first does not. -/
theorem Prefers.seq_right {a' : Re} (hfails : (Re.seq a b).Fails t at')
    (h : Prefers t (.seq a' b) at' end') : Prefers t (.seq (.alt a a') b) at' end' := by
  intro β k r hk
  have hnone : a.run t (b.run t k) at' = none := hfails.run_eq_none k
  rw [run, run, hnone]
  exact h k r hk

theorem prefers_boundary
    (h : (at'.before.any t.isWord != at'.rest.head?.any t.isWord) = true) :
    Prefers t .boundary at' at' := by
  intro β k r hk
  rw [run, if_pos h]
  exact hk

/-- As many characters are taken as there are. -/
theorem prefers_many {p : Char → Bool} {cs rest : List Char} {before : Option Char}
    {groups : Nat → Option (List Char)} (hall : ∀ c ∈ cs, p c = true)
    (hstop : rest.head?.any p = false) :
    Prefers t (.many p) ⟨before, cs ++ rest, groups⟩
      ⟨cs.getLast?.or before, rest, groups⟩ := by
  intro β k r hk
  rw [run]
  induction cs generalizing before with
  | nil =>
    cases rest with
    | nil => exact hk
    | cons c cs =>
      have hc : p c = false := hstop
      rw [List.nil_append, runMany, hc, if_neg Bool.false_ne_true]
      exact hk
  | cons c cs ih =>
    rw [getLast?_cons_or] at hk
    have hrun := @ih (some c) (fun d hd => hall d (List.mem_cons_of_mem c hd)) hk
    rw [List.cons_append, runMany, if_pos (hall c List.mem_cons_self), hrun]
    rfl

theorem Prefers.group {n : Nat} {cs : List Char} (ha : Prefers t a at' mid)
    (hrest : at'.rest = cs ++ mid.rest) :
    Prefers t (.group n a) at'
      ⟨mid.before, mid.rest, fun m => if m = n then some cs else mid.groups m⟩ := by
  intro β k r hk
  refine ha _ r ?_
  rw [hrest, List.length_append, Nat.add_sub_cancel, List.take_left]
  exact hk

/-! ## Searches -/

/-- **What `search` finds** are the groups of a match somewhere in the text. -/
theorem search_eq_some {s : String} {groups : Nat → Option (List Char)}
    (h : a.search t s = some groups) :
    ∃ before rest end', s.toList = before ++ rest ∧
      a.Leads t ⟨before.getLast?, rest, fun _ => none⟩ end' ∧ end'.groups = groups := by
  have hgo (done rest : List Char) (hrest : search.go t a done.getLast? rest = some groups) :
      ∃ before rest' end', done ++ rest = before ++ rest' ∧
        a.Leads t ⟨before.getLast?, rest', fun _ => none⟩ end' ∧ end'.groups = groups := by
    induction rest generalizing done with
    | nil =>
      obtain ⟨end', hleads, hgroups⟩ := run_eq_some hrest
      exact ⟨done, [], end', rfl, hleads, Option.some.inj hgroups⟩
    | cons c cs ih =>
      rw [search.go] at hrest
      rcases eq_some_of_orElse hrest with hrest | hrest
      · obtain ⟨end', hleads, hgroups⟩ := run_eq_some hrest
        exact ⟨done, c :: cs, end', rfl, hleads, Option.some.inj hgroups⟩
      · rw [← @List.getLast?_concat _ done c] at hrest
        obtain ⟨before, rest', end', hsplit, hleads⟩ := ih (done ++ [c]) hrest
        rw [List.append_assoc, List.singleton_append] at hsplit
        exact ⟨before, rest', end', hsplit, hleads⟩
  exact hgo [] s.toList h

/-- **`search` finds something** if the pattern matches somewhere. -/
theorem isSome_search {s : String} {before rest : List Char} (hs : s.toList = before ++ rest)
    (h : a.Leads t ⟨before.getLast?, rest, fun _ => none⟩ end') :
    (a.search t s).isSome = true := by
  have hgo (done left : List Char) (hleft : before = done ++ left) :
      (search.go t a done.getLast? (left ++ rest)).isSome = true := by
    induction left generalizing done with
    | nil =>
      rw [List.append_nil] at hleft
      subst hleft
      have hrun := isSome_run h (k := fun c => some c.groups) rfl
      cases rest with
      | nil => exact hrun
      | cons c cs =>
        rw [List.nil_append, search.go, isSome_orElse, Bool.or_eq_true]
        exact .inl hrun
    | cons c cs ih =>
      rw [List.cons_append, search.go, isSome_orElse, Bool.or_eq_true]
      right
      rw [← @List.getLast?_concat _ done c]
      exact ih (done ++ [c]) (by rw [hleft, List.append_assoc, List.singleton_append])
  rw [search, hs]
  exact hgo [] before rfl

/-- The matches from the next position on. -/
def findallLater (t : Tables) (a : Re) (n : Nat) :
    List Char → List (List Char × (Nat → Option (List Char)))
  | [] => []
  | c :: cs => findall.go t a n (some c) cs

/-- What `findall` does at a position. -/
theorem findall_go_succ {n : Nat} {before : Option Char} {rest : List Char} :
    findall.go t a (n + 1) before rest =
      match a.run t some ⟨before, rest, fun _ => none⟩ with
      | some end' => (rest.take (rest.length - end'.rest.length), end'.groups) ::
          if end'.rest.length < rest.length then findall.go t a n end'.before end'.rest
          else findallLater t a n rest
      | none => findallLater t a n rest := by
  conv_lhs => unfold findall.go
  cases hrun : a.run t some ⟨before, rest, fun _ => none⟩ with
  | none => cases rest <;> rfl
  | some end' => cases rest <;> dsimp only <;> split <;> rfl

/-- **What `findall` finds** is what the search gives at a position of the text. -/
theorem run_of_mem_findall {s : String} {found : List Char × (Nat → Option (List Char))}
    (h : found ∈ a.findall t s) :
    ∃ before rest end', s.toList = before ++ (found.1 ++ rest) ∧
      a.run t some ⟨before.getLast?, found.1 ++ rest, fun _ => none⟩ = some end'
        ∧ end'.rest = rest ∧ end'.groups = found.2 := by
  have hgo (n : Nat) (done rest : List Char) (hrest : found ∈ findall.go t a n done.getLast? rest) :
      ∃ before rest' end', done ++ rest = before ++ (found.1 ++ rest') ∧
        a.run t some ⟨before.getLast?, found.1 ++ rest', fun _ => none⟩ = some end'
          ∧ end'.rest = rest' ∧ end'.groups = found.2 := by
    induction n generalizing done rest with
    | zero => cases hrest
    | succ n ih =>
      have hlater (hmem : found ∈ findallLater t a n rest) :
          ∃ before rest' end', done ++ rest = before ++ (found.1 ++ rest') ∧
            a.run t some ⟨before.getLast?, found.1 ++ rest', fun _ => none⟩ = some end'
              ∧ end'.rest = rest' ∧ end'.groups = found.2 := by
        cases rest with
        | nil => cases hmem
        | cons c cs =>
          rw [findallLater, ← @List.getLast?_concat _ done c] at hmem
          have hsplit := ih (done ++ [c]) cs hmem
          rwa [List.append_assoc, List.singleton_append] at hsplit
      rw [findall_go_succ] at hrest
      cases hrun : a.run t some ⟨done.getLast?, rest, fun _ => none⟩ with
      | none =>
        rw [hrun] at hrest
        exact hlater hrest
      | some end' =>
        rw [hrun] at hrest
        obtain ⟨end'', hleads, heq⟩ := run_eq_some hrun
        obtain rfl := Option.some.inj heq
        obtain ⟨cs, hcs, hbefore⟩ := hleads.consumed
        have hcs' : rest = cs ++ end''.rest := hcs
        have htake : rest.take (rest.length - end''.rest.length) = cs := by
          rw [hcs', List.length_append, Nat.add_sub_cancel, List.take_left]
        rcases List.mem_cons.mp hrest with hfirst | hmem
        · rw [hfirst, htake]
          rw [hcs'] at hrun
          exact ⟨done, end''.rest, end'', by rw [hcs'], hrun, rfl, rfl⟩
        · split at hmem
          · have hlast : end''.before = (done ++ cs).getLast? := by
              rw [hbefore, List.getLast?_append]
            rw [hlast] at hmem
            have hsplit := ih (done ++ cs) end''.rest hmem
            rwa [List.append_assoc, ← hcs'] at hsplit
          · exact hlater hmem
  exact hgo _ [] s.toList h

/-- So these are matches in the text. -/
theorem of_mem_findall {s : String} {found : List Char × (Nat → Option (List Char))}
    (h : found ∈ a.findall t s) :
    ∃ before rest end', s.toList = before ++ (found.1 ++ rest) ∧
      a.Leads t ⟨before.getLast?, found.1 ++ rest, fun _ => none⟩ end'
        ∧ end'.rest = rest ∧ end'.groups = found.2 := by
  obtain ⟨before, rest, end', hsplit, hrun, hfound⟩ := run_of_mem_findall h
  obtain ⟨end₁, hleads, heq⟩ := run_eq_some hrun
  obtain rfl := Option.some.inj heq
  exact ⟨before, rest, end₁, hsplit, hleads, hfound⟩

/-- **A match is found** if it is not empty and no match that begins before it runs over its
beginning. -/
theorem mem_findall {s : String} {before rest : List Char}
    (hs : s.toList = before ++ rest)
    (hrun : a.run t some ⟨before.getLast?, rest, fun _ => none⟩ = some end')
    (hclear : ∀ u v end₁, before = u ++ v → v ≠ [] →
      a.Leads t ⟨u.getLast?, v ++ rest, fun _ => none⟩ end₁ →
        rest.length ≤ end₁.rest.length) :
    (rest.take (rest.length - end'.rest.length), end'.groups) ∈ a.findall t s := by
  have hgo (n : Nat) (done left : List Char) (hleft : before = done ++ left)
      (hn : (left ++ rest).length < n) :
      (rest.take (rest.length - end'.rest.length), end'.groups) ∈
        findall.go t a n done.getLast? (left ++ rest) := by
    induction n generalizing done left with
    | zero => omega
    | succ n ih =>
      rw [findall_go_succ]
      cases left with
      | nil =>
        rw [List.append_nil] at hleft
        subst hleft
        rw [List.nil_append, hrun]
        exact List.mem_cons_self
      | cons c cs =>
        have hlater : (rest.take (rest.length - end'.rest.length), end'.groups) ∈
            findallLater t a n (c :: cs ++ rest) := by
          rw [List.cons_append, findallLater, ← @List.getLast?_concat _ done c]
          refine ih (done ++ [c]) cs ?_ ?_
          · rw [hleft, List.append_assoc, List.singleton_append]
          · rw [List.cons_append, List.length_cons] at hn
            omega
        cases hfirst : a.run t some ⟨done.getLast?, c :: cs ++ rest, fun _ => none⟩ with
        | none => exact hlater
        | some end₁ =>
          obtain ⟨end₂, hleads, heq⟩ := run_eq_some hfirst
          obtain rfl := Option.some.inj heq
          refine List.mem_cons_of_mem _ ?_
          split
          · rename_i hshorter
            -- the match ends before the one that is looked for begins
            obtain ⟨ds, hds, hlast⟩ := hleads.consumed
            have hlong := hclear done (c :: cs) end₂ hleft (by simp) hleads
            have hds' : c :: cs ++ rest = ds ++ end₂.rest := hds
            obtain ⟨left', hleft', hrest'⟩ :
                ∃ left', c :: cs = ds ++ left' ∧ end₂.rest = left' ++ rest := by
              rcases List.append_eq_append_iff.mp hds' with ⟨x, hx, hy⟩ | ⟨x, hx, hy⟩
              · have hlength := congrArg List.length hy
                rw [List.length_append] at hlength
                have hnil : x = [] := List.length_eq_zero_iff.mp (by omega)
                subst hnil
                exact ⟨[], by rw [hx, List.append_nil, List.append_nil], hy.symm⟩
              · exact ⟨x, hx, hy⟩
            have hbefore : end₂.before = (done ++ ds).getLast? := by
              rw [hlast, List.getLast?_append]
            rw [hbefore, hrest']
            refine ih (done ++ ds) left' ?_ ?_
            · rw [hleft, hleft', List.append_assoc]
            · rw [hrest'] at hshorter
              omega
          · exact hlater
  rw [findall, hs]
  exact hgo _ [] before rfl (Nat.lt_succ_self _)

/-- Nothing is found in a text that has no character of a kind that the pattern needs. -/
theorem findall_eq_nil {P : Char → Prop} {s : String} (ha : a.Needs P) (hs : ∀ c ∈ s.toList, ¬P c) :
    a.findall t s = [] := by
  rw [List.eq_nil_iff_forall_not_mem]
  intro found hfound
  obtain ⟨before, rest, end', hsplit, hleads, -, -⟩ := of_mem_findall hfound
  obtain ⟨cs, hcs, hspells⟩ := hleads.spells
  obtain ⟨c, hc, hP⟩ := hspells.needs ha
  have hcs' : found.1 ++ rest = cs ++ end'.rest := hcs
  refine hs c ?_ hP
  rw [hsplit, hcs']
  exact List.mem_append_right before (List.mem_append_left _ hc)

end Re

end Text
