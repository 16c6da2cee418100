import NxTutors.DemoAgent.Ownership
import Mathlib.Data.List.DropRight

/-!
# Who may take a conversation back

Ownership is taken and handed on any number of times, and each time the owner that ends is put on
the record. The record is right: it is the list of those who owned the conversation, of which the
last eight are kept. What lapses is not always taken back, though. A transfer to onboarding has a
lease, and when nobody renews it the conversation expires, but onboarding is not an owner we accept
a conversation from.
-/

namespace NxTutors.DemoAgent

/-- A call that may move the ownership of a conversation. -/
inductive Handover
  | acquire (now : Time) (lease : Option Time)
  | transfer (dest : Owner) (now : Time) (lease : Option Time)
  deriving DecidableEq, Repr

namespace Handover

/-- When it is made. -/
def now : Handover → Time
  | .acquire now _ => now
  | .transfer _ now _ => now

def apply (o : Ownership) : Handover → Except OwnershipError Ownership
  | .acquire now lease => o.acquire now lease
  | .transfer dest now lease => o.transfer dest now lease

/-- A call that raises leaves the ownership as it was. -/
def after (o : Ownership) (c : Handover) : Ownership :=
  match c.apply o with
  | .ok moved => moved
  | .error _ => o

/-- Whether a call is accepted, and is not an acquisition of what we hold already. -/
def moves (o : Ownership) : Handover → Bool
  | .acquire now lease => (o.acquire now lease).toBool && !o.heldByUs now
  | .transfer dest now lease => (o.transfer dest now lease).toBool

end Handover

/-- The ownership after some calls. -/
def afterHandovers (o : Ownership) (calls : List Handover) : Ownership := calls.foldl Handover.after o

/-- Those whose ownership ended in the course of some calls, in order. -/
def formerOwners : Ownership → List Handover → List Owner
  | _, [] => []
  | o, c :: calls => (if c.moves o then [o.owner] else []) ++ formerOwners (c.after o) calls

/-! ## What the record says -/

namespace Ownership

theorem lastOf_eq_rtake {α : Type} (n : Nat) (l : List α) : lastOf n l = l.rtake n := rfl

/-- To keep the last ones, those that were dropped before are not needed. -/
theorem lastOf_lastOf_append {α : Type} (n : Nat) (l : List α) (x : α) :
    lastOf (n + 1) (lastOf (n + 1) l ++ [x]) = lastOf (n + 1) (l ++ [x]) := by
  simp only [lastOf_eq_rtake, List.rtake_concat_succ]
  have htwice : (l.rtake (n + 1)).rtake n = l.rtake n := by
    simp only [List.rtake_eq_reverse_take_reverse, List.reverse_reverse, List.take_take]
    rw [Nat.min_eq_left (Nat.le_succ n)]
  rw [htwice]

/-- What is short was kept whole. -/
theorem lastOf_eq_self {α : Type} {n : Nat} {l : List α} (h : (lastOf n l).length < n) :
    lastOf n l = l := by
  simp only [lastOf, List.length_drop] at h ⊢
  have hshort : l.length - n = 0 := by omega
  rw [hshort, List.drop_zero]

/-- An ownership is what such a record leads to. -/
structure Follows (former : List Owner) (o : Ownership) : Prop where
  previous : o.previous = lastOf 8 former
  owner : o.owner = SELF ∨ o.owner ∈ TRANSFER_TO

/-- The owner that ends is put on the record. -/
theorem Follows.ends {former : List Owner} {o moved : Ownership} (h : Follows former o)
    (hprevious : moved.previous = lastOf 8 (o.previous ++ [o.owner]))
    (howner : moved.owner = SELF ∨ moved.owner ∈ TRANSFER_TO) :
    Follows (former ++ [o.owner]) moved where
  previous := by rw [hprevious, h.previous, lastOf_lastOf_append]
  owner := howner

/-- What taking does: nothing to what we hold, and otherwise it ends an owner we accept from, or a
lease of our own that has expired. -/
theorem acquire_cases {o : Ownership} {now : Time} {lease : Option Time} :
    (o.heldByUs now = true ∧ o.acquire now lease = .ok o) ∨
    (o.heldByUs now = false ∧ (∃ e, o.acquire now lease = .error e) ∧
      o.owner ∉ ACCEPT_FROM ∧ o.owner ≠ SELF) ∨
    (o.heldByUs now = false ∧ (o.owner ∈ ACCEPT_FROM ∨ o.owner = SELF) ∧
      ∃ taken, o.acquire now lease = .ok taken ∧ taken.owner = SELF ∧
        taken.leaseExpiresAt = leaseFrom now lease ∧
        taken.previous = lastOf 8 (o.previous ++ [o.owner])) := by
  unfold acquire
  cases hheld : o.heldByUs now with
  | true => exact .inl ⟨rfl, if_pos hheld⟩
  | false =>
    have hskip : ¬ (decide (o.owner = SELF) && !o.expired now) = true :=
      fun h => Bool.false_ne_true (hheld.symm.trans h)
    rw [if_neg hskip]
    by_cases hrefused : (decide (o.owner ∉ ACCEPT_FROM) && decide (o.owner ≠ SELF)) = true
    · rw [if_pos hrefused]
      rw [Bool.and_eq_true, decide_eq_true_eq, decide_eq_true_eq] at hrefused
      exact .inr (.inl ⟨rfl, ⟨_, rfl⟩, hrefused⟩)
    · rw [if_neg hrefused]
      rw [Bool.and_eq_true, decide_eq_true_eq, decide_eq_true_eq, not_and, not_not] at hrefused
      exact .inr (.inr ⟨rfl, Decidable.or_iff_not_imp_left.mpr hrefused, _, rfl, rfl, rfl, rfl⟩)

/-- What handing on does: it raises, or it ends our ownership. -/
theorem transfer_cases {o : Ownership} {dest : Owner} {now : Time} {lease : Option Time} :
    (∃ e, o.transfer dest now lease = .error e) ∨
    (o.owner = SELF ∧ ∃ moved, o.transfer dest now lease = .ok moved ∧
      moved.owner = dest ∧ dest ∈ TRANSFER_TO ∧
      moved.previous = lastOf 8 (o.previous ++ [o.owner])) := by
  unfold transfer
  by_cases hself : o.owner = SELF
  · rw [if_neg (not_not.mpr hself)]
    by_cases hdest : dest ∈ TRANSFER_TO
    · rw [if_neg (not_not.mpr hdest)]
      exact .inr ⟨hself, _, rfl, rfl, hdest, by rw [hself]⟩
    · exact .inl ⟨_, if_pos hdest⟩
  · exact .inl ⟨_, if_pos hself⟩

/-- **A call keeps the record right.** -/
theorem Follows.step {former : List Owner} {o : Ownership} (h : Follows former o) (c : Handover) :
    Follows (former ++ if c.moves o then [o.owner] else []) (c.after o) := by
  have hstay : Follows (former ++ []) o := by rwa [List.append_nil]
  cases c with
  | acquire now lease =>
    rcases @acquire_cases o now lease with
      ⟨hheld, hok⟩ | ⟨hheld, ⟨e, herror⟩, -⟩ | ⟨hheld, -, taken, hok, howner, -, hprevious⟩
    · simpa [Handover.moves, Handover.after, Handover.apply, hheld, hok] using hstay
    · simpa [Handover.moves, Handover.after, Handover.apply, hheld, herror, Except.toBool]
        using hstay
    · have hends := h.ends hprevious (.inl howner)
      simpa [Handover.moves, Handover.after, Handover.apply, hheld, hok, Except.toBool] using hends
  | transfer dest now lease =>
    rcases @transfer_cases o dest now lease with
      ⟨e, herror⟩ | ⟨-, moved, hok, rfl, hdest, hprevious⟩
    · simpa [Handover.moves, Handover.after, Handover.apply, herror, Except.toBool] using hstay
    · have hends := h.ends hprevious (.inr hdest)
      simpa [Handover.moves, Handover.after, Handover.apply, hok, Except.toBool] using hends

/-- **So do any number of calls.** -/
theorem Follows.run {former : List Owner} {o : Ownership} (h : Follows former o)
    (calls : List Handover) : Follows (former ++ formerOwners o calls) (afterHandovers o calls) := by
  induction calls generalizing former o with
  | nil => simpa [formerOwners, afterHandovers] using h
  | cons c calls ih =>
    have hrest := ih (h.step c)
    rw [List.append_assoc] at hrest
    exact hrest

/-- A conversation nobody has claimed has no former owners. -/
theorem unowned_follows (conversationRef : String) (start : Time) :
    Follows [] (unowned conversationRef start) :=
  ⟨rfl, .inr (show Owner.released ∈ TRANSFER_TO by decide)⟩

/-! ## What lapses -/

/-- A lapsed conversation is not stranded, one that another owner holds is not talked over, and the
record is right. -/
structure Unstranded (former : List Owner) (o : Ownership) (now : Time) : Prop where
  retaken : o.expired now = true →
    ∃ taken, o.acquire now none = .ok taken ∧ taken.heldByUs now = true
  guarded : o.owner ≠ SELF → o.expired now = false → ∃ e, o.assertMaySend now = .error e
  bounded : o.previous.length ≤ 8
  previous : o.previous.length < 8 → o.previous = former

/-- Who does not own a conversation may not send. -/
theorem assertMaySend_error {o : Ownership} {now : Time} (h : o.owner ≠ SELF) :
    ∃ e, o.assertMaySend now = .error e := by
  have hheld : ¬ o.heldByUs now = true := by simp [heldByUs, h]
  exact ⟨_, if_neg hheld⟩

/-- What is not held, and comes from an owner we accept from or from ourselves, is taken. -/
theorem retaken_iff {o : Ownership} {now : Time} (hexpired : o.expired now = true) :
    (∃ taken, o.acquire now none = .ok taken ∧ taken.heldByUs now = true) ↔
      o.owner ∈ ACCEPT_FROM ∨ o.owner = SELF := by
  rcases @acquire_cases o now none with
    ⟨hheld, -⟩ | ⟨-, ⟨e, herror⟩, haccept, hself⟩ | ⟨-, hfrom, taken, hok, howner, hlease, -⟩
  · simp [heldByUs, hexpired] at hheld
  · constructor
    · rintro ⟨taken, hok, -⟩
      rw [herror] at hok
      cases hok
    · rintro (hfrom | hown)
      · exact absurd hfrom haccept
      · exact absurd hown hself
  · refine ⟨fun _ => hfrom, fun _ => ⟨taken, hok, ?_⟩⟩
    simp [heldByUs, expired, howner, hlease, leaseFrom]

/-- **A conversation that lapses can be taken back unless it was handed to onboarding.** However
ownership was taken and handed on, and at whatever times, the guard of the outbound path and the
record of former owners are right. -/
theorem unstranded_iff (conversationRef : String) (start : Time) (calls : List Handover)
    (now : Time) :
    Unstranded (formerOwners (unowned conversationRef start) calls)
        (afterHandovers (unowned conversationRef start) calls) now ↔
      ((afterHandovers (unowned conversationRef start) calls).expired now = true →
        (afterHandovers (unowned conversationRef start) calls).owner ≠ .onboarding) := by
  have hfollows := (unowned_follows conversationRef start).run calls
  rw [List.nil_append] at hfollows
  generalize afterHandovers (unowned conversationRef start) calls = o at hfollows ⊢
  obtain ⟨hprevious, howner⟩ := hfollows
  -- we hold it, or one of those we hand to does; of these we accept from all but onboarding
  have hfrom : o.owner ∈ ACCEPT_FROM ∨ o.owner = SELF ↔ o.owner ≠ .onboarding := by
    rcases howner with hself | hdest
    · rw [hself]
      decide
    · revert hdest
      cases o.owner <;> decide
  constructor
  · intro h hexpired
    exact hfrom.mp ((retaken_iff hexpired).mp (h.retaken hexpired))
  · intro hcondition
    refine ⟨fun hexpired => (retaken_iff hexpired).mpr (hfrom.mpr (hcondition hexpired)),
      fun hother _ => assertMaySend_error hother, ?_, fun hshort => ?_⟩
    · rw [hprevious, lastOf, List.length_drop]
      omega
    · rw [hprevious] at hshort ⊢
      exact lastOf_eq_self hshort

/-- The conversation is taken, and handed to onboarding with the usual lease. -/
def handedToOnboarding : List Handover :=
  [.acquire 0 none, .transfer .onboarding minute (some DEFAULT_LEASE)]

/-- **It is stranded**: the lease runs out, and nobody may take the conversation back. -/
theorem onboarding_strands : ∃ (conversationRef : String) (start : Time) (calls : List Handover)
    (now : Time), calls.Pairwise (fun c c' => c.now ≤ c'.now) ∧
      (∀ c ∈ calls, start ≤ c.now ∧ c.now ≤ now) ∧
      (afterHandovers (unowned conversationRef start) calls).expired now = true ∧
      (afterHandovers (unowned conversationRef start) calls).acquire now none =
        .error ⟨"cannot take conversation from onboarding_agent"⟩ ∧
      ¬ Unstranded (formerOwners (unowned conversationRef start) calls)
        (afterHandovers (unowned conversationRef start) calls) now := by
  refine ⟨"c", 0, handedToOnboarding, minute + DEFAULT_LEASE, ?_, by decide, by decide, rfl,
    fun h => ?_⟩
  · exact List.pairwise_pair.mpr (by decide)
  obtain ⟨taken, hok, -⟩ := h.retaken (by decide)
  cases hok

end Ownership

end NxTutors.DemoAgent
