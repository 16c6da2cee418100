import Mathlib.Data.List.Infix
import Mathlib.Tactic.Tauto
import NxTutors.MatchAgent.TurnService
import NxTutors.Store.Expiring

/-!
# Abuse control

A text that was sent before is a signal, and so is one that asks for contact details. Signals are
counted as strikes, for as long as one comes within the window of the last; and with the strikes the
response escalates. What is kept of a text is kept for one window, from when it was seen for the
first time.

Nothing here knows whether a text has been sent again or a message delivered again. So of the
moments at which one message is assessed it can be said when there will be a harsh response
(`calm_iff`): where contact details are asked for, if two moments are too close, and otherwise if
three repeats are.
-/

namespace NxTutors.MatchAgent

open Text

/-! ## The cache -/

/-- What is cached, numbers only, by key. -/
abbrev AbuseCache := String → Option (Store.Expiring Nat Time)

namespace AbuseCache

def get (c : AbuseCache) (now : Time) (key : String) : Option Nat :=
  (c key).bind fun entry => if entry.expiresAt ≤ now then none else some entry.value

def set (c : AbuseCache) (now : Time) (key : String) (value : Nat) (ttl : Time) : AbuseCache :=
  fun k => if k = key then some ⟨value, now + ttl⟩ else c k

variable {c : AbuseCache} {now ttl : Time} {key k : String} {value : Nat}

theorem set_same : c.set now key value ttl key = some ⟨value, now + ttl⟩ := if_pos rfl

theorem set_other (h : k ≠ key) : c.set now key value ttl k = c k := if_neg h

end AbuseCache

/-! ## The detector -/

inductive AbuseSignal
  | repeatedIdenticalMessage
  /-- with the first hits -/
  | contactHarvestAttempt (detail : String)
  | rateLimited
  deriving DecidableEq, Repr

structure AbuseAssessment where
  signals : List AbuseSignal
  enforcement : Enforcement

/-- Phrases that look like an attempt to harvest contact details. -/
def HARVEST_MARKERS : List String :=
  ["phone number", "mobile number", "contact number", "whatsapp number", "email address", "email id",
    "all tutors", "every tutor", "full list", "database", "export", "csv"]

/-- Five minutes. -/
def ABUSE_WINDOW : Time := 300 * 1000000

/-- `_escalate`. -/
def escalate (strikes : Nat) (signals : List AbuseSignal) : Enforcement :=
  if signals = [] then .allow
  else if strikes ≤ 2 then .softThrottle
  else if strikes ≤ 5 then .hardThrottle
  else if strikes ≤ 10 then .cooldown
  else .humanReview

section Detector

variable (t : Tables) (fingerprint : String → String)

/-- What a text is known by, the digits of a hash. -/
def floodKey (conversationRef text : String) : String :=
  "flood:" ++ conversationRef ++ ":" ++ fingerprint (squash t text)

def strikesKey (conversationRef : String) : String := "strikes:" ++ conversationRef

/-- `_is_repeat`. -/
def isRepeat (now : Time) (conversationRef text : String) (c : AbuseCache) : Bool × AbuseCache :=
  let key := floodKey t fingerprint conversationRef text
  if (c.get now key).isSome then (true, c) else (false, c.set now key 1 ABUSE_WINDOW)

/-- `_strikes`. -/
def countStrikes (now : Time) (conversationRef : String) (newSignals : Nat) (c : AbuseCache) :
    Nat × AbuseCache :=
  let key := strikesKey conversationRef
  let current := (c.get now key).getD 0
  if newSignals = 0 then (current, c)
  else (current + newSignals, c.set now key (current + newSignals) ABUSE_WINDOW)

def harvestHits (text : String) : List String := HARVEST_MARKERS.filter (Text.contains (t.lower text))

/-- `AbuseDetector.assess`. -/
def AbuseDetector.assess (now : Time) (conversationRef text : String) (rateLimited : Bool)
    (c : AbuseCache) : AbuseAssessment × AbuseCache :=
  let (again, c) := isRepeat t fingerprint now conversationRef text c
  let hits := harvestHits t text
  let signals := (if again then [AbuseSignal.repeatedIdenticalMessage] else []) ++
    (if hits ≠ [] then [.contactHarvestAttempt (",".intercalate (hits.take 3))] else []) ++
    if rateLimited then [.rateLimited] else []
  let (strikes, c) := countStrikes now conversationRef signals.length c
  (⟨signals, escalate strikes signals⟩, c)

/-- What a turn is told: nothing, where nothing is suspicious. -/
def suspicion (now : Time) (conversationRef text : String) (c : AbuseCache) :
    Option Enforcement × AbuseCache :=
  let (assessment, c) := AbuseDetector.assess t fingerprint now conversationRef text false c
  (if assessment.signals = [] then none else some assessment.enforcement, c)

end Detector

/-! ## Where a message stands -/

/-- What is kept of one message. -/
structure Standing where
  /-- when its text was noted -/
  opened : Option Time := none
  /-- the strikes, and when the last ones were counted -/
  struck : Option (Nat × Time) := none

namespace Standing

/-- The text is still known. -/
def known (s : Standing) (now : Time) : Bool := s.opened.any fun since => now < since + ABUSE_WINDOW

/-- The strikes that still count. -/
def strikes (s : Standing) (now : Time) : Nat :=
  match s.struck with
  | some (n, last) => if now < last + ABUSE_WINDOW then n else 0
  | none => 0

/-- How many signals there are. -/
def signals (harvest : Bool) (s : Standing) (now : Time) : Nat :=
  (if s.known now then 1 else 0) + if harvest then 1 else 0

/-- The message is assessed once more. -/
def next (harvest : Bool) (s : Standing) (now : Time) : Standing where
  opened := if s.known now then s.opened else some now
  struck := if s.signals harvest now = 0 then s.struck
    else some (s.strikes now + s.signals harvest now, now)

/-- The strikes that are told of, if there is a signal. -/
def told (harvest : Bool) (s : Standing) (now : Time) : Option Nat :=
  if s.signals harvest now = 0 then none else some (s.strikes now + s.signals harvest now)

end Standing

/-- The cache has this of the message. -/
structure Stands (key strikes : String) (c : AbuseCache) (s : Standing) : Prop where
  opened : c key = s.opened.map fun since => ⟨1, since + ABUSE_WINDOW⟩
  struck : c strikes = s.struck.map fun x => ⟨x.1, x.2 + ABUSE_WINDOW⟩

theorem Stands.note {key strikes : String} {c : AbuseCache} {s : Standing} (h : Stands key strikes c s)
    (hne : strikes ≠ key) (now : Time) :
    Stands key strikes (c.set now key 1 ABUSE_WINDOW) { s with opened := some now } where
  opened := AbuseCache.set_same
  struck := (AbuseCache.set_other hne).trans h.struck

theorem Stands.count {key strikes : String} {c : AbuseCache} {s : Standing} (h : Stands key strikes c s)
    (hne : strikes ≠ key) (n : Nat) (now : Time) :
    Stands key strikes (c.set now strikes n ABUSE_WINDOW) { s with struck := some (n, now) } where
  opened := (AbuseCache.set_other hne.symm).trans h.opened
  struck := AbuseCache.set_same

/-- The number of strikes is enough for a harsh response, and too small for a human. -/
def harsh (strikes : Nat) : Bool := 3 ≤ strikes && strikes ≤ 10

section Assessing

variable {t : Tables} {fingerprint : String → String} {conversationRef text : String} {c : AbuseCache}
  {s : Standing} {now : Time}

theorem strikesKey_ne_floodKey :
    strikesKey conversationRef ≠ floodKey t fingerprint conversationRef text := by
  intro h
  have hchars := congrArg (fun s : String => s.toList.head?) h
  simp only [strikesKey, floodKey, String.toList_append] at hchars
  have hs : "strikes:".toList = ['s', 't', 'r', 'i', 'k', 'e', 's', ':'] := by decide
  have hf : "flood:".toList = ['f', 'l', 'o', 'o', 'd', ':'] := by decide
  rw [hs, hf] at hchars
  simp at hchars

theorem get_opened (h : Stands (floodKey t fingerprint conversationRef text)
    (strikesKey conversationRef) c s) :
    (c.get now (floodKey t fingerprint conversationRef text)).isSome = s.known now := by
  rw [AbuseCache.get, h.opened, Standing.known]
  cases s.opened with
  | none => rfl
  | some since =>
    by_cases hlive : now < since + ABUSE_WINDOW
    · simp [hlive, not_le.mpr hlive]
    · simp [hlive, not_lt.mp hlive]

theorem get_struck (h : Stands (floodKey t fingerprint conversationRef text)
    (strikesKey conversationRef) c s) :
    (c.get now (strikesKey conversationRef)).getD 0 = s.strikes now := by
  rw [AbuseCache.get, h.struck, Standing.strikes]
  cases s.struck with
  | none => rfl
  | some x =>
    by_cases hlive : now < x.2 + ABUSE_WINDOW
    · simp [hlive, not_le.mpr hlive]
    · simp [hlive, not_lt.mp hlive]

/-- A text asks for contact details. -/
def asksForContacts (t : Tables) (text : String) : Bool := harvestHits t text ≠ []

/-- Whether a text is known; it is noted if not. -/
theorem isRepeat_stands (h : Stands (floodKey t fingerprint conversationRef text)
    (strikesKey conversationRef) c s) :
    (isRepeat t fingerprint now conversationRef text c).1 = s.known now ∧
      Stands (floodKey t fingerprint conversationRef text) (strikesKey conversationRef)
        (isRepeat t fingerprint now conversationRef text c).2
        { s with opened := if s.known now then s.opened else some now } := by
  unfold isRepeat
  dsimp only
  rw [get_opened h]
  cases s.known now with
  | true => exact ⟨rfl, h.opened, h.struck⟩
  | false =>
    rw [if_neg Bool.false_ne_true, if_neg Bool.false_ne_true]
    exact ⟨rfl, h.note strikesKey_ne_floodKey now⟩

/-- New signals are counted. -/
theorem countStrikes_stands (h : Stands (floodKey t fingerprint conversationRef text)
    (strikesKey conversationRef) c s) (n : Nat) :
    (countStrikes now conversationRef n c).1 = s.strikes now + n ∧
      Stands (floodKey t fingerprint conversationRef text) (strikesKey conversationRef)
        (countStrikes now conversationRef n c).2
        { s with struck := if n = 0 then s.struck else some (s.strikes now + n, now) } := by
  unfold countStrikes
  dsimp only
  rw [get_struck h]
  by_cases hn : n = 0
  · rw [if_pos hn, if_pos hn, hn]
    exact ⟨rfl, h.opened, h.struck⟩
  · rw [if_neg hn, if_neg hn]
    exact ⟨rfl, h.count strikesKey_ne_floodKey _ now⟩

/-- A turn is shed where there are signals and the strikes are harsh. -/
theorem sheds_escalate {strikes : Nat} {signals : List AbuseSignal} (h : signals ≠ []) :
    TurnService.sheds (some (escalate strikes signals)) = harsh strikes := by
  rw [escalate, if_neg h, harsh]
  by_cases hsoft : strikes ≤ 2
  · rw [if_pos hsoft, decide_eq_false (by omega), Bool.false_and]
    rfl
  · rw [if_neg hsoft, decide_eq_true (by omega), Bool.true_and]
    by_cases hhard : strikes ≤ 5
    · rw [if_pos hhard, decide_eq_true (by omega)]
      rfl
    · rw [if_neg hhard]
      by_cases hcool : strikes ≤ 10
      · rw [if_pos hcool, decide_eq_true hcool]
        rfl
      · rw [if_neg hcool, decide_eq_false hcool]
        rfl

/-- **What is told of a message, and where it stands then.** -/
theorem suspicion_eq (h : Stands (floodKey t fingerprint conversationRef text)
    (strikesKey conversationRef) c s) :
    TurnService.sheds (suspicion t fingerprint now conversationRef text c).1 =
        (s.told (asksForContacts t text) now).any harsh ∧
      Stands (floodKey t fingerprint conversationRef text) (strikesKey conversationRef)
        (suspicion t fingerprint now conversationRef text c).2
        (s.next (asksForContacts t text) now) := by
  obtain ⟨hknown, hnoted⟩ := @isRepeat_stands t fingerprint conversationRef text c s now h
  rcases hrepeat : isRepeat t fingerprint now conversationRef text c with ⟨again, c₁⟩
  rw [hrepeat] at hknown hnoted
  obtain ⟨signals, hsignals⟩ : ∃ signals, signals =
      (if again then [AbuseSignal.repeatedIdenticalMessage] else []) ++
        if harvestHits t text ≠ [] then
          [.contactHarvestAttempt (",".intercalate ((harvestHits t text).take 3))] else [] := ⟨_, rfl⟩
  have hlength : signals.length = s.signals (asksForContacts t text) now := by
    rw [hsignals, Standing.signals, ← hknown, asksForContacts]
    by_cases hhits : harvestHits t text = []
    · cases again <;> simp [hhits]
    · cases again <;> simp [hhits]
  obtain ⟨hcount, hcounted⟩ := @countStrikes_stands _ _ _ _ _ _ now hnoted signals.length
  have hstrikes : ({ s with opened := if s.known now then s.opened else some now } : Standing).strikes
      now = s.strikes now := rfl
  have hsuspicion : suspicion t fingerprint now conversationRef text c =
      (if signals = [] then none
        else some (escalate (countStrikes now conversationRef signals.length c₁).1 signals),
        (countStrikes now conversationRef signals.length c₁).2) := by
    rw [suspicion, AbuseDetector.assess, hrepeat, hsignals]
    simp
  rw [hsuspicion]
  rw [hstrikes, hlength] at hcount hcounted
  constructor
  · rw [Standing.told, ← hlength]
    by_cases hnone : signals = []
    · rw [if_pos hnone, if_pos (by rw [hnone]; rfl)]
      rfl
    · have hsome : signals.length ≠ 0 := fun hzero => hnone (List.length_eq_zero_iff.mp hzero)
      rw [if_neg hnone, if_neg hsome, sheds_escalate hnone, hlength, hcount]
      rfl
  · rw [hlength]
    exact hcounted

end Assessing

/-! ## Moments that are too close -/

/-- What is told of a message that is assessed at some moments. -/
def tellings (harvest : Bool) : Standing → List Time → List (Option Nat)
  | _, [] => []
  | s, now :: times => s.told harvest now :: tellings harvest (s.next harvest now) times

/-- The moments at which a text is known: those within a window of the first, and so on from the
first after that. -/
def repeats : Option Time → List Time → List Time
  | _, [] => []
  | opened, now :: times =>
    if opened.any fun since => now < since + ABUSE_WINDOW then now :: repeats opened times
    else repeats (some now) times

/-- Of any three in a row, two neighbours are a window apart. -/
def Sparse : List Time → Prop
  | a :: b :: c :: times =>
    (a + ABUSE_WINDOW ≤ b ∨ b + ABUSE_WINDOW ≤ c) ∧ Sparse (b :: c :: times)
  | _ => True

/-- **The moments are far enough from each other**: where contact details are asked for, any two
neighbours; and otherwise, of any three repeats in a row, two. -/
def Spaced (harvest : Bool) (times : List Time) : Prop :=
  if harvest then times.IsChain (· + ABUSE_WINDOW ≤ ·) else Sparse (repeats none times)

section Moments

variable {times : List Time} {a b c now : Time}

theorem sparse_cons (h : a + ABUSE_WINDOW ≤ b) : Sparse (a :: b :: times) ↔ Sparse (b :: times) := by
  cases times with
  | nil => exact Iff.rfl
  | cons c times => exact and_iff_right (.inl h)

theorem sparse_cons_cons (h : b + ABUSE_WINDOW ≤ c) :
    Sparse (a :: b :: c :: times) ↔ Sparse (c :: times) :=
  (and_iff_right (.inr h)).trans (sparse_cons h)

theorem not_sparse (h : b < a + ABUSE_WINDOW) (h' : c < b + ABUSE_WINDOW) :
    ¬ Sparse (a :: b :: c :: times) := fun hsparse =>
  hsparse.1.elim (not_le.mpr h) (not_le.mpr h')

/-- The repeats that the strikes are from. -/
inductive Recent : List Time → Option (Nat × Time) → Prop
  | nil : Recent [] none
  | one (a : Time) : Recent [a] (some (1, a))
  | two {a b : Time} (h : b < a + ABUSE_WINDOW) : Recent [a, b] (some (2, b))

/-- By the moments: **without a request for contact details**, from where there have been some
repeats. -/
theorem calm_repeats_iff : ∀ (times : List Time) (opened : Option Time) {recent : List Time}
    {struck : Option (Nat × Time)}, Recent recent struck →
      ((∀ x ∈ tellings false ⟨opened, struck⟩ times, x.any harsh = false) ↔
        Sparse (recent ++ repeats opened times))
  | [], opened, recent, struck, h => by
    refine iff_of_true nofun ?_
    cases h <;> trivial
  | now :: times, opened, recent, struck, h => by
    rw [tellings, List.forall_mem_cons, repeats]
    by_cases hknown : (opened.any fun since => now < since + ABUSE_WINDOW) = true
    · -- one more repeat
      have hsignals : (⟨opened, struck⟩ : Standing).signals false now = 1 := by
        rw [Standing.signals, Standing.known, if_pos hknown]
        rfl
      have hnext : (⟨opened, struck⟩ : Standing).next false now =
          ⟨opened, some ((⟨opened, struck⟩ : Standing).strikes now + 1, now)⟩ := by
        rw [Standing.next, hsignals, Standing.known, if_pos hknown, if_neg Nat.one_ne_zero]
      have htold : (⟨opened, struck⟩ : Standing).told false now =
          some ((⟨opened, struck⟩ : Standing).strikes now + 1) := by
        rw [Standing.told, hsignals, if_neg Nat.one_ne_zero]
      rw [hnext, htold, if_pos hknown]
      cases h with
      | nil => exact (and_iff_right rfl).trans (calm_repeats_iff times opened (.one now))
      | one a =>
        by_cases hclose : now < a + ABUSE_WINDOW
        · have hstrikes : (⟨opened, some (1, a)⟩ : Standing).strikes now = 1 := if_pos hclose
          rw [hstrikes]
          exact (and_iff_right rfl).trans (calm_repeats_iff times opened (.two hclose))
        · have hstrikes : (⟨opened, some (1, a)⟩ : Standing).strikes now = 0 := if_neg hclose
          rw [hstrikes]
          exact (and_iff_right rfl).trans ((calm_repeats_iff times opened (.one now)).trans
            (sparse_cons (not_lt.mp hclose)).symm)
      | @two a b hab =>
        by_cases hclose : now < b + ABUSE_WINDOW
        · have hstrikes : (⟨opened, some (2, b)⟩ : Standing).strikes now = 2 := if_pos hclose
          rw [hstrikes]
          exact iff_of_false (fun hcalm => Bool.noConfusion hcalm.1) (not_sparse hab hclose)
        · have hstrikes : (⟨opened, some (2, b)⟩ : Standing).strikes now = 0 := if_neg hclose
          rw [hstrikes]
          exact (and_iff_right rfl).trans ((calm_repeats_iff times opened (.one now)).trans
            (sparse_cons_cons (not_lt.mp hclose)).symm)
    · -- the text is noted again
      have hsignals : (⟨opened, struck⟩ : Standing).signals false now = 0 := by
        rw [Standing.signals, Standing.known, if_neg hknown]
        rfl
      have hnext : (⟨opened, struck⟩ : Standing).next false now = ⟨some now, struck⟩ := by
        rw [Standing.next, hsignals, Standing.known, if_neg hknown, if_pos rfl]
      have htold : (⟨opened, struck⟩ : Standing).told false now = none := by
        rw [Standing.told, hsignals, if_pos rfl]
      rw [hnext, htold, if_neg hknown]
      exact (and_iff_right rfl).trans (calm_repeats_iff times (some now) h)

/-- By the moments: **with one**, from where the message has been assessed. -/
theorem calm_harvest_iff : ∀ (times : List Time) (last : Time),
    (∀ x ∈ tellings true ⟨some last, some (1, last)⟩ times, x.any harsh = false) ↔
      (last :: times).IsChain (· + ABUSE_WINDOW ≤ ·)
  | [], last => iff_of_true nofun (.singleton last)
  | now :: times, last => by
    rw [tellings, List.forall_mem_cons, List.isChain_cons_cons]
    by_cases hclose : now < last + ABUSE_WINDOW
    · have htold : (⟨some last, some (1, last)⟩ : Standing).told true now = some 3 := by
        simp [Standing.told, Standing.signals, Standing.known, Standing.strikes, hclose]
      rw [htold]
      exact iff_of_false (fun hcalm => Bool.noConfusion hcalm.1) fun h => not_le.mpr hclose h.1
    · have htold : (⟨some last, some (1, last)⟩ : Standing).told true now = some 1 := by
        simp [Standing.told, Standing.signals, Standing.known, Standing.strikes, hclose]
      have hnext : (⟨some last, some (1, last)⟩ : Standing).next true now =
          ⟨some now, some (1, now)⟩ := by
        simp [Standing.next, Standing.signals, Standing.known, Standing.strikes, hclose]
      rw [htold, hnext, calm_harvest_iff times now]
      exact (and_iff_right rfl).trans (and_iff_right (not_lt.mp hclose)).symm

/-- **A message that is new is never met harshly exactly if the moments are far enough apart.** -/
theorem calm_iff (harvest : Bool) (times : List Time) :
    (∀ x ∈ tellings harvest {} times, x.any harsh = false) ↔ Spaced harvest times := by
  cases harvest with
  | false => exact calm_repeats_iff times none .nil
  | true =>
    cases times with
    | nil => exact iff_of_true nofun .nil
    | cons now times =>
      rw [tellings, List.forall_mem_cons]
      exact (and_iff_right rfl).trans (calm_harvest_iff times now)

end Moments

end NxTutors.MatchAgent
