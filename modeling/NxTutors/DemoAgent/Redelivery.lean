import NxTutors.DemoAgent.World

/-!
# Redelivered events

`handle` claims the key of an event before it does anything else, and never gives a claim
back. What becomes of a redelivery is therefore decided by what the delivery before it left
under the key: if it left a claim, the redelivery is a duplicate until the claim expires,
whether or not the first delivery has done anything.

The invariant follows one key through one call: it is as it was found until it is claimed,
and is claimed from then on.
-/

namespace NxTutors.DemoAgent

open Effect

section Key

variable {C : Type} {cfg : Config} {e : Event} {w w₁ w₂ : World C}

/-- What is stored under the key of `e`. -/
def keyOf (cfg : Config) (e : Event) (w : World C) : Option Time :=
  w.claims "inbound" (e.dedup cfg)

/-- When a claim made at `now` expires. -/
def expiry (cfg : Config) (now : Time) : Time := now + cfg.idempotencyTtlSeconds * 1000000

/-- A stored claim has not expired. -/
def live (stored : Option Time) (now : Time) : Bool := stored.any (now < ·)

/-- The setting in which others do anything, at any time, but touch the key of `e`. -/
def minding [ConversationRepository C] (cfg : Config) (e : Event) : Setting ports Exn (World C) :=
  ⟨Answers, fun a b => keyOf cfg e b = keyOf cfg e a⟩

/-- The key as it is between the calls of a turn that came in at `now` and found `stored`. -/
def keyPhase (cfg : Config) (e : Event) (now : Time) (stored : Option Time) :
    Phase → World C → Prop
  | .start, _ => False
  | .claiming t, w => t = now ∧ keyOf cfg e w = stored
  | .duplicate, w => keyOf cfg e w = stored ∧ live stored now = true
  | _, w => keyOf cfg e w = some (expiry cfg now) ∧ live stored now = false

/-- The key when such a turn is over. -/
def keyAfter (cfg : Config) (e : Event) (now : Time) (stored : Option Time) :
    Except Exn TurnResult → World C → Prop
  | .ok tr, w =>
    if tr.duplicate then keyOf cfg e w = stored ∧ live stored now = true
    else keyOf cfg e w = some (expiry cfg now) ∧ live stored now = false
  | .error _, w => keyOf cfg e w = stored ∨ keyOf cfg e w = some (expiry cfg now)

theorem keyPhase_congr {now : Time} {stored : Option Time} {ph : Phase}
    (h : keyPhase cfg e now stored ph w₁) (hk : keyOf cfg e w₂ = keyOf cfg e w₁) :
    keyPhase cfg e now stored ph w₂ := by
  cases ph with
  | start => exact h
  | claiming t => exact ⟨h.1, hk.trans h.2⟩
  | _ => exact ⟨hk.trans h.1, h.2⟩

/-- A pass touches no key, however it ends. -/
theorem keyAfter_error {now : Time} {stored : Option Time} {ph : Phase} {exn : Exn}
    (h : keyPhase cfg e now stored ph w) : keyAfter cfg e now stored (.error exn) w := by
  cases ph with
  | start => exact absurd h id
  | claiming t => exact .inl h.2
  | duplicate => exact .inl h.1
  | _ => exact .inr h.1

theorem keyOf_withClaim (cfg : Config) (e : Event) (w : World C) (t : Time) :
    keyOf cfg e (w.withClaim "inbound" (e.dedup cfg) t) = some t := by
  simp [keyOf, World.withClaim]

variable [ConversationRepository C]

/-- Only the call that claims the key touches it. -/
theorem Answers.keyOf {o : Op} {r : Except Exn o.Res} (h : Answers o w₁ r w₂)
    (ho : ∀ key now ttl, o ≠ .claim key "inbound" now ttl) :
    keyOf cfg e w₂ = keyOf cfg e w₁ := by
  rw [DemoAgent.keyOf, DemoAgent.keyOf, h.claims ho]

/-- **The invariant of a turn**, about the key of its event. -/
def keyTurn (cfg : Config) (e : Event) (now : Time) (stored : Option Time) :
    TurnInvariant (minding (C := C) cfg e) (fun _ _ => True) (keyAfter cfg e now stored) cfg e where
  holds := keyPhase cfg e now stored
  move ph a b h hm := keyPhase_congr h hm
  quiet ph o a r b hq h ha :=
    have hk : keyOf cfg e b = keyOf cfg e a :=
      ha.keyOf fun key now ttl ho => by rw [ho] at hq; exact absurd hq Bool.false_ne_true
    ⟨trivial, keyPhase_congr h hk, ha.final hq⟩
  clock a r b h ha := absurd h id
  claim t a r b h ha := by
    obtain ⟨rfl, hstored⟩ := h
    refine ⟨trivial, ?_⟩
    have hlive : a.claimed "inbound" (e.dedup cfg) t = live stored t := by rw [← hstored]; rfl
    have hnew := keyOf_withClaim cfg e a (expiry cfg t)
    rcases ha.of_claim with ⟨hl, rfl, hr⟩ | ⟨hl, hr, ⟨rfl, hr'⟩ | rfl⟩
    · rw [hlive] at hl
      rcases r with exn | taken
      · exact .inl hstored
      · cases taken with
        | true => exact absurd rfl hr
        | false => exact ⟨hstored, hl⟩
    · rcases r with exn | taken
      · exact .inl hstored
      · cases taken with
        | true => exact absurd rfl hr'
        | false => exact absurd rfl hr
    · rw [hlive] at hl
      rcases r with exn | taken
      · exact .inr hnew
      · cases taken with
        | true => exact ⟨hnew, hl⟩
        | false => exact absurd rfl hr
  load n a r b h ha := by
    have hk := keyPhase_congr h (ha.keyOf (by nofun))
    refine ⟨trivial, ?_⟩
    rcases ha.of_load.2 with rfl | ⟨name, rfl⟩
    · exact hk
    · exact ⟨trivial, keyAfter_error hk⟩
  save n s t facts result a r b h hfire ha := by
    have hk := keyPhase_congr h (ha.keyOf (by nofun))
    refine ⟨trivial, ?_⟩
    rcases r with exn | s'
    · cases exn with
      | conflict c => exact hk
      | ownership err => exact .inr hk.1
      | other name => exact .inr hk.1
    · exact hk
  execute n result ctx payload a r b h hcmd ha :=
    have hk := keyPhase_congr h (ha.keyOf (by nofun))
    ⟨trivial, hk, hk⟩
  send result m a r b h hm ha :=
    ⟨trivial, keyPhase_congr h (ha.keyOf (by nofun)), (ha.neutral rfl).2⟩
  noCommand n result a hnone h := h
  compensate n result ctx payload a r b h hcomp ha :=
    ⟨trivial, keyPhase_congr h (ha.keyOf (by nofun))⟩
  loadFollow n result a r b h ha := by
    have hk := keyPhase_congr h (ha.keyOf (by nofun))
    refine ⟨trivial, ?_⟩
    rcases ha.of_load.2 with rfl | ⟨name, rfl⟩
    · exact hk
    · exact ⟨trivial, keyAfter_error hk⟩
  skipFollow n result s facts a refusal h hfire := h
  saveFollow n result s t facts follow a r b h hfire ha := by
    have hk := keyPhase_congr h (ha.keyOf (by nofun))
    refine ⟨trivial, ?_⟩
    rcases r with exn | s'
    · cases exn with
      | conflict c => exact hk
      | ownership err => exact .inr hk.1
      | other name => exact .inr hk.1
    · exact hk
  lastLoad ph a r b hph h ha :=
    have hk := keyPhase_congr h (ha.keyOf (by nofun))
    ⟨trivial, hk, fun _ _ => keyAfter_error hk⟩
  raised ph exn a h hx := keyAfter_error h
  accepted result tr a h hacc hdup := by rw [keyAfter, hdup]; exact h
  rejected n s facts refusal tr a h hfire hacc hdup hreason := by rw [keyAfter, hdup]; exact h
  exhausted tr a h hacc hdup := by rw [keyAfter, hdup]; exact h
  duplicate tr a h hacc hdup := by rw [keyAfter, hdup]; exact h

/-- **What one delivery does to its key.** It is answered as a duplicate if the claim it found
is live, and then leaves it; answered otherwise, it has claimed the key. -/
theorem handleAt_key {now : Time} {out : Except Exn TurnResult}
    (h : Run (minding cfg e) (handleAt cfg e now) w out w₁) :
    keyAfter cfg e now (keyOf cfg e w) out w₁ :=
  ((keyTurn cfg e now (keyOf cfg e w)).handleAt ⟨rfl, rfl⟩).run h

/-- **When a redelivery is evaluated again.** A delivery at `now`, however it ended, is
followed by another one before a claim made at `now` would expire. The second is evaluated by
the machine exactly when the first left no claim (so that it did not get further than the
claim itself) and no older claim is live. -/
theorem redelivery_evaluated_iff (cfg : Config) (e : Event) {now later : Time}
    (hlater : now ≤ later) (hwithin : later < expiry cfg now) {w w₁ w₂ : World C}
    {out : Except Exn TurnResult} {tr : TurnResult}
    (hfirst : Run (minding cfg e) (handleAt cfg e now) w out w₁)
    (hagain : Run (minding cfg e) (handleAt cfg e later) w₁ (.ok tr) w₂) :
    tr.duplicate = false ↔
      keyOf cfg e w₁ = keyOf cfg e w ∧ live (keyOf cfg e w) later = false := by
  have h₁ := handleAt_key hfirst
  have h₂ := handleAt_key hagain
  -- a claim made at `now` is live at both moments
  have hlive : live (some (expiry cfg now)) later = true := by simpa [live] using hwithin
  have hlive' : live (some (expiry cfg now)) now = true := by
    simpa [live] using lt_of_le_of_lt hlater hwithin
  have hkey : keyOf cfg e w₁ = keyOf cfg e w ∨
      keyOf cfg e w₁ = some (expiry cfg now) ∧ keyOf cfg e w₁ ≠ keyOf cfg e w := by
    by_cases heq : keyOf cfg e w₁ = keyOf cfg e w
    · exact .inl heq
    · refine .inr ⟨?_, heq⟩
      rcases out with exn | tr₁
      · exact h₁.resolve_left heq
      · rw [keyAfter] at h₁
        split at h₁
        · exact absurd h₁.1 heq
        · exact h₁.1
  constructor
  · intro hdup
    rw [keyAfter, hdup] at h₂
    rcases hkey with heq | ⟨hnew, _⟩
    · exact ⟨heq, heq ▸ h₂.2⟩
    · have hdead := h₂.2
      rw [hnew, hlive] at hdead
      cases hdead
  · rintro ⟨heq, hdead⟩
    cases hdup : tr.duplicate with
    | false => rfl
    | true =>
      rw [keyAfter, hdup, heq, hdead] at h₂
      exact absurd h₂.2 Bool.false_ne_true

end Key

/-! ## A delivery that fails, and another one -/

/-- A delivery that fails in its claim is evaluated when it comes again, an hour later. -/
theorem failed_claim_evaluated_again :
    let w : World InMemoryConversations := { conversations := {} }
    ∃ exn w₁ tr w₂, Run (minding plainConfig handoff) (handleAt plainConfig handoff 0) w
        (.error exn) w₁ ∧
      Run (minding plainConfig handoff) (handleAt plainConfig handoff hour) w₁ (.ok tr) w₂ ∧
      tr.duplicate = false := by
  have hmoves : ∀ a b : World InMemoryConversations, a = b →
      (minding plainConfig handoff).moves a b := fun a b h => h ▸ rfl
  have h₁ := (run_failingAt 0 (handleAt plainConfig handoff 0)
    ({ conversations := {} } : World InMemoryConversations)).mono
    (minding plainConfig handoff) rfl hmoves
  have h₂ := (run_smooth (handleAt plainConfig handoff hour)
    (play (World.failingAt 0) 0 (handleAt plainConfig handoff 0)
      ({ conversations := {} } : World InMemoryConversations)).2).mono
    (minding plainConfig handoff) rfl hmoves
  refine ⟨_, _, _, _, h₁, h₂, ?_⟩
  exact (redelivery_evaluated_iff plainConfig handoff (by decide) (by decide) h₁ h₂).mpr
    ⟨by decide, by decide⟩

/-- A delivery that fails right after its claim is lost: the conversation is still new when
the handoff comes again, an hour later, and the answer is that it is a duplicate. -/
theorem redelivered_handoff_lost :
    let w : World InMemoryConversations := { conversations := {} }
    ∃ exn w₁ tr w₂, Run alone (handleAt plainConfig handoff 0) w (.error exn) w₁ ∧
      w₁.conversations.history "c" = [] ∧ (w₁.conversations.load "c").state = .new ∧
      hour < expiry plainConfig 0 ∧
      Run alone (handleAt plainConfig handoff hour) w₁ (.ok tr) w₂ ∧
      tr.duplicate = true ∧ w₂.conversations.history "c" = [] := by
  have h₁ := run_failingAt 2 (handleAt plainConfig handoff 0)
    ({ conversations := {} } : World InMemoryConversations)
  have h₂ := run_smooth (handleAt plainConfig handoff hour)
    (play (World.failingAt 2) 0 (handleAt plainConfig handoff 0)
      ({ conversations := {} } : World InMemoryConversations)).2
  exact ⟨_, _, _, _, h₁, by decide, by decide, by decide, h₂, by decide, by decide⟩

end NxTutors.DemoAgent
