import NxTutors.DemoAgent.Decisions
import NxTutors.DemoAgent.PaidFunnel

/-!
# Whose verification a payment rests on

The guard of `PAYMENT_PAID` asks for three facts that only the handler of the provider's webhook
establishes. It reads them from the merged dictionary, though, and a turn stores its merged
dictionary with the transition: what a failed payment has brought along is still there when the
next payment comes. A payment rests on the verification of another event exactly when its own
payload leaves one of the three out and what is stored makes up for it (`LeftOver`).
-/

namespace NxTutors.DemoAgent

open Effect

/-- What the handler of a payment event establishes about it. -/
def VERIFICATION : List String :=
  ["signature_verified", "amount_matches_order", "order_belongs_to_conversation"]

/-- The payload of an event says of itself that it is verified. -/
def Verified (payload : Facts) : Prop :=
  ∀ name ∈ VERIFICATION, (payload.get name).truthy = true

instance (payload : Facts) : Decidable (Verified payload) :=
  inferInstanceAs (Decidable (∀ name ∈ VERIFICATION, (payload.get name).truthy = true))

/-- The payload leaves one of the facts out, and with what is stored they are all there. -/
def LeftOver (payload stored : Facts) : Prop :=
  (∃ name ∈ VERIFICATION, payload name = none) ∧
    ∀ name ∈ VERIFICATION, ((stored.merge payload).get name).truthy = true

/-- The guard of a payment asks for nothing but the three facts. -/
theorem paymentVerified_eq_none_iff {ctx : GuardContext} :
    paymentVerified ctx = none ↔ ∀ name ∈ VERIFICATION, (ctx.fact name).truthy = true := by
  simp only [paymentVerified, VERIFICATION, List.forall_mem_cons, List.not_mem_nil,
    false_implies, implies_true, and_true]
  cases (ctx.fact "signature_verified").truthy <;>
    cases (ctx.fact "amount_matches_order").truthy <;>
      cases (ctx.fact "order_belongs_to_conversation").truthy <;> simp

/-- What was seen to be there was in the payload, unless something was left over. -/
theorem verified_iff_not_leftOver {payload facts : Facts}
    (hseen : ∀ name ∈ VERIFICATION, ((facts.merge payload).get name).truthy = true) :
    Verified payload ↔ ¬ LeftOver payload facts := by
  constructor
  · rintro hverified ⟨⟨name, hname, hnone⟩, _⟩
    have htruthy := hverified name hname
    rw [Facts.get, hnone] at htruthy
    cases htruthy
  · intro hleft name hname
    cases hpayload : payload name with
    | none => exact absurd ⟨⟨name, hname, hpayload⟩, hseen⟩ hleft
    | some value =>
      have htruthy := hseen name hname
      rw [Facts.get, Facts.merge, hpayload] at htruthy
      rw [Facts.get, hpayload]
      exact htruthy

/-- What the machine has seen of a payment it grants. -/
theorem granted_payment {s : StateSnapshot} {actor : Actor} {facts : Facts}
    {result : TransitionResult} (h : fire s .paymentPaid actor facts = .ok result) :
    ∀ name ∈ VERIFICATION, ((s.facts.merge facts).get name).truthy = true := by
  obtain ⟨row, hrow, htrigger, hguard⟩ : ∃ row ∈ TRANSITIONS, row.trigger = .paymentPaid ∧
      row.guard = some paymentVerified := by simp [TRANSITIONS]
  have hnone := (fire_guard h hrow htrigger).1
  rw [Transition.refusal, hguard] at hnone
  exact paymentVerified_eq_none_iff.mp hnone

/-- None of the three is assembled, and a payload may carry each of them. -/
theorem verification_carried : ∀ name ∈ VERIFICATION,
    name ∉ ASSEMBLED ∧ name ∈ PAYLOAD_FACT_ALLOWLIST := by decide

/-- **Whose verification a payment rests on.** However events are handled, and whatever store
they are handled over: a `PAYMENT_PAID` that is stored was fired by an event whose own payload is
verified exactly if, with the snapshot it was decided on, nothing was left over. -/
theorem payment_fresh_iff {C : Type} [ConversationRepository C] (cfg : Config)
    (events : Nat → Event) (w : World C)
    {p : Pool ports Exn TurnResult (World C × List (Nat × Call ports Exn)) Nat}
    (h : Pool.Reach (turns cfg events).traced (Pool.start (w, [])) p)
    {before after : List (Nat × Call ports Exn)} {n : Nat} {c : Call ports Exn}
    {result : TransitionResult} (hlog : p.world.2 = before ++ (n, c) :: after)
    (hstored : stored c = some result) (hpaid : result.trigger = .paymentPaid) :
    (events n).trigger = .paymentPaid ∧ ∃ s, latest loaded (own n before) = some s ∧
      (Verified (events n).payload ↔ ¬ LeftOver (events n).payload s.facts) := by
  rcases stored_own_move h hlog hstored with ⟨now, s, demo, facts, hown⟩ | hfollow
  · have hgranted := hown.granted
    have htrigger : (events n).trigger = .paymentPaid := by
      obtain ⟨row, _, _, _, _, rfl⟩ := fire_eq_ok hgranted
      exact hpaid
    rw [htrigger] at hgranted
    refine ⟨htrigger, s, hown.read.snapshot, verified_iff_not_leftOver fun name hname => ?_⟩
    have hcarried := verification_carried name hname
    rw [← hown.seen name hcarried.1 hcarried.2]
    exact granted_payment hgranted name hname
  · rw [hfollow] at hpaid
    cases hpaid

/-! ## A payment nobody verified -/

/-- What the handler of the webhook says of a payment event. -/
def verifiedPayload : Facts :=
  Facts.ofList [("signature_verified", .bool true), ("amount_matches_order", .bool true),
    ("order_belongs_to_conversation", .bool true)]

/-- A payment fails, the link is issued again, and `PAYMENT_PAID` comes with `payload`. -/
def payingAfterFailure (payload : Facts) : List Event :=
  paying.take 15 ++
    [event "16" .paymentFailed .paymentProvider verifiedPayload,
      event "17" .paymentLinkIssued .system, event "18" .paymentPaid .paymentProvider payload]

/-- The `n`-th of the events. -/
def nth (events : List Event) (n : Nat) : Event := events.getD n handoff

/-- A store nobody has written to. -/
def freshWorld : World InMemoryConversations := { conversations := {} }

/-- The calls of the events when they are handled one after the other. -/
def traceOf (w : World InMemoryConversations) (events : List Event) :
    World InMemoryConversations × List (Nat × Call ports Exn) :=
  Pool.tracePlays untilActivation
    ((List.range events.length).map fun n => (n, handle plainConfig (nth events n))) (w, [])

theorem traceOf_reached (w : World InMemoryConversations) (events : List Event) :
    ∃ fin, Pool.Reach (turns plainConfig (nth events)).traced (Pool.start (w, []))
      ⟨traceOf w events, [], fin⟩ := by
  refine Pool.Reach.traced_plays (A := turns plainConfig (nth events))
    (fun _ n o w => answers_untilActivation n o w) ?_ ?_ _ [] ?_ ?_
  · intro x hx w
    obtain ⟨n, _, rfl⟩ := List.mem_map.mp hx
    rfl
  · rw [List.map_map]
    simpa [Function.comp_def] using List.nodup_range
  · intro x _
    rfl
  · intro x _
    exact List.not_mem_nil

/-- The call stores a payment, and is answered. -/
def storesPayment (c : Call ports Exn) : Bool :=
  match c with
  | ⟨.saveTransition result _ _, .ok _⟩ => result.trigger = .paymentPaid
  | _ => false

theorem stored_of_storesPayment {c : Call ports Exn} (h : storesPayment c = true) :
    ∃ result, stored c = some result ∧ result.trigger = .paymentPaid := by
  obtain ⟨o, r⟩ := c
  cases o with
  | saveTransition result now facts =>
    rcases r with exn | s
    · cases h
    · exact ⟨result, rfl, of_decide_eq_true h⟩
  | _ => cases h

/-- A payment of the run whose event does, or does not, come verified. -/
theorem exists_payment (events : List Event) (verified : Bool)
    (h : (traceOf freshWorld events).2.any (fun x => storesPayment x.2 &&
      decide (Verified (nth events x.1).payload) == verified) = true) :
    ∃ x ∈ (traceOf freshWorld events).2, storesPayment x.2 = true ∧
      (Verified (nth events x.1).payload ↔ verified = true) := by
  obtain ⟨x, hmem, hx⟩ := List.any_eq_true.mp h
  rw [Bool.and_eq_true, beq_iff_eq] at hx
  refine ⟨x, hmem, hx.1, ?_⟩
  rw [← hx.2, decide_eq_true_eq]

/-- It applies to a payment that is verified itself, after one that had failed. -/
theorem verified_payment_fresh :
    ∃ x ∈ (traceOf freshWorld (payingAfterFailure verifiedPayload)).2,
      storesPayment x.2 = true ∧ ∃ s : StateSnapshot,
        ¬ LeftOver (nth (payingAfterFailure verifiedPayload) x.1).payload s.facts := by
  obtain ⟨fin, hreach⟩ := traceOf_reached freshWorld (payingAfterFailure verifiedPayload)
  obtain ⟨⟨n, c⟩, hmem, hstores, hverified⟩ :=
    exists_payment (payingAfterFailure verifiedPayload) true (by decide +kernel)
  obtain ⟨before, after, hlog⟩ := List.append_of_mem hmem
  obtain ⟨result, hstored, hpaid⟩ := stored_of_storesPayment hstores
  obtain ⟨_, s, _, hiff⟩ := payment_fresh_iff plainConfig _ _ hreach hlog hstored hpaid
  exact ⟨(n, c), hmem, hstores, s, hiff.mp (hverified.mpr rfl)⟩

/-- A payment failed, and was verified as such. The link is issued again, and then `PAYMENT_PAID`
is stored on behalf of an event that carries nothing at all. -/
theorem payment_left_over :
    ∃ p, Pool.Reach (turns plainConfig (nth (payingAfterFailure Facts.empty))).traced
        (Pool.start (freshWorld, [])) p ∧
      ∃ x ∈ p.world.2, storesPayment x.2 = true ∧
        ¬ Verified (nth (payingAfterFailure Facts.empty) x.1).payload := by
  obtain ⟨fin, hreach⟩ := traceOf_reached freshWorld (payingAfterFailure Facts.empty)
  obtain ⟨x, hmem, hstores, hverified⟩ :=
    exists_payment (payingAfterFailure Facts.empty) false (by decide +kernel)
  exact ⟨_, hreach, x, hmem, hstores, fun hv => Bool.false_ne_true (hverified.mp hv)⟩

end NxTutors.DemoAgent
