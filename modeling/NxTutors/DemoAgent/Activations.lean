import NxTutors.DemoAgent.Commands
import NxTutors.DemoAgent.World
import NxTutors.Effect.Answering

/-!
# Activations that are forgotten

To activate the subscription of an order, the attempts so far are read, the gateway is asked, and
what came of it is saved as the next attempt. The number of that attempt is one more than the
number that was read, and the table takes a number once: what is saved under a number that is taken
is dropped, and nobody is told.

Two calls that read before either of them saves have the same number. If the one that failed saves
first, the one that succeeded is dropped: the customer has paid, the subscription runs, and the
table says that it was never activated. `activated_if_roomy` says that this is all that can happen:
as long as each success finds its number free, or the order activated before, no success is
forgotten.
-/

namespace NxTutors.DemoAgent

open Effect

/-! ## The table -/

/-- The attempts to activate a subscription, as PostgreSQL holds them. -/
abbrev PgActivations : Type := List SubscriptionActivation

namespace PgActivations

/-- `ORDER BY succeeded DESC, attempt DESC`. -/
def Precedes (a b : SubscriptionActivation) : Prop :=
  b.succeeded < a.succeeded ∨ b.succeeded = a.succeeded ∧ b.attempt ≤ a.attempt

instance : DecidableRel Precedes := fun _ _ => inferInstanceAs (Decidable (_ ∨ _))

/-- The attempt that speaks for the order. -/
def activationFor (rows : PgActivations) (orderRef : String) : Option SubscriptionActivation :=
  ((rows.filter fun r : SubscriptionActivation => r.orderRef = orderRef).insertionSort Precedes).head?

/-- Save an attempt, or raise. -/
def saveActivation (rows : PgActivations) (activation : SubscriptionActivation) :
    Option PgActivations :=
  -- `dcc_activation_ref`
  if activation.succeeded && decide (activation.subscriptionRef = "") then none
  -- `ON CONFLICT (order_ref, attempt) DO NOTHING`
  else if rows.any fun r => r.orderRef = activation.orderRef && r.attempt = activation.attempt then
    some rows
  -- `dcc_activation_success_uidx`
  else if activation.succeeded &&
      rows.any fun r => decide (r.orderRef = activation.orderRef) && r.succeeded then none
  else some (rows ++ [activation])

/-- The order is activated, as far as the table knows. -/
def Activated (rows : PgActivations) (orderRef : String) : Prop :=
  ∃ r ∈ rows, r.orderRef = orderRef ∧ r.succeeded = true

/-- What is saved finds its number free, or the order activated before. -/
def Room (rows : PgActivations) (activation : SubscriptionActivation) : Prop :=
  Activated rows activation.orderRef ∨
    ∀ r ∈ rows, r.orderRef = activation.orderRef → r.attempt ≠ activation.attempt

variable {rows rows' : PgActivations} {activation : SubscriptionActivation} {orderRef : String}

/-- What is activated stays so. -/
theorem Activated.mono (h : Activated rows orderRef) (hsub : ∀ r ∈ rows, r ∈ rows') :
    Activated rows' orderRef := by
  obtain ⟨r, hr, hactivated⟩ := h
  exact ⟨r, hsub r hr, hactivated⟩

/-- No row is ever removed. -/
theorem mem_saveActivation (h : rows.saveActivation activation = some rows') {r} (hr : r ∈ rows) :
    r ∈ rows' := by
  rw [saveActivation] at h
  split at h
  · cases h
  · split at h
    · obtain rfl := Option.some.inj h
      exact hr
    · split at h
      · cases h
      · obtain rfl := Option.some.inj h
        exact List.mem_append_left _ hr

/-- **A success is stored exactly if there is room for it**: whether it is saved, dropped or
refused, the order is activated afterwards if, and only if, there was. -/
theorem activated_saveActivation_iff (hsucceeded : activation.succeeded = true)
    (href : activation.subscriptionRef ≠ "") :
    Activated ((rows.saveActivation activation).getD rows) activation.orderRef ↔
      Room rows activation := by
  have htaken : (rows.any fun r => r.orderRef = activation.orderRef &&
      r.attempt = activation.attempt) = true ↔
      ∃ r ∈ rows, r.orderRef = activation.orderRef ∧ r.attempt = activation.attempt := by
    simp
  have hactivated : (rows.any fun r => decide (r.orderRef = activation.orderRef) && r.succeeded) =
      true ↔ Activated rows activation.orderRef := by
    simp [Activated]
  rw [saveActivation, if_neg (by simp [href])]
  split
  · rename_i h
    obtain ⟨r, hr, hsame, hattempt⟩ := htaken.mp h
    exact ⟨.inl, fun hroom => hroom.resolve_right fun hfree => hfree r hr hsame hattempt⟩
  · rename_i h
    have hfree : ∀ r ∈ rows, r.orderRef = activation.orderRef → r.attempt ≠ activation.attempt :=
      fun r hr hsame hattempt => h (htaken.mpr ⟨r, hr, hsame, hattempt⟩)
    split
    · rename_i h
      rw [hsucceeded, Bool.true_and] at h
      exact ⟨.inl, fun _ => hactivated.mp h⟩
    · refine ⟨fun _ => .inr hfree, fun _ => ⟨activation, ?_, rfl, hsucceeded⟩⟩
      exact List.mem_append_right _ List.mem_cons_self

end PgActivations

/-! ## Calls that take turns -/

open PgActivations (Activated Room)

/-- What a call can be answered over the table. The clock and the gateway may say anything, and
reading may fail; a database that fails while saving is a call that is killed there. -/
def PgActivations.Answers : (o : Op) → PgActivations → Except Exn o.Res → PgActivations → Prop
  | .activationFor orderRef, rows, r, rows' =>
    rows' = rows ∧ ∀ found, r = .ok found → found = rows.activationFor orderRef
  | .saveActivation activation, rows, r, rows' =>
    rows' = (rows.saveActivation activation).getD rows ∧
      (r.toBool = (rows.saveActivation activation).isSome)
  | _, rows, _, rows' => rows' = rows

/-- A success that is saved finds room. -/
def Op.Roomy : Op → PgActivations → Prop
  | .saveActivation activation, rows => activation.succeeded = true → Room rows activation
  | _, _ => True

/-- Any number of calls that activate one order, each of whose steps is as `P` says. Others save
what they like of other orders. -/
def activating (cfg : Config) (orderRef : String) (P : Op → PgActivations → Prop) :
    Arena ports Exn (SubscriptionActivation × Bool) PgActivations Nat where
  answers _ o rows r rows' := PgActivations.Answers o rows r rows' ∧ P o rows
  enters _ p _ := ∃ order : PaymentOrder, order.orderRef = orderRef ∧ p = activateOrder cfg order
  outside rows rows' := ∀ r, r.orderRef = orderRef → (r ∈ rows' ↔ r ∈ rows)

/-- The gateway has answered the call with a subscription of the order. -/
def subscribes (orderRef : String) : Call ports Exn → Bool
  | ⟨.activateSubscription ref _ _, .ok (.ok subscriptionRef)⟩ =>
    ref = orderRef && subscriptionRef ≠ ""
  | _ => false

/-- The call saves a subscription of the order. -/
def savesSuccess (orderRef : String) : Call ports Exn → Bool
  | ⟨.saveActivation activation, _⟩ =>
    activation.orderRef = orderRef && activation.succeeded && activation.subscriptionRef ≠ ""
  | _ => false

variable {cfg : Config} {order : PaymentOrder} {orderRef : String}

/-- A call that is done knows what the gateway has answered, and has saved it. -/
def Saved (orderRef : String) (h : History ports Exn) : Prop :=
  (∃ c ∈ h, subscribes orderRef c = true) → ∃ c ∈ h, savesSuccess orderRef c = true

/-- Where the gateway has answered nothing, nothing has to be saved. -/
theorem saved_of_quiet {h : History ports Exn} (hquiet : ∀ c ∈ h, subscribes orderRef c = false) :
    Saved orderRef h := by
  rintro ⟨c, hc, htrue⟩
  rw [hquiet c hc] at htrue
  cases htrue

/-- What is left of a call is to save what came of it. -/
theorem saveActivation_meets {h : History ports Exn} {activation : SubscriptionActivation}
    {result : SubscriptionActivation × Bool}
    (hsaved : ∀ r, Saved orderRef (h ++ [⟨.saveActivation activation, r⟩])) :
    Meets (answering fun _ _ => True).logged (fun _ _ => True) (fun _ b => Saved orderRef b.2)
      (ask (.saveActivation activation) >>= fun _ => pure result : Act _) ((), h) :=
  meets_answering_bind (S := ports) (o := Op.saveActivation activation)
    (fun x _ => hsaved (.ok x)) fun e _ => hsaved (.error e)

/-- **What the gateway has answered is saved**, however the call ends. -/
theorem activateOrder_meets (horder : order.orderRef = orderRef) :
    Meets (answering fun _ _ => True).logged (fun _ _ => True) (fun _ b => Saved orderRef b.2)
      (activateOrder cfg order) ((), []) := by
  refine meets_answering_bind (S := ports) (o := Op.now) (fun _ _ => ?_) fun _ _ =>
    saved_of_quiet (by simp [subscribes])
  refine meets_answering_bind (S := ports) (o := Op.activationFor order.orderRef)
    (fun (previous : Option SubscriptionActivation) _ => ?_) fun _ _ =>
    saved_of_quiet (by simp [subscribes])
  split
  · exact saved_of_quiet (by simp [subscribes])
  · refine meets_answering_bind (S := ports) (o := Op.activateSubscription ..)
      (fun (answer : Except ProviderError String) _ => ?_) fun _ _ =>
      saved_of_quiet (by simp [subscribes])
    cases answer with
    | error e => exact saveActivation_meets fun _ => saved_of_quiet (by simp [subscribes])
    | ok subscriptionRef =>
      by_cases href : subscriptionRef = ""
      · subst href
        exact saveActivation_meets fun _ => saved_of_quiet (by simp [subscribes])
      · change Meets _ _ _ (if subscriptionRef = "" then _ else _) _
        rw [if_neg href]
        refine saveActivation_meets fun _ _ => ⟨_, List.mem_concat_self .., ?_⟩
        simp [savesSuccess, horder, href]

/-- **A call keeps what has been activated, and activates what finds room.** -/
theorem PgActivations.Answers.activated {o : Op} {rows rows' : PgActivations}
    {r : Except Exn o.Res} (h : PgActivations.Answers o rows r rows') :
    (Activated rows orderRef → Activated rows' orderRef) ∧
      (o.Roomy rows → savesSuccess orderRef ⟨o, r⟩ = true → Activated rows' orderRef) := by
  cases o with
  | saveActivation activation =>
    obtain ⟨rfl, -⟩ := h
    refine ⟨fun hactivated => hactivated.mono fun x hx => ?_, fun hroomy hsaves => ?_⟩
    · cases hsave : rows.saveActivation activation with
      | none => exact hx
      | some next => exact mem_saveActivation hsave hx
    · obtain ⟨⟨rfl, hsucceeded⟩, href⟩ : (activation.orderRef = orderRef ∧
          activation.succeeded = true) ∧ activation.subscriptionRef ≠ "" := by
        simpa [savesSuccess] using hsaves
      exact (activated_saveActivation_iff hsucceeded href).mpr (hroomy hsucceeded)
  | activationFor ref =>
    obtain ⟨rfl, -⟩ := h
    exact ⟨id, fun _ hsaves => by cases hsaves⟩
  | _ =>
    obtain rfl := h
    exact ⟨id, fun _ hsaves => by cases hsaves⟩

variable {rows : PgActivations}
  {p : Pool ports Exn (SubscriptionActivation × Bool)
    (PgActivations × List (Nat × Call ports Exn)) Nat}

/-- **No success is forgotten that finds room.** However calls that activate an order take turns,
and whatever the gateway answers each of them: if every success that is saved finds its number
free, or the order activated before, then whenever a call is done that the gateway has answered
with a subscription, the table holds a success of the order. -/
theorem activated_if_roomy
    (hreach : Pool.Reach (activating cfg orderRef Op.Roomy).traced (Pool.start (rows, [])) p)
    {t : Nat} {out : Except Exn (SubscriptionActivation × Bool)} (hdone : (t, out) ∈ p.finished)
    (hsubscribed : ∃ c ∈ own t p.world.2, subscribes orderRef c = true) :
    Activated p.world.1 orderRef := by
  have hrecounted := Pool.Reach.recounted (P := fun _ _ => True)
    (R := fun _ _ h => Saved orderRef h)
    (I := fun a => ∀ x ∈ a.2, savesSuccess orderRef x.2 = true → Activated a.1 orderRef)
    (fun _ _ _ _ _ _ => trivial) ?_ (fun _ hx => absurd hx List.not_mem_nil) ?_ ?_ hreach
  · obtain ⟨c, hc, hsaves⟩ := hrecounted.finished (t, out) hdone hsubscribed
    exact hrecounted.inv (t, c) (mem_own.mp hc) hsaves
  · rintro t q w ⟨order, horder, rfl⟩
    exact activateOrder_meets horder
  · rintro t o a r b log hI ⟨hans, hroomy⟩ x hx hsaves
    rcases List.mem_append.mp hx with hx | hx
    · exact hans.activated.1 (hI x hx hsaves)
    · obtain rfl := List.mem_singleton.mp hx
      exact hans.activated.2 hroomy hsaves
  · intro a b log hI hout x hx hsaves
    obtain ⟨r, hr, href, hsucceeded⟩ := hI x hx hsaves
    exact ⟨r, (hout r href).mpr hr, href, hsucceeded⟩

/-! ## Two calls for one order -/

/-- An order that has been paid for. -/
def paidFor : PaymentOrder where
  orderRef := "o"
  conversationRef := "c"
  demoId := "d"
  amountMinor := 4500
  createdAt := 0
  expiresAt := hour

/-- A subscription that has been activated. -/
def activated : SubscriptionActivation where
  orderRef := "o"
  succeeded := true
  subscriptionRef := "s"

section Runs

variable {P : Op → PgActivations → Prop} {a : PgActivations × List (Nat × Call ports Exn)}
  {running : List (Nat × Act (SubscriptionActivation × Bool))}
  {fin : List (Nat × Except Exn (SubscriptionActivation × Bool))}

/-- The order is to be activated once more. -/
theorem step_enter (t : Nat) (hlog : own t a.2 = []) (hfresh : t ∉ running.map Prod.fst) :
    Pool.Step (activating plainConfig "o" P).traced ⟨a, running, []⟩
      ⟨a, running ++ [(t, activateOrder plainConfig paidFor)], []⟩ :=
  .enter ⟨⟨paidFor, rfl, rfl⟩, hlog⟩ hfresh

/-- A call that activates it is answered. -/
theorem step_call (l r : List (Nat × Act (SubscriptionActivation × Bool))) {t : Nat} {o : Op}
    {k : Except Exn o.Res → Act (SubscriptionActivation × Bool)} (res : Except Exn o.Res)
    {rows : PgActivations} (hans : PgActivations.Answers o a.1 res rows) (hstep : P o a.1) :
    Pool.Step (activating plainConfig "o" P).traced ⟨a, l ++ (t, .call o k) :: r, fin⟩
      ⟨(rows, a.2 ++ [(t, ⟨o, res⟩)]), l ++ (t, k res) :: r, fin⟩ :=
  .call ⟨⟨hans, hstep⟩, rfl⟩

/-- It is done. -/
theorem step_finish (l r : List (Nat × Act (SubscriptionActivation × Bool))) {t : Nat}
    {p : Act (SubscriptionActivation × Bool)} {out : Except Exn (SubscriptionActivation × Bool)}
    (hend : p.ending = some out) :
    Pool.Step (activating plainConfig "o" P).traced ⟨a, l ++ (t, p) :: r, fin⟩
      ⟨a, l ++ r, fin ++ [(t, out)]⟩ :=
  .finish hend

end Runs

/-- The entry before the last one is in the log. -/
theorem mem_before_last {γ : Type} {log : List γ} {x y : γ} : x ∈ log ++ [x] ++ [y] := by
  simp

/-- One call on its own is saved. -/
theorem activated_alone : ∃ p, Pool.Reach (activating plainConfig "o" Op.Roomy).traced
    (Pool.start ([], [])) p ∧ Activated p.world.1 "o" := by
  have hentered : Pool.Reach (activating plainConfig "o" Op.Roomy).traced (Pool.start ([], []))
      ⟨([], []), [(0, activateOrder plainConfig paidFor)], []⟩ :=
    .single (step_enter 0 rfl List.not_mem_nil)
  have hnow := hentered.tail (step_call [] [] (o := Op.now) (.ok (0 : Time)) rfl trivial)
  have hread := hnow.tail (step_call [] [] (o := Op.activationFor "o") (.ok none)
    ⟨rfl, fun _ h => by cases h; rfl⟩ trivial)
  have hgateway := hread.tail (step_call [] [] (o := Op.activateSubscription ..)
    (.ok (.ok "s")) rfl trivial)
  have hsave := hgateway.tail (step_call [] [] (o := Op.saveActivation activated) (.ok ())
    ⟨rfl, rfl⟩ fun _ => .inr fun r hr => absurd hr List.not_mem_nil)
  have hdone := hsave.tail (step_finish [] [] rfl)
  exact ⟨_, hdone, activated_if_roomy hdone List.mem_cons_self ⟨_, mem_own.mpr mem_before_last, rfl⟩⟩

/-- What is saved of the call that the gateway has not answered. -/
def unanswered : SubscriptionActivation where
  orderRef := "o"
  errorCode := "timeout"

/-- **A success is forgotten.** Two calls find that nothing has been tried yet. The gateway does not
answer the second one, which saves that, as the first attempt; then it answers the first one, whose
success would be the first attempt, too. Both are done, and there is no success in the table. -/
theorem success_forgotten : ∃ p, Pool.Reach (activating plainConfig "o" fun _ _ => True).traced
    (Pool.start ([], [])) p ∧ p.running = [] ∧
      (∃ out, (0, out) ∈ p.finished ∧ ∃ c ∈ own 0 p.world.2, subscribes "o" c = true) ∧
      ¬ Activated p.world.1 "o" := by
  have hfirst : Pool.Reach (activating plainConfig "o" fun _ _ => True).traced
      (Pool.start ([], [])) ⟨([], []), [(0, activateOrder plainConfig paidFor)], []⟩ :=
    .single (step_enter 0 rfl List.not_mem_nil)
  have hboth := hfirst.tail (step_enter 1 rfl (by simp))
  have hnow := hboth.tail (step_call [] [_] (o := Op.now) (.ok (0 : Time)) rfl trivial)
  have hread := hnow.tail (step_call [] [_] (o := Op.activationFor "o") (.ok none)
    ⟨rfl, fun _ h => by cases h; rfl⟩ trivial)
  have hnow' := hread.tail (step_call [_] [] (o := Op.now) (.ok (0 : Time)) rfl trivial)
  have hread' := hnow'.tail (step_call [_] [] (o := Op.activationFor "o") (.ok none)
    ⟨rfl, fun _ h => by cases h; rfl⟩ trivial)
  have htimeout := hread'.tail (step_call [_] [] (o := Op.activateSubscription ..)
    (.ok (.error { provider := "nxtutors", code := "timeout", retryable := true })) rfl trivial)
  have hfailed := htimeout.tail (step_call [_] [] (o := Op.saveActivation unanswered) (.ok ())
    ⟨rfl, rfl⟩ trivial)
  have hgateway := hfailed.tail (step_call [] [_] (o := Op.activateSubscription ..)
    (.ok (.ok "s")) rfl trivial)
  have hsave := hgateway.tail (step_call [] [_] (o := Op.saveActivation activated) (.ok ())
    ⟨rfl, rfl⟩ trivial)
  have hdone := (hsave.tail (step_finish [] [_] rfl)).tail (step_finish [] [] rfl)
  refine ⟨_, hdone, rfl, ⟨_, List.mem_cons_self, _, mem_own.mpr mem_before_last, rfl⟩, ?_⟩
  rintro ⟨r, hr, -, hsucceeded⟩
  obtain rfl : r = unanswered := List.mem_singleton.mp hr
  cases hsucceeded

end NxTutors.DemoAgent
