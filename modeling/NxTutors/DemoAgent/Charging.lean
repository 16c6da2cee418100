import NxTutors.DemoAgent.Commands
import NxTutors.DemoAgent.World

/-!
# What is charged, and what was quoted

An order is made from an approved offer, and then has its amount. But the conversation's own order
is used again while it can be paid, whatever offer it was made from, and the message that goes out
with its link announces the offer's amount. So a parent is charged what was quoted unless an order
can be used again that was made for something else.
-/

namespace NxTutors.DemoAgent

open Effect

/-- **An order charges what an offer says**, for the demo it is about. -/
structure Charges (order : PaymentOrder) (offer : ApprovedOffer) : Prop where
  amount : order.amountMinor = offer.amountMinor
  currency : order.currency = offer.currency
  demo : order.demoId = offer.demoId

/-- An order is made to charge the offer. -/
theorem charges_of_fromOffer {offer : ApprovedOffer} {orderRef : String} {now : Time}
    {order : PaymentOrder} (h : PaymentOrder.fromOffer offer orderRef now = .ok order) :
    Charges order offer := by
  unfold PaymentOrder.fromOffer at h
  split at h
  · cases h
  · cases h
    exact ⟨rfl, rfl, rfl⟩

section Orders

variable {C : Type}

/-- The order of the conversation that is used again, if there is one: the latest, unless it is
settled or has expired. -/
def World.reusable (w : World C) (ref : String) : Option PaymentOrder :=
  (w.orders.reverse.find? fun o => o.conversationRef = ref).filter fun o =>
    !o.settled && !o.expired w.clock

variable [ConversationRepository C] {cfg : Config} {offer : ApprovedOffer} {w : World C}

/-- What is said of the order that a result has. -/
def OfOrder (P : PaymentOrder → Prop) (out : Except Exn OrderResult) : Prop :=
  ∀ result order, out = .ok result → result.order = some order → P order

theorem OfOrder.raised {P : PaymentOrder → Prop} (e : Exn) : OfOrder P (.error e) :=
  fun _ _ heq => nomatch heq

theorem OfOrder.failed {P : PaymentOrder → Prop} {result : OrderResult}
    (h : result.order = none) : OfOrder P (.ok result) := by
  intro result' order heq horder
  cases heq
  rw [h] at horder
  cases horder

theorem OfOrder.of_some {P : PaymentOrder → Prop} {result : OrderResult} {order : PaymentOrder}
    (h : result.order = some order) (hP : P order) : OfOrder P (.ok result) := by
  intro result' order' heq horder
  cases heq
  rw [h] at horder
  cases horder
  exact hP

/-- **Where an order comes from**: it is used again, or there is none to use again and it is made to
charge the offer. -/
theorem createOrder_meets : Meets alone (fun _ _ => True) (fun out _ => OfOrder (fun order =>
      w.reusable offer.conversationRef = some order ∨
        w.reusable offer.conversationRef = none ∧ Charges order offer) out)
    (createOrder cfg offer) w := by
  refine Meets.perform_bind fun w₁ hmove r w₂ hans => ?_
  obtain rfl : w = w₁ := hmove
  obtain ⟨rfl, rfl⟩ := Answers.of_now hans
  refine ⟨trivial, fun now hnow => ?_, fun e _ => .raised e⟩
  obtain rfl := Except.ok.inj hnow
  refine Meets.perform_bind fun w₃ hmove r w₄ hans => ?_
  obtain rfl : w₂ = w₃ := hmove
  obtain ⟨rfl, hr⟩ : w₄ = w₂ ∧ (r = .ok (w₂.orders.reverse.find? fun o =>
      o.conversationRef = offer.conversationRef) ∨ ∃ name, r = .error (.other name)) :=
    hans.read rfl rfl
  refine ⟨trivial, fun (existing : Option PaymentOrder) hexisting => ?_, fun e _ => .raised e⟩
  have hreusable : w₄.reusable offer.conversationRef =
      existing.filter fun o => !o.settled && !o.expired w₄.clock := by
    rcases hr with hr | ⟨name, hr⟩
    · have heq : existing = w₄.orders.reverse.find? fun o =>
          o.conversationRef = offer.conversationRef := Except.ok.inj (hexisting.symm.trans hr)
      rw [heq, World.reusable]
    · cases hexisting.symm.trans hr
  rw [hreusable]
  dsimp only
  split
  · rename_i order hagain
    exact OfOrder.of_some rfl (.inl hagain)
  · rename_i hnone
    refine Meets.perform_bind fun _ _ _ _ _ =>
      ⟨trivial, fun (orderRef : String) _ => ?_, fun e _ => .raised e⟩
    split
    · exact .raised _
    · rename_i order horder
      refine Meets.perform_bind fun _ _ _ _ _ =>
        ⟨trivial, fun (answer : Except ProviderError String) _ => ?_, fun e _ => .raised e⟩
      cases answer with
      | error e => exact .failed rfl
      | ok rawLink =>
        dsimp only
        split
        · exact .failed rfl
        · rename_i link hlink
          refine Meets.perform_bind fun _ _ _ _ _ =>
            ⟨trivial, fun _ _ => ?_, fun e _ => .raised e⟩
          obtain ⟨hamount, hcurrency, hdemo⟩ := charges_of_fromOffer horder
          exact OfOrder.of_some rfl (.inr ⟨hnone, hamount, hcurrency, hdemo⟩)

/-- An order that can be used again is. -/
theorem createOrder_reuses {order : PaymentOrder}
    (h : w.reusable offer.conversationRef = some order) :
    Run alone (createOrder cfg offer) w
      (.ok { order := some order, paymentLink := order.paymentLink }) w := by
  have hnow : Answers Op.now w (.ok w.clock) w := .stored (.inr rfl)
  have hexisting : Answers (.orderForConversation offer.conversationRef) w
      (.ok (w.orders.reverse.find? fun o => o.conversationRef = offer.conversationRef)) w :=
    .stored (.inl rfl)
  refine .call rfl hnow (.call rfl hexisting ?_)
  dsimp only [Prog.bind]
  split
  · rename_i order' hagain
    obtain rfl : order' = order := Option.some.inj (hagain.symm.trans h)
    exact .ret
  · rename_i hnone
    cases hnone.symm.trans h

/-- **Charged is quoted if nothing else can be used again.** Whatever offer, and whatever is stored:
every order that comes of it charges the offer, if and only if the order of the conversation that
can be used again, if there is one, does. -/
theorem charged_quoted_iff (cfg : Config) (offer : ApprovedOffer) (w : World C) :
    (∀ result order w', Run alone (createOrder cfg offer) w (.ok result) w' →
        result.order = some order → Charges order offer) ↔
      ∀ order, w.reusable offer.conversationRef = some order → Charges order offer := by
  constructor
  · intro h order hreusable
    exact h _ order w (createOrder_reuses hreusable) rfl
  · intro h result order w' hrun horder
    rcases createOrder_meets.run hrun result order rfl horder with hreusable | ⟨-, hcharges⟩
    · exact h order hreusable
    · exact hcharges

end Orders

/-- A plan was offered at its full price, and nobody has paid yet. -/
def fullPriceOrder : PaymentOrder where
  orderRef := "nxo"
  conversationRef := "c"
  demoId := "d"
  amountMinor := 1000000
  paymentLink := "link"
  createdAt := 0
  expiresAt := DEFAULT_ORDER_TTL

def orderedBefore : World InMemoryConversations := { conversations := {}, orders := [fullPriceOrder] }

/-- The decision is then made again, with a discount. -/
def cheaperOffer : ApprovedOffer where
  conversationRef := "c"
  demoId := "d"
  amountMinor := 800000
  listPriceMinor := 1000000
  discountPercent := 20
  policyStamp := "discount@v1"
  approvedAt := hour

/-- **The lower price is announced, and the higher one charged.** -/
theorem cheaper_offer_overcharged : ∃ (offer : ApprovedOffer) (w w' : World InMemoryConversations)
    (result : OrderResult) (order : PaymentOrder),
    Run alone (createOrder plainConfig offer) w (.ok result) w' ∧ result.order = some order ∧
      ¬ Charges order offer := by
  have hreusable : orderedBefore.reusable "c" = some fullPriceOrder := by decide
  refine ⟨cheaperOffer, orderedBefore, orderedBefore, _, fullPriceOrder,
    createOrder_reuses hreusable, rfl, fun h => ?_⟩
  exact absurd h.amount (by decide)

end NxTutors.DemoAgent
