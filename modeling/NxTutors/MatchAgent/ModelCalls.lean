import Mathlib.Algebra.Ring.Int.Defs
import Mathlib.Algebra.BigOperators.Group.List.Basic
import NxTutors.Effect.Steps

/-!
# Calls of the model

What the extractor may spend on a model is capped for a turn, for a conversation, for the expensive
tier and in tokens. The provider it is given is a guarded one, which checks and records every call
before the extractor does so once more, with the same budget. A call that works is therefore
recorded twice, and one that fails is recorded in the ledger and not in the budget
(`counters_doubled`). The accounts are exact as long as no call reaches the provider
(`accounts_exact_iff`).
-/

namespace NxTutors.MatchAgent

open Effect

/-! ## What a call costs -/

/-- The escalation ladder. -/
inductive ModelTier
  | deterministic | fast | reasoning
  deriving DecidableEq, Repr

/-- The number of a tier. -/
def ModelTier.rank : ModelTier → Nat
  | .deterministic => 0
  | .fast => 1
  | .reasoning => 2

/-- The failures of a provider, the refusals of the guard among them. -/
inductive LLMError
  | base | timeout | rateLimited | budgetExceeded | schemaViolation | circuitOpen | paused
  deriving DecidableEq, Repr

/-- `type(exc).__name__`. -/
def LLMError.typeName : LLMError → String
  | .base => "LLMError"
  | .timeout => "LLMTimeout"
  | .rateLimited => "LLMRateLimited"
  | .budgetExceeded => "LLMBudgetExceeded"
  | .schemaViolation => "LLMSchemaViolation"
  | .circuitOpen => "LLMCircuitOpen"
  | .paused => "LLMPaused"

/-- What one call cost. -/
structure LLMUsage where
  provider : String
  model : String
  tier : ModelTier
  promptTokens : Int := 0
  completionTokens : Int := 0
  cachedPromptTokens : Int := 0
  latencyMs : Int := 0
  retryCount : Int := 0
  cached : Bool := false
  errorCode : Option String := none
  deriving DecidableEq, Repr

def LLMUsage.totalTokens (usage : LLMUsage) : Int := usage.promptTokens + usage.completionTokens

/-- One structured-output call, as far as the guard reads it. -/
structure LLMRequest where
  purpose : String
  tier : ModelTier := .fast
  promptVersion : String := "v1"

/-- The data of a response and what it cost. -/
structure LLMResponse (D : Type) where
  data : D
  usage : LLMUsage

/-! ## The budget -/

/-- The ceilings of a conversation. -/
structure BudgetLimits where
  limit : Int
  maxCallsPerTurn : Nat := 2
  maxCallsPerConversation : Nat := 12
  maxEscalations : Nat := 1

/-- The budget of a conversation, and what is used of it. -/
structure TokenBudget extends BudgetLimits where
  spent : Int := 0
  calls : Nat := 0
  turnCalls : Nat := 0
  escalations : Nat := 0
  byTier : ModelTier → Int := fun _ => 0

namespace TokenBudget

variable (b : TokenBudget)

/-- Called once for each inbound message. -/
def beginTurn : TokenBudget := { b with turnCalls := 0 }

def canAfford (estimatedTokens : Int) : Bool := b.spent + estimatedTokens ≤ b.limit

def canEscalate : Bool := b.escalations < b.maxEscalations

/-- One call is recorded. -/
def record (usage : LLMUsage) : TokenBudget :=
  { b with
    spent := b.spent + usage.totalTokens
    calls := b.calls + 1
    turnCalls := b.turnCalls + 1
    escalations :=
      if ModelTier.reasoning.rank ≤ usage.tier.rank then b.escalations + 1 else b.escalations
    byTier := fun tier => if tier = usage.tier then b.byTier tier + usage.totalTokens
      else b.byTier tier }

/-- `assert_affordable`. -/
def assertAffordable (estimatedTokens : Int) : Except LLMError Unit :=
  if b.canAfford estimatedTokens then .ok () else .error .budgetExceeded

/-- `assert_call_allowed`. -/
def assertCallAllowed (tier : ModelTier := .fast) : Except LLMError Unit :=
  if b.maxCallsPerTurn ≤ b.turnCalls then .error .budgetExceeded
  else if b.maxCallsPerConversation ≤ b.calls then .error .budgetExceeded
  else if ModelTier.reasoning.rank ≤ tier.rank && !b.canEscalate then .error .budgetExceeded
  else .ok ()

/-- A call of a tier is allowed exactly if no count of it is used up. -/
theorem assertCallAllowed_eq_ok_iff {tier : ModelTier} : b.assertCallAllowed tier = .ok () ↔
    b.turnCalls < b.maxCallsPerTurn ∧ b.calls < b.maxCallsPerConversation ∧
      (ModelTier.reasoning.rank ≤ tier.rank → b.escalations < b.maxEscalations) := by
  rw [assertCallAllowed, canEscalate]
  by_cases hturn : b.maxCallsPerTurn ≤ b.turnCalls
  · simp [hturn, Nat.not_lt.mpr hturn]
  by_cases hcalls : b.maxCallsPerConversation ≤ b.calls
  · simp [hturn, hcalls, Nat.not_lt.mpr hcalls]
  rw [if_neg hturn, if_neg hcalls]
  by_cases htier : ModelTier.reasoning.rank ≤ tier.rank
  · by_cases hescalate : b.escalations < b.maxEscalations
    · simp [htier, hescalate, Nat.not_le.mp hturn, Nat.not_le.mp hcalls]
    · simp [htier, hescalate]
  · simp [htier, Nat.not_le.mp hturn, Nat.not_le.mp hcalls]

/-- What is not allowed exceeds the budget. -/
theorem assertCallAllowed_error {tier : ModelTier} {e : LLMError}
    (h : b.assertCallAllowed tier = .error e) : e = .budgetExceeded := by
  rw [assertCallAllowed] at h
  repeat' split at h
  all_goals cases h
  all_goals rfl

end TokenBudget

/-! ## The guarded provider -/

/-- Why the service may call a model. -/
inductive Purpose
  | extraction | escalation | explanation | clarification | embedding
  deriving DecidableEq, Repr

/-- `_purpose_of`. -/
def purposeOf : String → Option Purpose
  | "requirement_extraction" => some .extraction
  | "ambiguous_requirement_escalation" => some .escalation
  | "shortlist_explanation" => some .explanation
  | "clarifying_question" => some .clarification
  | "document_embedding" => some .embedding
  | _ => none

/-- `PURPOSE_TIER`. -/
def Purpose.tier : Purpose → ModelTier
  | .escalation => .reasoning
  | _ => .fast

/-- Model ids for purposes. -/
structure ModelRouting where
  extraction : String
  escalation : String
  explanation : String
  embedding : String

def ModelRouting.modelFor (routing : ModelRouting) : Purpose → String
  | .extraction => routing.extraction
  | .escalation => routing.escalation
  | .explanation => routing.explanation
  | .clarification => routing.explanation
  | .embedding => routing.embedding

/-- How well the provider's own cache does. -/
structure PromptCacheStats where
  calls : Nat := 0
  cachedPrefixCalls : Nat := 0
  cachedInputTokens : Int := 0
  totalInputTokens : Int := 0
  byPrompt : String → Nat := fun _ => 0

def PromptCacheStats.record (stats : PromptCacheStats) (promptRef : String)
    (inputTokens cachedTokens : Int) : PromptCacheStats where
  calls := stats.calls + 1
  totalInputTokens := stats.totalInputTokens + inputTokens
  cachedInputTokens := stats.cachedInputTokens + cachedTokens
  cachedPrefixCalls :=
    if cachedTokens ≠ 0 then stats.cachedPrefixCalls + 1 else stats.cachedPrefixCalls
  byPrompt := fun ref => if ref = promptRef then stats.byPrompt ref + 1 else stats.byPrompt ref

/-- Everything the model calls of a conversation cost. -/
structure UsageLedger where
  entries : List LLMUsage := []
  costMicros : Int := 0
  cache : PromptCacheStats := {}

/-- What is fixed while a conversation is served: the name of the provider, where its models are
routed, and `estimate_cost_micros`, which is floating point. -/
structure Routed where
  name : String
  routing : ModelRouting
  estimateCostMicros : String → Int → Int → Int

/-- An entry more. -/
def UsageLedger.record (r : Routed) (ledger : UsageLedger) (usage : LLMUsage)
    (promptRef : String) : UsageLedger where
  entries := ledger.entries ++ [usage]
  costMicros := ledger.costMicros +
    r.estimateCostMicros usage.model usage.promptTokens usage.completionTokens
  cache := ledger.cache.record promptRef usage.promptTokens usage.cachedPromptTokens

/-- What the world answers to one call: whether an operator has paused calls, if that is checked,
whether the call is within its rate, if that is, and what the provider says. -/
structure Answering (D : Type) where
  pauseCheck : Option Bool := none
  rateCheck : Option Bool := none
  provider : Except LLMError (LLMResponse D)

/-- The budget, the ledger, and what the provider was called for, call by call: all of it, and what
is of this turn. -/
structure Spending where
  budget : TokenBudget
  ledger : UsageLedger := {}
  made : List (Except LLMError LLMUsage) := []
  turnMade : List (Except LLMError LLMUsage) := []

/-- The provider has been called. -/
def Spending.called (s : Spending) (outcome : Except LLMError LLMUsage) : Spending :=
  { s with made := s.made ++ [outcome], turnMade := s.turnMade ++ [outcome] }

/-- `GuardedProvider.structured`. -/
def structured {D : Type} (r : Routed) (request : LLMRequest) (answer : Answering D)
    (s : Spending) : Except LLMError (LLMResponse D) × Spending :=
  let purpose := purposeOf request.purpose
  let tier := (purpose.map Purpose.tier).getD request.tier
  if answer.pauseCheck = some true then (.error .paused, s)
  else
    match s.budget.assertCallAllowed tier with
    | .error e => (.error e, s)
    | .ok () =>
      if answer.rateCheck = some false then (.error .rateLimited, s)
      else
        match answer.provider with
        | .error e =>
          let usage : LLMUsage :=
            { provider := r.name, model := (purpose.map r.routing.modelFor).getD "unrouted", tier,
              errorCode := some e.typeName }
          (.error e, { s.called (.error e) with
            ledger := s.ledger.record r usage request.promptVersion })
        | .ok response =>
          (.ok response, { s.called (.ok response.usage) with
            budget := s.budget.record response.usage
            ledger := s.ledger.record r response.usage request.promptVersion })

/-! ## The extractor -/

/-- What was extracted, and how. -/
structure ExtractionOutcome (R : Type) where
  requirement : R
  ambiguities : List String := []
  usedLlm : Bool := false
  llmError : Option String := none
  injectionDetections : List String := []

/-- A message, as its deterministic parse leaves it: what was found, whether a model is to be asked,
what sanitising detected, how many tokens are expected, the version of the prompt, and how the
answer of a model is merged under what was found. -/
structure Message (R D : Type) where
  parsed : ExtractionOutcome R
  escalates : Bool
  detections : List String := []
  estimated : Int
  promptRef : String := "v1"
  merge : D → R

/-- The request of the extractor. -/
def extractionRequest (promptRef : String) : LLMRequest :=
  { purpose := "requirement_extraction", tier := .fast, promptVersion := promptRef }

/-- `RequirementExtractor.extract`, with a guarded provider and its budget. -/
def extract {R D : Type} (r : Routed) (message : Message R D) (answer : Answering D)
    (s : Spending) : ExtractionOutcome R × Spending :=
  if !message.escalates then (message.parsed, s)
  else
    let outcome := { message.parsed with injectionDetections := message.detections }
    match s.budget.assertAffordable message.estimated >>= fun _ => s.budget.assertCallAllowed with
    | .error e => ({ outcome with llmError := some e.typeName }, s)
    | .ok () =>
      match structured r (extractionRequest message.promptRef) answer s with
      | (.error e, s) => ({ outcome with llmError := some e.typeName }, s)
      | (.ok response, s) =>
        ({ requirement := message.merge response.data, ambiguities := message.parsed.ambiguities,
           usedLlm := true, injectionDetections := message.detections },
          { s with budget := s.budget.record response.usage })

/-! ## Runs -/

/-- What happens to a budget: a turn begins, or a message is extracted. -/
inductive BudgetOrder (R D : Type)
  | beginTurn
  | extract (message : Message R D) (answer : Answering D)

namespace Spending

section Steps

variable {R D : Type} (r : Routed)

/-- One order. -/
def step (s : Spending) : BudgetOrder R D → Spending
  | .beginTurn => { s with budget := s.budget.beginTurn, turnMade := [] }
  | .extract message answer => (extract r message answer s).2

/-- A budget of which nothing is used. -/
def opened (limits : BudgetLimits) : Spending := { budget := { toBudgetLimits := limits } }

/-- The tokens of a call. One that failed used none that are known of. -/
def tokensOf : Except LLMError LLMUsage → Int
  | .ok usage => usage.totalTokens
  | .error _ => 0

/-- A call of the expensive tier. -/
def escalated : Except LLMError LLMUsage → Bool
  | .ok usage => ModelTier.reasoning.rank ≤ usage.tier.rank
  | .error _ => false

/-- **The accounts are exact.** The budget has counted the calls that were made, all of them and
those of the turn, and has the sum of their tokens; the ledger has an entry for each. -/
structure Accounted (s : Spending) : Prop where
  calls : s.budget.calls = s.made.length
  turnCalls : s.budget.turnCalls = s.turnMade.length
  spent : s.budget.spent = (s.made.map tokensOf).sum
  entries : s.ledger.entries.length = s.made.length

/-- **A cap is used up** by the calls that were made, for a call of a tier that is expected to take
a number of tokens. -/
def UsedUp (s : Spending) (tier : ModelTier) (estimated : Int) : Prop :=
  s.budget.maxCallsPerTurn ≤ s.turnMade.length ∨
    s.budget.maxCallsPerConversation ≤ s.made.length ∨
    (ModelTier.reasoning.rank ≤ tier.rank ∧
      s.budget.maxEscalations ≤ (s.made.filter escalated).length) ∨
    s.budget.limit < (s.made.map tokensOf).sum + estimated

/-- A message is refused a model for want of budget, and the provider is not called. -/
def Refuses (s : Spending) (message : Message R D) (answer : Answering D) : Prop :=
  (extract r message answer s).1.llmError = some LLMError.budgetExceeded.typeName ∧
    (extract r message answer s).2.made = s.made

/-- **A message that asks for a model is refused exactly if a cap is used up.** Its calls are of
the tier of extraction. -/
def RefusesRightly (s : Spending) : BudgetOrder R D → Prop
  | .beginTurn => True
  | .extract message answer => message.escalates = true →
    (s.Refuses r message answer ↔ s.UsedUp Purpose.extraction.tier message.estimated)

/-- **An order reaches the provider**: a message asks for a model, the budget allows the call, no
operator has paused calls, and it is within its rate. -/
def ReachesProvider (s : Spending) : BudgetOrder R D → Prop
  | .beginTurn => False
  | .extract message answer => message.escalates = true ∧
    s.budget.canAfford message.estimated = true ∧ s.budget.assertCallAllowed = .ok () ∧
    answer.pauseCheck ≠ some true ∧ answer.rateCheck ≠ some false

variable {r} {s : Spending} {message : Message R D} {answer : Answering D}

/-! ### One message -/

/-- The budget has room for the call a message asks for. -/
def Affords (s : Spending) (message : Message R D) : Prop :=
  s.budget.canAfford message.estimated = true ∧ s.budget.assertCallAllowed = .ok ()

/-- **Without room, a message is left at its parse**, and nothing is called. -/
theorem extract_refused (hescalates : message.escalates = true) (h : ¬s.Affords message) :
    extract r message answer s =
      ({ message.parsed with
          injectionDetections := message.detections
          llmError := some LLMError.budgetExceeded.typeName }, s) := by
  have hcheck : (s.budget.assertAffordable message.estimated >>= fun _ =>
      s.budget.assertCallAllowed) = .error .budgetExceeded := by
    rw [TokenBudget.assertAffordable]
    cases hafford : s.budget.canAfford message.estimated with
    | false => rfl
    | true =>
      cases hallowed : s.budget.assertCallAllowed with
      | ok _ => exact absurd ⟨hafford, hallowed⟩ h
      | error e => rw [TokenBudget.assertCallAllowed_error _ hallowed]; rfl
  rw [extract]
  simp only [hescalates, hcheck, Bool.not_true, Bool.false_eq_true, if_false]

/-- With room, the guarded provider is asked. -/
theorem extract_asked (hescalates : message.escalates = true) (h : s.Affords message) :
    extract r message answer s =
      match structured r (extractionRequest message.promptRef) answer s with
      | (.error e, s) => ({ message.parsed with
          injectionDetections := message.detections, llmError := some e.typeName }, s)
      | (.ok response, s) =>
        ({ requirement := message.merge response.data, ambiguities := message.parsed.ambiguities,
           usedLlm := true, injectionDetections := message.detections },
          { s with budget := s.budget.record response.usage }) := by
  have hcheck : (s.budget.assertAffordable message.estimated >>= fun _ =>
      s.budget.assertCallAllowed) = .ok () := by
    rw [TokenBudget.assertAffordable, h.1]
    exact h.2
  rw [extract]
  simp only [hescalates, hcheck, Bool.not_true, Bool.false_eq_true, if_false]

/-- The guard checks the budget again, and finds the same. -/
theorem structured_eq {promptRef : String} (hallowed : s.budget.assertCallAllowed = .ok ()) :
    structured r (extractionRequest promptRef) answer s =
      if answer.pauseCheck = some true then (.error .paused, s)
      else if answer.rateCheck = some false then (.error .rateLimited, s)
      else
        match answer.provider with
        | .error e => (.error e, { s.called (.error e) with
            ledger := s.ledger.record r
              { provider := r.name, model := r.routing.modelFor .extraction, tier := .fast,
                errorCode := some e.typeName } promptRef })
        | .ok response => (.ok response, { s.called (.ok response.usage) with
            budget := s.budget.record response.usage
            ledger := s.ledger.record r response.usage promptRef }) := by
  have htier : ((purposeOf (extractionRequest promptRef).purpose).map Purpose.tier).getD
      (extractionRequest promptRef).tier = .fast := rfl
  rw [structured]
  simp only [htier, hallowed]
  rfl

/-- **Where the switch or the rate stops a call**, nothing is called either, for another reason. -/
theorem extract_held (hescalates : message.escalates = true) (h : s.Affords message)
    (hheld : ¬(answer.pauseCheck ≠ some true ∧ answer.rateCheck ≠ some false)) :
    (extract r message answer s).2 = s ∧
      (extract r message answer s).1.llmError ≠ some LLMError.budgetExceeded.typeName := by
  rw [extract_asked hescalates h, structured_eq h.2]
  by_cases hpaused : answer.pauseCheck = some true
  · rw [if_pos hpaused]
    exact ⟨rfl, by simp [LLMError.typeName]⟩
  · have hrate : answer.rateCheck = some false := by
      by_contra hwithin
      exact hheld ⟨hpaused, hwithin⟩
    rw [if_neg hpaused, if_pos hrate]
    exact ⟨rfl, by simp [LLMError.typeName]⟩

/-- **A call that fails** is in the ledger, and not in the budget. -/
theorem extract_failed {e : LLMError}
    (hreaches : s.ReachesProvider (.extract message answer)) (h : answer.provider = .error e) :
    (extract r message answer s).2 = { s.called (.error e) with
      ledger := s.ledger.record r
        { provider := r.name, model := r.routing.modelFor .extraction, tier := .fast,
          errorCode := some e.typeName } message.promptRef } := by
  obtain ⟨hescalates, hafford, hallowed, hpaused, hrate⟩ := hreaches
  rw [extract_asked hescalates ⟨hafford, hallowed⟩, structured_eq hallowed, if_neg hpaused,
    if_neg hrate, h]

/-- **A call that works** is in the ledger, and twice in the budget. -/
theorem extract_answered {response : LLMResponse D}
    (hreaches : s.ReachesProvider (.extract message answer))
    (h : answer.provider = .ok response) :
    (extract r message answer s).2 = { s.called (.ok response.usage) with
      budget := (s.budget.record response.usage).record response.usage
      ledger := s.ledger.record r response.usage message.promptRef } := by
  obtain ⟨hescalates, hafford, hallowed, hpaused, hrate⟩ := hreaches
  rw [extract_asked hescalates ⟨hafford, hallowed⟩, structured_eq hallowed, if_neg hpaused,
    if_neg hrate, h]

/-- A message that does not reach the provider changes nothing. -/
theorem extract_unreached (h : ¬s.ReachesProvider (.extract message answer)) :
    (extract r message answer s).2 = s := by
  by_cases hescalates : message.escalates = true
  · by_cases hafford : s.Affords message
    · refine (extract_held hescalates hafford fun hfree => h ?_).1
      exact ⟨hescalates, hafford.1, hafford.2, hfree.1, hfree.2⟩
    · rw [extract_refused hescalates hafford]
  · rw [extract]
    simp only [Bool.not_eq_true _ ▸ hescalates, Bool.not_false, if_true]

/-- **A message is refused for want of budget exactly where there is no room** by the counts of the
budget. -/
theorem refuses_iff (hescalates : message.escalates = true) :
    s.Refuses r message answer ↔ ¬s.Affords message := by
  constructor
  · rintro ⟨herror, hmade⟩ hafford
    by_cases hfree : answer.pauseCheck ≠ some true ∧ answer.rateCheck ≠ some false
    · have hreaches : s.ReachesProvider (.extract message answer) :=
        ⟨hescalates, hafford.1, hafford.2, hfree.1, hfree.2⟩
      cases hprovider : answer.provider with
      | error e =>
        rw [extract_failed hreaches hprovider] at hmade
        simp [called] at hmade
      | ok response =>
        rw [extract_answered hreaches hprovider] at hmade
        simp [called] at hmade
    · exact (extract_held hescalates hafford hfree).2 herror
  · intro h
    rw [Refuses, extract_refused hescalates h]
    exact ⟨rfl, rfl⟩

/-- Where the accounts are exact, there is no room exactly if a cap is used up. -/
theorem Accounted.usedUp_iff (h : s.Accounted) :
    s.UsedUp Purpose.extraction.tier message.estimated ↔ ¬s.Affords message := by
  rw [Affords, TokenBudget.assertCallAllowed_eq_ok_iff, TokenBudget.canAfford, UsedUp, h.calls,
    h.turnCalls, h.spent, decide_eq_true_iff]
  have hfast : ¬ModelTier.reasoning.rank ≤ ModelTier.fast.rank := by decide
  simp only [Purpose.tier, hfast, false_and, false_or, false_imp_iff, and_true, not_and_or, not_lt]
  omega

/-- **A message keeps exact accounts exactly if it does not reach the provider.** -/
theorem Accounted.extract_iff (h : s.Accounted) :
    (extract r message answer s).2.Accounted ↔ ¬s.ReachesProvider (.extract message answer) := by
  constructor
  · intro hafter hreaches
    have hcalls := hafter.calls
    cases hprovider : answer.provider with
    | error e =>
      rw [extract_failed hreaches hprovider] at hcalls
      simp only [called, List.length_append, List.length_singleton, h.calls] at hcalls
      omega
    | ok response =>
      rw [extract_answered hreaches hprovider] at hcalls
      simp only [called, TokenBudget.record, List.length_append, List.length_singleton,
        h.calls] at hcalls
      omega
  · intro hunreached
    rwa [extract_unreached hunreached]

/-! ### What a run does -/

/-- The calls that worked. -/
def successes (made : List (Except LLMError LLMUsage)) : List LLMUsage :=
  made.filterMap Except.toOption

/-- **What the budget counts**: the calls that worked, each of them twice; and what the ledger
does: every call. -/
structure Doubled (s : Spending) : Prop where
  calls : s.budget.calls = 2 * (successes s.made).length
  turnCalls : s.budget.turnCalls = 2 * (successes s.turnMade).length
  spent : s.budget.spent = 2 * ((successes s.made).map LLMUsage.totalTokens).sum
  entries : s.ledger.entries.length = s.made.length

/-- **Every order keeps the counts doubled.** -/
theorem Doubled.step (h : s.Doubled) (order : BudgetOrder R D) : (s.step r order).Doubled := by
  cases order with
  | beginTurn => exact ⟨h.calls, rfl, h.spent, h.entries⟩
  | extract message answer =>
    rw [Spending.step]
    by_cases hreaches : s.ReachesProvider (.extract message answer)
    · cases hprovider : answer.provider with
      | error e =>
        rw [extract_failed hreaches hprovider]
        constructor <;> simp only [called, successes, List.filterMap_append, List.filterMap_cons,
          List.filterMap_nil, Except.toOption, List.append_nil, UsageLedger.record,
          List.length_append, List.length_singleton]
        · exact h.calls
        · exact h.turnCalls
        · exact h.spent
        · rw [h.entries]
      | ok response =>
        rw [extract_answered hreaches hprovider]
        have hcalls := h.calls
        have hturn := h.turnCalls
        have hspent := h.spent
        have hentries := h.entries
        simp only [successes] at hcalls hturn hspent
        constructor <;> simp only [called, successes, List.filterMap_append, List.filterMap_cons,
          List.filterMap_nil, Except.toOption, UsageLedger.record, TokenBudget.record,
          List.length_append, List.length_singleton, List.map_append, List.map_cons, List.map_nil,
          List.sum_append, List.sum_cons, List.sum_nil] <;> omega
    · rw [extract_unreached hreaches]
      exact h

/-- **Throughout every run, a call that works counts twice and one that fails does not count.** -/
theorem counters_doubled (r : Routed) (limits : BudgetLimits) (orders : List (BudgetOrder R D)) :
    Throughout (Spending.step r) Doubled (opened limits) orders :=
  .of_along ⟨rfl, rfl, rfl, rfl⟩ (.of_forall (P := fun _ _ => True) fun _ _ => trivial)
    fun _ order h _ => h.step order

/-- **The accounts are exact, and messages refused rightly, throughout a run exactly if none of its
messages reaches the provider.** -/
theorem accounts_exact_iff (r : Routed) (limits : BudgetLimits)
    (orders : List (BudgetOrder R D)) :
    Throughout (Spending.step r) Accounted (opened limits) orders ∧
        Along (Spending.step r) (RefusesRightly r) (opened limits) orders ↔
      Along (Spending.step r) (fun s order => ¬s.ReachesProvider order) (opened limits) orders := by
  have hopened : (opened limits).Accounted := ⟨rfl, rfl, rfl, rfl⟩
  have hstep : ∀ (s : Spending) (order : BudgetOrder R D), s.Accounted →
      ((s.step r order).Accounted ↔ ¬s.ReachesProvider order) := by
    intro s order h
    cases order with
    | beginTurn => exact ⟨fun _ => id, fun _ => ⟨h.calls, rfl, h.spent, h.entries⟩⟩
    | extract message answer => exact h.extract_iff
  constructor
  · rintro ⟨hthroughout, -⟩
    exact (throughout_iff_along hopened (.of_forall (P := fun _ _ => True) fun _ _ => trivial)
      fun s order h _ => hstep s order h).mp hthroughout
  · intro h
    refine ⟨.of_along hopened h fun s order hs hP => (hstep s order hs).mpr hP, ?_⟩
    refine .of_invariant hopened h fun s order hs hP => ⟨?_, (hstep s order hs).mpr hP⟩
    cases order with
    | beginTurn => trivial
    | extract message answer =>
      intro hescalates
      rw [refuses_iff hescalates, hs.usedUp_iff]

end Steps

/-! ### One call that works -/

/-- A message that asks for a model, and gets an answer of thirty tokens. -/
def answeredOnce : BudgetOrder Unit Unit :=
  .extract { parsed := { requirement := () }, escalates := true, estimated := 400, merge := id }
    { provider := .ok ⟨(), { provider := "openai", model := "gpt-4o-mini", tier := .fast,
                             promptTokens := 20, completionTokens := 10 }⟩ }

/-- **One call, counted twice**: after it the budget has two calls and sixty tokens, and the next
message of the turn is refused, though two calls are allowed. -/
theorem call_counted_twice : ¬(Throughout
      (Spending.step ⟨"openai", ⟨"a", "b", "c", "d"⟩, fun _ _ _ => 0⟩) Accounted
      (opened { limit := 4000 }) [answeredOnce, answeredOnce] ∧
    Along (Spending.step ⟨"openai", ⟨"a", "b", "c", "d"⟩, fun _ _ _ => 0⟩)
      (RefusesRightly ⟨"openai", ⟨"a", "b", "c", "d"⟩, fun _ _ _ => 0⟩)
      (opened { limit := 4000 }) [answeredOnce, answeredOnce]) := by
  rintro ⟨⟨-, hafter⟩, -⟩
  have hcalls := hafter.start.calls
  revert hcalls
  decide

end Spending

end NxTutors.MatchAgent
