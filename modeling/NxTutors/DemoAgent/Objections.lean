import NxTutors.DemoAgent.Discounts
import NxTutors.DemoAgent.Guardrails
import NxTutors.Privacy.Redaction
import NxTutors.Text.Json

/-!
# Objections, and the words they are cited with

A model reads the transcript of a conversation and lists what was objected, with a quote for each.
What it lists is checked, and its quotes are looked for in the transcript, without regard to case
and white space. What is not found there is dropped, or all of it if that is too much. So whatever
is kept was said, `judged_quotes`.

But the transcript a model is shown is a redacted one, and its quotes are looked for in the other.
A quote that takes in what was redacted is copied faithfully and is not found. All that is cited
faithfully is kept exactly if all of it is in the transcript as it was before, `verified_iff`.
-/

namespace NxTutors.DemoAgent.Objections

open Text

/-- What texts are read with. -/
structure Platform extends Tables where
  /-- `str.casefold`, of one character -/
  casefold : Char → List Char

/-! ## The analysis -/

inductive Confidence
  | low | medium | high
  deriving DecidableEq, Repr

inductive Sentiment
  | positive | neutral | negative | mixed
  deriving DecidableEq, Repr

inductive PurchaseIntent
  | ready | interested | hesitant | unlikely | unknown
  deriving DecidableEq, Repr

inductive NextStep
  | sendFollowup | addressObjections | offerDiscount | offerAlternativeTutor | offerReschedule
  | answerQuestion | waitForDecisionMaker | humanHandoff | closeAsLost | none
  deriving DecidableEq, Repr

/-- An enumeration: its members, with the value of each. -/
abbrev Members (α : Type) := List (String × α)

def CATEGORIES : Members ObjectionCategory := ObjectionCategory.sorted.map fun c => (c.value, c)

def EVIDENCE : Members ObjectionItem.Evidence :=
  [("explicit", .explicit), ("inferred", .inferred), ("unknown", .unknown)]

def CONFIDENCE : Members Confidence := [("low", .low), ("medium", .medium), ("high", .high)]

def SENTIMENT : Members Sentiment :=
  [("positive", .positive), ("neutral", .neutral), ("negative", .negative), ("mixed", .mixed)]

def INTENT : Members PurchaseIntent :=
  [("ready", .ready), ("interested", .interested), ("hesitant", .hesitant),
    ("unlikely", .unlikely), ("unknown", .unknown)]

def NEXT_STEP : Members NextStep :=
  [("send_followup", .sendFollowup), ("address_objections", .addressObjections),
    ("offer_discount", .offerDiscount), ("offer_alternative_tutor", .offerAlternativeTutor),
    ("offer_reschedule", .offerReschedule), ("answer_question", .answerQuestion),
    ("wait_for_decision_maker", .waitForDecisionMaker), ("human_handoff", .humanHandoff),
    ("close_as_lost", .closeAsLost), ("none", .none)]

/-- One objection, with the evidence that establishes it. -/
structure CitedItem extends ObjectionItem where
  quote : String := ""
  messageRef : String := ""
  rationale : String := ""
  confidence : Confidence := .medium
  rootCause : String := ""
  deriving DecidableEq, Repr

structure ObjectionAnalysis where
  schemaVersion : String := "1"
  demoId : String
  conversationRef : String
  objections : List CitedItem := []
  sentiment : Sentiment := .neutral
  intent : PurchaseIntent := .unknown
  recommendedNextStep : NextStep := .none
  summary : String := ""
  modelRef : String := ""
  promptVersion : String := ""
  analysedAt : Time
  deriving DecidableEq, Repr

/-- What is raised. -/
inductive Raised where
  | valueError (message : String)
  | typeError (message : String)
  | attributeError (message : String)
  deriving DecidableEq, Repr

/-- `max_length`, of a field. -/
def atMost (field : String) (n : Nat) (s : String) : Except Raised Unit :=
  if n < s.length then
    .error (.valueError (field ++ ": String should have at most " ++ toString n ++ " characters"))
  else .ok ()

section

variable (p : Platform)

def blank (s : String) : Bool := strip p.toTables s = ""

/-- `_evidence_matches_claim`, behind the lengths of the fields. -/
def CitedItem.validate (o : CitedItem) : Except Raised CitedItem := do
  atMost "quote" 300 o.quote
  atMost "message_ref" 64 o.messageRef
  atMost "rationale" 400 o.rationale
  atMost "root_cause" 200 o.rootCause
  if o.evidence = .explicit ∧ blank p o.quote then
    .error (.valueError (o.category.value ++ ": an explicit objection requires a quote"))
  else if o.evidence = .inferred ∧ blank p o.rationale then
    .error (.valueError (o.category.value ++ ": an inferred objection requires a rationale"))
  else .ok o

/-- `_one_category_once`, behind the lengths of the fields. -/
def ObjectionAnalysis.validate (a : ObjectionAnalysis) : Except Raised ObjectionAnalysis := do
  atMost "demo_id" 64 a.demoId
  atMost "conversation_ref" 128 a.conversationRef
  atMost "summary" 600 a.summary
  atMost "model_ref" 64 a.modelRef
  atMost "prompt_version" 32 a.promptVersion
  let seen := (a.objections.map (·.category)).filter (· ≠ .none)
  if seen.Nodup then .ok a
  else
    let named := (ObjectionCategory.sorted.filter (· ∈ seen)).map fun c => "'" ++ c.value ++ "'"
    .error (.valueError ("duplicate objection categories: [" ++ ", ".intercalate named ++ "]"))

/-! ## Quotes -/

/-- `" ".join(text.split()).casefold()`. -/
def normal (s : String) : List Char :=
  (" ".intercalate (split p.toTables s)).toList.flatMap p.casefold

/-- A quote is in a transcript up to case and white space. -/
def Occurs (transcript quote : String) : Prop := normal p quote <:+: normal p transcript

instance (transcript quote : String) : Decidable (Occurs p transcript quote) :=
  inferInstanceAs (Decidable (_ <:+: _))

/-- `verify_quotes`: every quote that is not there, cut off, with the category it was given for. -/
def verifyQuotes (analysis : ObjectionAnalysis) (transcript : String) : List String :=
  (analysis.objections.filter fun o =>
      normal p o.quote ≠ [] && !decide (Occurs p transcript o.quote)).map fun o =>
    o.category.value ++ ":" ++ take o.quote 60

/-! ## What the model is given -/

/-- The transcript as it stands inside the fence. -/
def shown (transcript : String) : String :=
  String.ofList (remove CLOSING_MARK.toList
    (Privacy.redact p.toTables (Pii.RULES p.toTables) transcript true).toList)

def buildUserPrompt (transcript : String) : String :=
  "Analyse the objections in this post-demo conversation.\n\n" ++
    wrapUntrusted (Privacy.redact p.toTables (Pii.RULES p.toTables) transcript true)

/-! ## Reading the answer -/

/-- `_enum`. -/
def enum {α : Type} (members : Members α) : Json → Option α
  | .string s => members.lookup s
  | _ => none

/-- `entry.get(key)`. -/
def field (entry : Json) (key : String) : Json := (entry.get? key).getD .null

/-- The category of an entry, if it has one that is known. -/
def categoryOf (entry : Json) : Option ObjectionCategory := enum CATEGORIES (field entry "category")

/-- The quote of an entry. -/
def quoteOf (entry : Json) : String := (field entry "quote").textOrEmpty

/-- `str(entry.get(key) or "")[:n]`. -/
def cut (entry : Json) (key : String) (n : Nat) : String := take (field entry key).textOrEmpty n

/-- An entry as an objection of its category. -/
def itemOf (category : ObjectionCategory) (entry : Json) : CitedItem where
  category := category
  evidence := (enum EVIDENCE (field entry "evidence")).getD .inferred
  quote := cut entry "quote" 300
  messageRef := cut entry "message_ref" 64
  rationale := cut entry "rationale" 400
  confidence := (enum CONFIDENCE (field entry "confidence")).getD .low
  rootCause := cut entry "root_cause" 200

/-- The loop over the entries. No category is taken twice. -/
def items (seen : List ObjectionCategory) : List Json → Except Raised (List CitedItem)
  | [] => .ok []
  | entry :: entries =>
    match entry.get? "category" with
    | none => .error (.attributeError "object has no attribute 'get'")
    | some value =>
      match enum CATEGORIES value with
      | none => items seen entries
      | some category =>
        if category = .none ∨ category ∈ seen then items seen entries
        else do
          let item ← (itemOf category entry).validate p
          let later ← items (category :: seen) entries
          return item :: later

/-- What is asked about, by which model. -/
structure Request where
  demoId : String
  conversationRef : String
  modelRef : String
  now : Time
  deriving DecidableEq, Repr

def PROMPT_VERSION : String := "objections.v1"

/-- `raw.get("objections", []) or []`, as a loop goes over it. -/
def entriesOf (raw : Json) : Except Raised (List Json) :=
  match raw.getOr? "objections" (.array "[]" []) with
  | none => .error (.attributeError "object has no attribute 'get'")
  | some objections =>
    match objections.iter? with
    | none => .error (.typeError "object is not iterable")
    | some entries => .ok entries

/-- `_to_analysis`. -/
def toAnalysis (r : Request) (raw : Json) : Except Raised ObjectionAnalysis := do
  let entries ← entriesOf raw
  let objections ← items p [] entries
  ObjectionAnalysis.validate {
    demoId := r.demoId
    conversationRef := r.conversationRef
    objections
    sentiment := (enum SENTIMENT (field raw "sentiment")).getD .neutral
    intent := (enum INTENT (field raw "intent")).getD .unknown
    recommendedNextStep := (enum NEXT_STEP (field raw "recommended_next_step")).getD .sendFollowup
    summary := cut raw "summary" 600
    modelRef := r.modelRef
    promptVersion := PROMPT_VERSION
    analysedAt := r.now }

/-- `empty_analysis`. -/
def emptyAnalysis (r : Request) : Except Raised ObjectionAnalysis :=
  ObjectionAnalysis.validate {
    demoId := r.demoId
    conversationRef := r.conversationRef
    recommendedNextStep := .sendFollowup
    modelRef := r.modelRef
    promptVersion := PROMPT_VERSION
    analysedAt := r.now }

/-! ## Judging it -/

structure ExtractionResult where
  analysis : ObjectionAnalysis
  fabricated : List String := []
  refused : Bool := false
  refusalReason : String := ""
  deriving DecidableEq, Repr

/-- A result without objections. -/
def refuse (r : Request) (reason : String) (fabricated : List String := []) :
    Except Raised ExtractionResult := do
  return { analysis := ← emptyAnalysis r, fabricated, refused := true, refusalReason := reason }

/-- More than `MAX_FABRICATION_RATIO` of the quotes were not found. There are eight at most, so that
the division of the source is not rounded across it. -/
def tooMany (fabricated quoted : Nat) : Bool := 34 * max quoted 1 < 100 * fabricated

/-- What is done with an analysis that is valid. -/
def judged (r : Request) (transcript : String) (analysis : ObjectionAnalysis) :
    Except Raised ExtractionResult :=
  let fabricated := verifyQuotes p analysis transcript
  if fabricated = [] then .ok { analysis }
  else
    let quoted := analysis.objections.filter fun o => !blank p o.quote
    if tooMany fabricated.length quoted.length then refuse r "quotes_not_in_transcript" fabricated
    else
      let bad := fabricated.map fun item => String.ofList (item.toList.takeWhile (· ≠ ':'))
      let kept := analysis.objections.filter fun o => o.category.value ∉ bad
      .ok { analysis := { analysis with objections := kept }, fabricated }

/-- `extract`, with a model that answers a prompt, or fails with a code. -/
def extract (llm : String → Except String Json) (r : Request) (transcript : String) :
    Except Raised ExtractionResult :=
  if blank p transcript then refuse r "empty_transcript"
  else
    match llm (buildUserPrompt p transcript) with
    | .error code => refuse r ("llm_unavailable:" ++ if code = "" then "error" else code)
    | .ok raw =>
      match toAnalysis p r raw with
      | .error (.attributeError message) => .error (.attributeError message)
      | .error _ => refuse r "schema_validation_failed"
      | .ok analysis => judged p r transcript analysis

end

/-! ## What is kept was said -/

variable {p : Platform} {r : Request} {transcript : String} {analysis : ObjectionAnalysis}
  {result : ExtractionResult} {llm : String → Except String Json}

theorem bind_eq_ok {α β : Type} {x : Except Raised α} {f : α → Except Raised β} {b : β} :
    (x >>= f) = .ok b ↔ ∃ a, x = .ok a ∧ f a = .ok b := by
  cases x with
  | error e => exact iff_of_false nofun nofun
  | ok a => exact ⟨fun h => ⟨a, rfl, h⟩, fun ⟨_, ha, h⟩ => Except.ok.inj ha ▸ h⟩

theorem atMost_bind {α : Type} {field : String} {n : Nat} {s : String}
    {f : Unit → Except Raised α} {a : α} :
    (atMost field n s >>= f) = .ok a ↔ s.length ≤ n ∧ f () = .ok a := by
  rw [bind_eq_ok]
  unfold atMost
  split
  · next hlong => exact iff_of_false nofun fun h => absurd h.1 (Nat.not_le.mpr hlong)
  · next hshort => exact ⟨fun ⟨_, _, h⟩ => ⟨Nat.le_of_not_lt hshort, h⟩, fun h => ⟨(), rfl, h.2⟩⟩

/-- What the constructor of an objection accepts: texts that are not too long, and the evidence that
it claims. -/
structure CitedItem.Valid (p : Platform) (o : CitedItem) : Prop where
  quote : o.quote.length ≤ 300
  messageRef : o.messageRef.length ≤ 64
  rationale : o.rationale.length ≤ 400
  rootCause : o.rootCause.length ≤ 200
  cited : o.evidence = .explicit → blank p o.quote = false
  reasoned : o.evidence = .inferred → blank p o.rationale = false

theorem CitedItem.validate_iff {o o' : CitedItem} :
    o.validate p = .ok o' ↔ o' = o ∧ o.Valid p := by
  unfold CitedItem.validate
  rw [atMost_bind, atMost_bind, atMost_bind, atMost_bind]
  split_ifs with hcited hreasoned
  · refine iff_of_false nofun fun h => ?_
    have hnot := h.2.cited hcited.1
    rw [hcited.2] at hnot
    cases hnot
  · refine iff_of_false nofun fun h => ?_
    have hnot := h.2.reasoned hreasoned.1
    rw [hreasoned.2] at hnot
    cases hnot
  · constructor
    · rintro ⟨hquote, hmessageRef, hrationale, hrootCause, h⟩
      exact ⟨(Except.ok.inj h).symm, hquote, hmessageRef, hrationale, hrootCause,
        fun he => Bool.eq_false_iff.mpr fun hb => hcited ⟨he, hb⟩,
        fun he => Bool.eq_false_iff.mpr fun hb => hreasoned ⟨he, hb⟩⟩
    · rintro ⟨rfl, h⟩
      exact ⟨h.quote, h.messageRef, h.rationale, h.rootCause, rfl⟩

/-- What the constructor of an analysis accepts. -/
structure ObjectionAnalysis.Valid (a : ObjectionAnalysis) : Prop where
  demoId : a.demoId.length ≤ 64
  conversationRef : a.conversationRef.length ≤ 128
  summary : a.summary.length ≤ 600
  modelRef : a.modelRef.length ≤ 64
  promptVersion : a.promptVersion.length ≤ 32
  once : ((a.objections.map (·.category)).filter (· ≠ .none)).Nodup

theorem ObjectionAnalysis.validate_iff {a a' : ObjectionAnalysis} :
    a.validate = .ok a' ↔ a' = a ∧ a.Valid := by
  unfold ObjectionAnalysis.validate
  rw [atMost_bind, atMost_bind, atMost_bind, atMost_bind, atMost_bind]
  dsimp only
  split_ifs with honce
  · constructor
    · rintro ⟨hdemoId, hconversationRef, hsummary, hmodelRef, hpromptVersion, h⟩
      exact ⟨(Except.ok.inj h).symm, hdemoId, hconversationRef, hsummary, hmodelRef,
        hpromptVersion, honce⟩
    · rintro ⟨rfl, h⟩
      exact ⟨h.demoId, h.conversationRef, h.summary, h.modelRef, h.promptVersion, rfl⟩
  · exact iff_of_false (fun h => by cases h.2.2.2.2.2) fun h => honce h.2.once

/-- **What the loop collects**: objections that are valid, of categories that it had not seen, each
of them once. -/
theorem items_spec {entries : List Json} :
    ∀ {seen : List ObjectionCategory} {l : List CitedItem}, items p seen entries = .ok l →
      (∀ o ∈ l, o.Valid p ∧ o.category ≠ .none ∧ o.category ∉ seen) ∧
        (l.map (·.category)).Nodup := by
  induction entries with
  | nil =>
    rintro seen l ⟨⟩
    exact ⟨fun o ho => absurd ho List.not_mem_nil, List.nodup_nil⟩
  | cons entry entries ih =>
    intro seen l h
    rw [items] at h
    split at h
    · cases h
    · split at h
      · exact ih h
      · split_ifs at h with hskip
        · exact ih h
        · rw [bind_eq_ok] at h
          obtain ⟨item, hitem, h⟩ := h
          rw [bind_eq_ok] at h
          obtain ⟨later, hlater, h⟩ := h
          obtain rfl := Except.ok.inj h
          obtain ⟨rfl, hvalid⟩ := CitedItem.validate_iff.mp hitem
          obtain ⟨hall, honce⟩ := ih hlater
          rw [not_or] at hskip
          refine ⟨List.forall_mem_cons.mpr ⟨⟨hvalid, hskip⟩, fun o ho => ?_⟩, ?_⟩
          · obtain ⟨ho₁, ho₂, ho₃⟩ := hall o ho
            exact ⟨ho₁, ho₂, fun hseen => ho₃ (List.mem_cons_of_mem _ hseen)⟩
          · refine List.nodup_cons.mpr ⟨fun hmem => ?_, honce⟩
            obtain ⟨o, ho, heq⟩ := List.mem_map.mp hmem
            exact (hall o ho).2.2 (heq ▸ List.mem_cons_self)

/-- The category that a quote was given for can be read off its report. -/
theorem category_of_report (c : ObjectionCategory) (quote : String) :
    String.ofList ((c.value ++ ":" ++ quote).toList.takeWhile (· ≠ ':')) = c.value := by
  have hcolon : ":".toList = [':'] := rfl
  have hvalue : ∀ x ∈ c.value.toList, decide (x ≠ ':') = true :=
    List.all_eq_true.mp (by cases c <;> decide)
  rw [String.toList_append, String.toList_append, hcolon, List.append_assoc,
    List.takeWhile_append_of_pos hvalue, List.singleton_append, List.takeWhile_cons,
    if_neg (by decide), List.append_nil, String.ofList_toList]

theorem occurs_of_normal_eq_nil {quote : String} (h : normal p quote = []) :
    Occurs p transcript quote := by
  rw [Occurs, h]
  exact List.nil_infix

/-- A quote that is nowhere in the transcript is reported. -/
theorem report_mem {o : CitedItem} (ho : o ∈ analysis.objections)
    (hnot : ¬Occurs p transcript o.quote) :
    o.category.value ++ ":" ++ take o.quote 60 ∈ verifyQuotes p analysis transcript := by
  refine List.mem_map_of_mem (List.mem_filter.mpr ⟨ho, ?_⟩)
  have hnormal : normal p o.quote ≠ [] := fun h => hnot (occurs_of_normal_eq_nil h)
  rw [decide_eq_false hnot, decide_eq_true hnormal]
  rfl

theorem verifyQuotes_eq_nil_iff : verifyQuotes p analysis transcript = [] ↔
    ∀ o ∈ analysis.objections, Occurs p transcript o.quote := by
  constructor
  · intro h o ho
    by_contra hnot
    have hmem := report_mem ho hnot
    rw [h] at hmem
    cases hmem
  · intro h
    rw [verifyQuotes, List.map_eq_nil_iff, List.filter_eq_nil_iff]
    intro o ho
    rw [decide_eq_true (h o ho), Bool.not_true, Bool.and_false]
    exact Bool.false_ne_true

theorem refuse_spec {reason : String} {fabricated : List String}
    (h : refuse r reason fabricated = .ok result) :
    result.refused = true ∧ result.analysis.objections = [] := by
  obtain ⟨analysis, hanalysis, h⟩ := bind_eq_ok.mp h
  obtain rfl := Except.ok.inj h
  obtain ⟨rfl, -⟩ := ObjectionAnalysis.validate_iff.mp hanalysis
  exact ⟨rfl, rfl⟩

/-- **What is kept was said.** A result is refused, and then it has no objections; or its objections
are some of those that were read, and the quote of each of them is in the transcript. -/
theorem judged_quotes (h : judged p r transcript analysis = .ok result) :
    (result.refused = true ∧ result.analysis.objections = []) ∨
      (result.refused = false ∧ result.analysis.objections.Sublist analysis.objections ∧
        ∀ o ∈ result.analysis.objections, Occurs p transcript o.quote) := by
  unfold judged at h
  dsimp only at h
  split_ifs at h with hnone hmany
  · obtain rfl := Except.ok.inj h
    exact .inr ⟨rfl, List.Sublist.refl _, verifyQuotes_eq_nil_iff.mp hnone⟩
  · exact .inl (refuse_spec h)
  · obtain rfl := Except.ok.inj h
    refine .inr ⟨rfl, List.filter_sublist, fun o ho => ?_⟩
    obtain ⟨ho, hkept⟩ := List.mem_filter.mp ho
    by_contra hnot
    refine of_decide_eq_true hkept (List.mem_map.mpr ⟨_, report_mem ho hnot, ?_⟩)
    exact category_of_report o.category _

/-- What an analysis that is read consists of. -/
theorem toAnalysis_spec {raw : Json} (h : toAnalysis p r raw = .ok analysis) :
    ∃ entries, items p [] entries = .ok analysis.objections := by
  obtain ⟨entries, -, h⟩ := bind_eq_ok.mp h
  obtain ⟨l, hl, h⟩ := bind_eq_ok.mp h
  obtain ⟨rfl, -⟩ := ObjectionAnalysis.validate_iff.mp h
  exact ⟨entries, hl⟩

/-- How a result comes about: it is refused at once, or it is a judgement on what the model has
answered. -/
theorem extract_spec (h : extract p llm r transcript = .ok result) :
    (result.refused = true ∧ result.analysis.objections = []) ∨
      ∃ raw analysis, toAnalysis p r raw = .ok analysis ∧
        judged p r transcript analysis = .ok result := by
  unfold extract at h
  split at h
  · exact .inl (refuse_spec h)
  · split at h
    · exact .inl (refuse_spec h)
    · next raw _ =>
      split at h
      · cases h
      · exact .inl (refuse_spec h)
      · next analysis hanalysis => exact .inr ⟨raw, analysis, hanalysis, h⟩

/-- **Sound**: what is called explicit is cited, no category occurs twice, and what is refused is
empty. -/
structure Sound (p : Platform) (transcript : String) (result : ExtractionResult) : Prop where
  cited : ∀ o ∈ result.analysis.objections, o.evidence = .explicit →
    blank p o.quote = false ∧ Occurs p transcript o.quote
  once : (result.analysis.objections.map (·.category)).Nodup
  refused : result.refused = true → result.analysis.objections = []

/-- Every result is sound. -/
theorem sound_of_extract (h : extract p llm r transcript = .ok result) :
    Sound p transcript result := by
  have hempty (hnil : result.analysis.objections = []) : Sound p transcript result := by
    refine ⟨fun o ho => ?_, ?_, fun _ => hnil⟩
    · rw [hnil] at ho
      cases ho
    · rw [hnil]
      exact List.nodup_nil
  obtain ⟨-, hnil⟩ | ⟨raw, analysis, hanalysis, hjudged⟩ := extract_spec h
  · exact hempty hnil
  obtain ⟨-, hnil⟩ | ⟨hrefused, hsub, hquotes⟩ := judged_quotes hjudged
  · exact hempty hnil
  obtain ⟨entries, hitems⟩ := toAnalysis_spec hanalysis
  obtain ⟨hvalid, honce⟩ := items_spec hitems
  refine ⟨fun o ho hexplicit => ?_, (hsub.map _).nodup honce, fun h => ?_⟩
  · exact ⟨(hvalid o (hsub.subset ho)).1.cited hexplicit, hquotes o ho⟩
  · rw [hrefused] at h
    cases h

/-! ## What is cited faithfully is kept -/

/-- An entry as the schema wants it. -/
structure EntryValid (p : Platform) (entry : Json) : Prop where
  dict : (entry.get? "category").isSome
  category : (categoryOf entry).isSome
  evidence : (enum EVIDENCE (field entry "evidence")).isSome
  confidence : (enum CONFIDENCE (field entry "confidence")).isSome
  cited : enum EVIDENCE (field entry "evidence") = some .explicit → blank p (quoteOf entry) = false
  reasoned : enum EVIDENCE (field entry "evidence") = some .inferred →
    blank p (cut entry "rationale" 400) = false

/-- An entry that objects to something. -/
def Objects (entry : Json) (category : ObjectionCategory) : Prop :=
  categoryOf entry = some category ∧ category ≠ .none

/-- **The output is valid**, its quotes aside: its entries are, no category is used twice, and the
names that the analysis is stored under are not too long. -/
structure OutputValid (p : Platform) (r : Request) (raw : Json) (entries : List Json) : Prop where
  objections : ∃ text, raw.getOr? "objections" (.array "[]" []) = some (.array text entries)
  each : ∀ entry ∈ entries, EntryValid p entry
  once : entries.Pairwise fun a b => ∀ c, Objects a c → ¬Objects b c
  demoId : r.demoId.length ≤ 64
  conversationRef : r.conversationRef.length ≤ 128
  modelRef : r.modelRef.length ≤ 64

/-- Every quote that is not empty is copied from what the model was shown, and is not too long. -/
def Copied (p : Platform) (transcript : String) (entries : List Json) : Prop :=
  ∀ entry ∈ entries, quoteOf entry ≠ "" →
    (quoteOf entry).toList <:+: (shown p transcript).toList ∧ (quoteOf entry).length ≤ 300

theorem length_cut_le (entry : Json) (key : String) (n : Nat) : (cut entry key n).length ≤ n := by
  rw [cut, take, String.length_ofList]
  exact List.length_take_le _ _

theorem cut_quote {entry : Json} (h : quoteOf entry ≠ "" → (quoteOf entry).length ≤ 300) :
    cut entry "quote" 300 = quoteOf entry := by
  have hlength : (quoteOf entry).toList.length ≤ 300 := by
    by_cases hempty : quoteOf entry = ""
    · rw [hempty]
      exact Nat.zero_le _
    · exact h hempty
  rw [cut, take, ← quoteOf, List.take_of_length_le hlength, String.ofList_toList]

/-- A valid entry is accepted. -/
theorem EntryValid.item {entry : Json} (h : EntryValid p entry)
    (hquote : cut entry "quote" 300 = quoteOf entry) (c : ObjectionCategory) :
    (itemOf c entry).Valid p where
  quote := length_cut_le _ _ _
  messageRef := length_cut_le _ _ _
  rationale := length_cut_le _ _ _
  rootCause := length_cut_le _ _ _
  cited he := by
    obtain ⟨e, hevidence⟩ := Option.isSome_iff_exists.mp h.evidence
    rw [itemOf, hevidence] at he
    show blank p (cut entry "quote" 300) = false
    rw [hquote]
    exact h.cited (hevidence.trans (congrArg some he))
  reasoned he := by
    obtain ⟨e, hevidence⟩ := Option.isSome_iff_exists.mp h.evidence
    rw [itemOf, hevidence] at he
    exact h.reasoned (hevidence.trans (congrArg some he))

/-- **Of valid entries none is dropped.** -/
theorem items_of_valid {entries : List Json} (hvalid : ∀ entry ∈ entries, EntryValid p entry)
    (hcut : ∀ entry ∈ entries, cut entry "quote" 300 = quoteOf entry)
    (honce : entries.Pairwise fun a b => ∀ c, Objects a c → ¬Objects b c) :
    ∀ seen : List ObjectionCategory, (∀ entry ∈ entries, ∀ c, Objects entry c → c ∉ seen) →
      ∃ l, items p seen entries = .ok l ∧
        ∀ o, o ∈ l ↔ ∃ entry ∈ entries, ∃ c, Objects entry c ∧ o = itemOf c entry := by
  induction entries with
  | nil =>
    intro seen _
    exact ⟨[], rfl, fun o => iff_of_false List.not_mem_nil fun ⟨e, he, _⟩ => by cases he⟩
  | cons entry entries ih =>
    intro seen hseen
    rw [List.forall_mem_cons] at hvalid hcut hseen
    obtain ⟨hfirst, honce⟩ := List.pairwise_cons.mp honce
    obtain ⟨value, hvalue⟩ := Option.isSome_iff_exists.mp hvalid.1.dict
    obtain ⟨c, hc⟩ := Option.isSome_iff_exists.mp hvalid.1.category
    have henum : enum CATEGORIES value = some c := by
      rw [← hc, categoryOf, field, hvalue]
      rfl
    rw [items, hvalue]
    dsimp only
    rw [henum]
    dsimp only
    by_cases hnone : c = .none
    · -- nothing is objected to here
      obtain ⟨l, hl, hmem⟩ := ih hvalid.2 hcut.2 honce seen hseen.2
      refine ⟨l, by rw [if_pos (.inl hnone)]; exact hl, fun o => (hmem o).trans ?_⟩
      constructor
      · rintro ⟨e, he, h⟩
        exact ⟨e, List.mem_cons_of_mem _ he, h⟩
      · rintro ⟨e, he, c', hobjects, ho⟩
        rcases List.mem_cons.mp he with rfl | he
        · rw [Objects, hc] at hobjects
          exact absurd ((Option.some.inj hobjects.1).symm.trans hnone) hobjects.2
        · exact ⟨e, he, c', hobjects, ho⟩
    · have hobjects : Objects entry c := ⟨hc, hnone⟩
      obtain ⟨l, hl, hmem⟩ := ih hvalid.2 hcut.2 honce (c :: seen) fun e he c' hc' => by
        intro hmem
        rcases List.mem_cons.mp hmem with rfl | hmem
        · exact hfirst e he c' hobjects hc'
        · exact hseen.2 e he c' hc' hmem
      have hitem : (itemOf c entry).validate p = .ok (itemOf c entry) :=
        CitedItem.validate_iff.mpr ⟨rfl, hvalid.1.item hcut.1 c⟩
      refine ⟨itemOf c entry :: l, ?_, fun o => ?_⟩
      · rw [if_neg (not_or.mpr ⟨hnone, hseen.1 c hobjects⟩), hitem, hl]
        rfl
      · rw [List.mem_cons, hmem o]
        constructor
        · rintro (rfl | ⟨e, he, h⟩)
          · exact ⟨entry, List.mem_cons_self, c, hobjects, rfl⟩
          · exact ⟨e, List.mem_cons_of_mem _ he, h⟩
        · rintro ⟨e, he, c', hobjects', ho⟩
          rcases List.mem_cons.mp he with rfl | he
          · obtain rfl := Option.some.inj (hobjects.1.symm.trans hobjects'.1)
            exact .inl ho
          · exact .inr ⟨e, he, c', hobjects', ho⟩

/-- **A valid output is read whole.** -/
theorem toAnalysis_of_valid {raw : Json} {entries : List Json}
    (hvalid : OutputValid p r raw entries)
    (hcut : ∀ entry ∈ entries, cut entry "quote" 300 = quoteOf entry) :
    ∃ analysis, toAnalysis p r raw = .ok analysis ∧ ∀ o, o ∈ analysis.objections ↔
      ∃ entry ∈ entries, ∃ c, Objects entry c ∧ o = itemOf c entry := by
  obtain ⟨text, hobjections⟩ := hvalid.objections
  have hentries : entriesOf raw = .ok entries := by
    rw [entriesOf, hobjections]
    cases entries <;> rfl
  obtain ⟨l, hl, hmem⟩ := items_of_valid hvalid.each hcut hvalid.once [] fun e he c hc hnot =>
    absurd hnot List.not_mem_nil
  refine ⟨_, bind_eq_ok.mpr ⟨entries, hentries, bind_eq_ok.mpr ⟨l, hl,
    ObjectionAnalysis.validate_iff.mpr ⟨rfl, ?_⟩⟩⟩, hmem⟩
  exact {
    demoId := hvalid.demoId
    conversationRef := hvalid.conversationRef
    summary := length_cut_le _ _ _
    modelRef := hvalid.modelRef
    promptVersion := show PROMPT_VERSION.length ≤ 32 by decide
    once := (items_spec hl).2.filter _ }

/-- A model was asked, and this is what it answered. -/
structure Answered (p : Platform) (llm : String → Except String Json) (transcript : String)
    (raw : Json) : Prop where
  asked : blank p transcript = false
  answered : llm (buildUserPrompt p transcript) = .ok raw

/-- **Nothing is dropped**: there is a result, it is not refused, and every entry that objects to
something is in it with its quote. -/
def Complete (p : Platform) (llm : String → Except String Json) (r : Request) (transcript : String)
    (entries : List Json) : Prop :=
  ∃ result, extract p llm r transcript = .ok result ∧ result.refused = false ∧
    ∀ entry ∈ entries, ∀ c, Objects entry c →
      ∃ o ∈ result.analysis.objections, o.category = c ∧ o.quote = quoteOf entry

/-- **Quotes are verified as they should be**: every result is sound, and of a valid output whose
quotes are copied nothing is dropped. -/
def Verified (p : Platform) (llm : String → Except String Json) (r : Request)
    (transcript : String) : Prop :=
  (∀ result, extract p llm r transcript = .ok result → Sound p transcript result) ∧
    ∀ raw entries, Answered p llm transcript raw → OutputValid p r raw entries →
      Copied p transcript entries → Complete p llm r transcript entries

/-- The quotes of these entries are in the transcript as it was before it was redacted. -/
def Quoted (p : Platform) (transcript : String) (entries : List Json) : Prop :=
  ∀ entry ∈ entries, ∀ c, Objects entry c → Occurs p transcript (quoteOf entry)

/-- **When nothing is dropped.** -/
theorem complete_iff {raw : Json} {entries : List Json} (hanswered : Answered p llm transcript raw)
    (hvalid : OutputValid p r raw entries) (hcopied : Copied p transcript entries) :
    Complete p llm r transcript entries ↔ Quoted p transcript entries := by
  have hcut : ∀ entry ∈ entries, cut entry "quote" 300 = quoteOf entry := fun entry hentry =>
    cut_quote fun hne => (hcopied entry hentry hne).2
  obtain ⟨analysis, hanalysis, hmem⟩ := toAnalysis_of_valid hvalid hcut
  have hextract : extract p llm r transcript = judged p r transcript analysis := by
    rw [extract, hanswered.asked, if_neg Bool.false_ne_true, hanswered.answered]
    dsimp only
    rw [hanalysis]
  constructor
  · rintro ⟨result, hresult, hrefused, hall⟩ entry hentry c hobjects
    obtain ⟨o, ho, -, hquote⟩ := hall entry hentry c hobjects
    rw [hextract] at hresult
    obtain ⟨hrefused', -⟩ | ⟨-, -, hquotes⟩ := judged_quotes hresult
    · rw [hrefused'] at hrefused
      cases hrefused
    · exact hquote ▸ hquotes o ho
  · intro hquoted
    have hnone : verifyQuotes p analysis transcript = [] := by
      refine verifyQuotes_eq_nil_iff.mpr fun o ho => ?_
      obtain ⟨entry, hentry, c, hobjects, rfl⟩ := (hmem o).mp ho
      show Occurs p transcript (cut entry "quote" 300)
      rw [hcut entry hentry]
      exact hquoted entry hentry c hobjects
    refine ⟨{ analysis }, ?_, rfl, fun entry hentry c hobjects => ?_⟩
    · rw [hextract, judged]
      exact if_pos hnone
    · exact ⟨itemOf c entry, (hmem _).mpr ⟨entry, hentry, c, hobjects, rfl⟩, rfl,
        hcut entry hentry⟩

/-- **When quotes are verified as they should be**: exactly if all quotes of a valid output that are
copied from the redacted transcript are in the transcript as it was before. -/
theorem verified_iff (p : Platform) (llm : String → Except String Json) (r : Request)
    (transcript : String) : Verified p llm r transcript ↔
      ∀ raw entries, Answered p llm transcript raw → OutputValid p r raw entries →
        Copied p transcript entries → Quoted p transcript entries := by
  constructor
  · rintro ⟨-, hcomplete⟩ raw entries hanswered hvalid hcopied
    exact (complete_iff hanswered hvalid hcopied).mp (hcomplete raw entries hanswered hvalid hcopied)
  · intro hquoted
    refine ⟨fun result => sound_of_extract, fun raw entries hanswered hvalid hcopied => ?_⟩
    exact (complete_iff hanswered hvalid hcopied).mpr (hquoted raw entries hanswered hvalid hcopied)

/-! ## A telephone number -/

/-- On ASCII. -/
def onAscii : Platform := { ascii with casefold := fun c => [c.toLower] }

/-- One concern about the price, with a quote. -/
def pricey (quote : String) : Json :=
  .object "" [("category", .string "price_concern"), ("evidence", .string "explicit"),
    ("quote", .string quote), ("confidence", .string "high")]

/-- An output with one entry. -/
def oneEntry (entry : Json) : Json := .object "" [("objections", .array "" [entry])]

def someDemo : Request := ⟨"d1", "cv_1", "m1", 0⟩

def callMe : String := "too much, call 9876543210"

theorem shown_callMe : shown onAscii callMe = "too much, call [phone]" := by rfl

theorem oneEntry_valid : OutputValid onAscii someDemo (oneEntry (pricey "too much, call [phone]"))
    [pricey "too much, call [phone]"] where
  objections := ⟨"", rfl⟩
  each := by
    refine List.forall_mem_singleton.mpr ⟨rfl, by decide, by decide, by decide, ?_, ?_⟩
    · intro _
      decide
    · intro h
      cases h
  once := List.pairwise_singleton _ _
  demoId := by decide
  conversationRef := by decide
  modelRef := by decide

/-- **A faithful quote is refused**: the model copies what it was shown, and is told that it made it
up. -/
theorem copied_is_refused : ¬Verified onAscii
    (fun _ => .ok (oneEntry (pricey "too much, call [phone]"))) someDemo callMe := by
  rintro ⟨-, hcomplete⟩
  have hcopied : Copied onAscii callMe [pricey "too much, call [phone]"] := by
    refine List.forall_mem_singleton.mpr fun _ => ⟨?_, by decide⟩
    rw [shown_callMe]
    exact List.infix_refl _
  have hanswered : Answered onAscii (fun _ => .ok (oneEntry (pricey "too much, call [phone]"))) callMe
      (oneEntry (pricey "too much, call [phone]")) := ⟨by decide, rfl⟩
  have hquoted := (complete_iff hanswered oneEntry_valid hcopied).mp
    (hcomplete _ _ hanswered oneEntry_valid hcopied)
  have hoccurs := hquoted _ List.mem_cons_self .price ⟨by decide, by decide⟩
  revert hoccurs
  decide

end NxTutors.DemoAgent.Objections
