import NxTutors.MatchAgent.Handoffs
import NxTutors.Text.Base64
import NxTutors.Text.JsonData

/-!
# Continuation tokens

A match is paused while another agent does something else, and the token that is handed over proves
later on what was paused. It is a payload and its signature. The payload is a claim, written as JSON
and encoded for addresses; nobody else can sign.

Verifying a token raises `InvalidContinuation` if it proves nothing, and `try_verify` answers none
then. What else is raised goes through: a payload that is not ASCII cannot be signed, and texts that
are not ASCII cannot be compared in constant time, which goes for the signature and for the
reference of the conversation.
-/

namespace NxTutors.MatchAgent

open Text (JsonData)
open Text.JsonData (Scalar)

/-! ## Tokens -/

inductive ResumeFailure
  | malformed | badSignature | expired | wrongConversation | unknownVersion
  deriving DecidableEq, Repr

/-- What a valid token proves. -/
structure ContinuationClaim where
  sessionId : String
  conversationRef : String
  reason : String
  issuedAt : Int
  expiresAt : Int
  deriving DecidableEq, Repr

def DEFAULT_TTL_SECONDS : Int := 6 * 3600

def TOKEN_VERSION : String := "c1"

/-- A call of `issue`, with the identifier that is made up if no session is named. -/
structure IssueCall where
  conversationRef : String
  reason : String
  sessionId : Option String := none
  ttlSeconds : Int := DEFAULT_TTL_SECONDS
  now : Int
  uuid : String

/-- The claim that is issued. -/
def IssueCall.claim (call : IssueCall) : ContinuationClaim where
  sessionId := (call.sessionId.filter (· ≠ "")).getD call.uuid
  conversationRef := call.conversationRef
  reason := Text.take call.reason 64
  issuedAt := call.now
  expiresAt := call.now + call.ttlSeconds

/-- The fields of a claim, sorted by name. -/
def ContinuationClaim.body (claim : ContinuationClaim) : List (String × Scalar) :=
  [("c", .str claim.conversationRef), ("e", .int claim.expiresAt), ("i", .int claim.issuedAt),
    ("r", .str claim.reason), ("s", .str claim.sessionId), ("v", .str TOKEN_VERSION)]

/-- `text.encode()`, of ASCII. -/
def asciiBytes (cs : List Char) : List UInt8 := cs.map fun c => UInt8.ofNat c.toNat

/-- The payload of a claim. -/
def ContinuationClaim.payload (claim : ContinuationClaim) : String :=
  String.ofList (Text.urlSafe (asciiBytes (Text.JsonData.dumps claim.body)))

/-- The codec, and what it rests on: the HMAC of a payload under its key; the text that bytes are
taken for when JSON is read; and what a JSON value is as a text and as a whole number, where it may
be something else. -/
structure SignedCodec where
  tables : Text.Tables
  mac : String → List UInt8
  decode : List UInt8 → Option (List Char)
  decode_ascii : ∀ cs, (∀ c ∈ cs, Text.JsonData.Plain c) → decode (asciiBytes cs) = some cs
  str : JsonData → String
  str_text : ∀ s, str (.str s) = s
  int : JsonData → Except String Int
  int_whole : ∀ n, int (.int n) = .ok n

/-- What is raised: `InvalidContinuation`, or something else. -/
inductive VerifyError
  | invalid (reason : ResumeFailure)
  | other (exception : String)
  deriving DecidableEq, Repr

namespace SignedCodec

variable (k : SignedCodec)

/-- The signature of a payload. -/
def signature (payload : String) : String := String.ofList (Text.urlSafe (k.mac payload))

/-- `issue`. -/
def issue (call : IssueCall) : String × ContinuationClaim :=
  (call.claim.payload ++ "." ++ k.signature call.claim.payload, call.claim)

/-- What is read of a payload. -/
def load (payload : String) : Option JsonData :=
  ((Text.fromUrlSafe payload.toList).bind k.decode).bind Text.JsonData.loads

/-- The claim of a payload that was signed, if it is still one for the conversation. -/
def check (data : JsonData) (conversationRef : String) (now : Int) :
    Except VerifyError ContinuationClaim :=
  match data with
  | .obj fields =>
    let field name (default : JsonData) := (Text.JsonData.get fields name).getD default
    match field "v" .null with
    | .str version =>
      if version ≠ TOKEN_VERSION then .error (.invalid .unknownVersion)
      else
        match k.int (field "i" (.int 0)), k.int (field "e" (.int 0)) with
        | .error exception, _ => .error (.other exception)
        | _, .error exception => .error (.other exception)
        | .ok issuedAt, .ok expiresAt =>
          let claim : ContinuationClaim :=
            { sessionId := k.str (field "s" (.str ""))
              conversationRef := k.str (field "c" (.str ""))
              reason := k.str (field "r" (.str "")), issuedAt, expiresAt }
          if claim.sessionId = "" ∨ claim.conversationRef = "" then .error (.invalid .malformed)
          else if !isAscii claim.conversationRef || !isAscii conversationRef then
            .error (.other "TypeError")
          else if claim.conversationRef ≠ conversationRef then .error (.invalid .wrongConversation)
          else if claim.expiresAt ≤ now then .error (.invalid .expired)
          else .ok claim
    | _ => .error (.invalid .unknownVersion)
  | _ => .error (.other "AttributeError")

/-- `verify`. -/
def verify (token conversationRef : String) (now : Int) : Except VerifyError ContinuationClaim :=
  match splitDot (Text.strip k.tables token) with
  | none => .error (.invalid .malformed)
  | some (payload, signature) =>
    if !isAscii payload then .error (.other "UnicodeEncodeError")
    else if !isAscii signature then .error (.other "TypeError")
    else if k.signature payload ≠ signature then .error (.invalid .badSignature)
    else
      match k.load payload with
      | none => .error (.invalid .malformed)
      | some data => k.check data conversationRef now

/-- **`try_verify`.** -/
def tryVerify (token : Option String) (conversationRef : String) (now : Int) :
    Except String (Option ContinuationClaim) :=
  if token.getD "" = "" then .ok none
  else
    match k.verify (token.getD "") conversationRef now with
    | .ok claim => .ok (some claim)
    | .error (.invalid _) => .ok none
    | .error (.other exception) => .error exception

/-! ## What a token is made of -/

/-- What is written before the first full stop and behind it. -/
theorem splitDot_append {payload rest : String} (h : '.' ∉ payload.toList) :
    splitDot (payload ++ "." ++ rest) = some (payload, rest) := by
  have hlist : (payload ++ "." ++ rest).toList = payload.toList ++ '.' :: rest.toList := by
    simp
  have hbefore : ∀ c ∈ payload.toList, decide (c ≠ '.') = true := by
    intro c hc
    exact decide_eq_true fun heq => h (heq ▸ hc)
  rw [splitDot, hlist, if_pos (by simp), List.takeWhile_append_of_pos hbefore,
    List.dropWhile_append_of_pos hbefore]
  simp

/-- A token that has a full stop is what is before it, and what is behind. -/
theorem eq_of_splitDot {token payload rest : String} (h : splitDot token = some (payload, rest)) :
    token = payload ++ "." ++ rest := by
  unfold splitDot at h
  split at h
  · rename_i hdot
    cases h
    apply String.toList_injective
    have hdrop : token.toList.dropWhile (· ≠ '.') ≠ [] := by
      intro hnil
      have hall := List.dropWhile_eq_nil_iff.mp hnil '.' hdot
      simp at hall
    obtain ⟨c, cs, hcs⟩ := List.exists_cons_of_ne_nil hdrop
    have hc : c = '.' := by
      have hhead := List.head_dropWhile_not (fun c => decide (c ≠ '.')) hdrop
      simp only [hcs, List.head_cons] at hhead
      simpa using hhead
    subst hc
    have hsplit := List.takeWhile_append_dropWhile (p := fun c => decide (c ≠ '.'))
      (l := token.toList)
    rw [hcs] at hsplit
    rw [String.toList_append, String.toList_append, String.toList_ofList, String.toList_ofList, hcs,
      String.toList_ofList, List.append_assoc]
    exact hsplit.symm
  · cases h

theorem isAscii_append {a b : String} : isAscii (a ++ b) = (isAscii a && isAscii b) := by
  simp [isAscii]

/-- What is encoded for addresses can be signed, and compared. -/
theorem isAscii_urlSafe (bytes : List UInt8) :
    isAscii (String.ofList (Text.urlSafe bytes)) = true := by
  rw [isAscii, String.toList_ofList, List.all_eq_true]
  exact Text.forall_urlSafe (by decide) (by decide +kernel) bytes

theorem dot_not_mem_payload (claim : ContinuationClaim) : '.' ∉ claim.payload.toList := by
  rw [ContinuationClaim.payload, String.toList_ofList]
  exact fun h => Text.forall_urlSafe (P := (· ≠ '.')) (by decide) (by decide +kernel) _ _ h rfl

/-- A token has no white space, so nothing is stripped off. -/
theorem strip_issue (hplain : k.tables.Plain) (call : IssueCall) :
    Text.strip k.tables (k.issue call).1 = (k.issue call).1 := by
  have hword (bytes : List UInt8) : ∀ c ∈ Text.urlSafe bytes, Text.Printable c ∧ c ≠ ' ' :=
    Text.forall_urlSafe (by decide) (by decide +kernel) bytes
  apply hplain.strip_word
  refine ⟨fun h => ?_, fun c hc => ?_⟩
  · have hlength := congrArg String.length h
    simp [issue] at hlength
  · simp only [issue, ContinuationClaim.payload, signature, String.toList_append,
      String.toList_ofList, List.mem_append] at hc
    rcases hc with (hc | hc) | hc
    · exact hword _ c hc
    · obtain rfl := List.mem_singleton.mp hc
      decide
    · exact hword _ c hc

variable {k}

/-- **A payload is read as the fields of its claim.** -/
theorem load_payload (claim : ContinuationClaim) :
    k.load claim.payload = some (.obj (claim.body.map fun f => (f.1, f.2.data))) := by
  rw [load, ContinuationClaim.payload, String.toList_ofList, Text.fromUrlSafe_urlSafe,
    Option.bind_some, k.decode_ascii _ (Text.JsonData.plain_dumps _), Option.bind_some,
    Text.JsonData.loads_dumps]

/-- **What is checked of a claim that was issued.** -/
theorem check_body (claim : ContinuationClaim) (ref : String) (now : Int) :
    k.check (.obj (claim.body.map fun f => (f.1, f.2.data))) ref now =
      if claim.sessionId = "" ∨ claim.conversationRef = "" then .error (.invalid .malformed)
      else if !isAscii claim.conversationRef || !isAscii ref then .error (.other "TypeError")
      else if claim.conversationRef ≠ ref then .error (.invalid .wrongConversation)
      else if claim.expiresAt ≤ now then .error (.invalid .expired)
      else .ok claim := by
  have hget : ∀ f ∈ claim.body, Text.JsonData.get (claim.body.map fun f => (f.1, f.2.data)) f.1 =
      some f.2.data := by
    simp [ContinuationClaim.body, Text.JsonData.get]
  have hc := hget ("c", .str claim.conversationRef) (by simp [ContinuationClaim.body])
  have he := hget ("e", .int claim.expiresAt) (by simp [ContinuationClaim.body])
  have hi := hget ("i", .int claim.issuedAt) (by simp [ContinuationClaim.body])
  have hr := hget ("r", .str claim.reason) (by simp [ContinuationClaim.body])
  have hs := hget ("s", .str claim.sessionId) (by simp [ContinuationClaim.body])
  have hv := hget ("v", .str TOKEN_VERSION) (by simp [ContinuationClaim.body])
  clear hget
  generalize (claim.body.map fun f => (f.1, f.2.data)) = fields at *
  simp only [check, hc, he, hi, hr, hs, hv, Option.getD_some, Scalar.data, k.str_text, k.int_whole,
    ne_eq, not_true_eq_false, if_false]

/-! ## What a token proves -/

variable (k)

/-- Nobody else signs: a payload that comes with its signature is one of ours. -/
def Unforged (issued : List IssueCall) (token : String) : Prop :=
  ∀ payload signature, splitDot (Text.strip k.tables token) = some (payload, signature) →
    isAscii payload = true → k.signature payload = signature →
      ∃ call ∈ issued, payload = call.claim.payload

/-- The token is the one that was issued for the claim, but for white space around it. -/
def IssuedAs (issued : List IssueCall) (token : String) (claim : ContinuationClaim) : Prop :=
  ∃ call ∈ issued, Text.strip k.tables token = (k.issue call).1 ∧ claim = (k.issue call).2

/-- The token proves the claim for the conversation. -/
structure Proves (issued : List IssueCall) (token conversationRef : String) (now : Int)
    (claim : ContinuationClaim) : Prop where
  issuedAs : k.IssuedAs issued token claim
  session : claim.sessionId ≠ ""
  named : claim.conversationRef ≠ ""
  conversation : claim.conversationRef = conversationRef
  live : now < claim.expiresAt

/-- Nothing that is compared lies beyond ASCII: the token, if it has a full stop; and the
references, if the token is one of ours. -/
def Comparable (issued : List IssueCall) (token conversationRef : String) : Prop :=
  splitDot (Text.strip k.tables token) = none ∨
    isAscii (Text.strip k.tables token) = true ∧
      ∀ claim, k.IssuedAs issued token claim → claim.sessionId ≠ "" → claim.conversationRef ≠ "" →
        isAscii claim.conversationRef = true ∧ isAscii conversationRef = true

variable {k} {issued : List IssueCall} {token conversationRef : String} {now : Int}
  {claim claim' : ContinuationClaim}

/-- A token that was issued is a payload and its signature. -/
theorem IssuedAs.splitDot (h : k.IssuedAs issued token claim) :
    splitDot (Text.strip k.tables token) = some (claim.payload, k.signature claim.payload) := by
  obtain ⟨call, -, htoken, rfl⟩ := h
  rw [htoken]
  exact splitDot_append (dot_not_mem_payload _)

/-- What is handed back as it was issued is one of ours. -/
theorem issuedAs_of_mem (hplain : k.tables.Plain) {call : IssueCall} (h : call ∈ issued) :
    k.IssuedAs issued (k.issue call).1 call.claim :=
  ⟨call, h, strip_issue k hplain call, rfl⟩

theorem IssuedAs.isAscii (h : k.IssuedAs issued token claim) :
    isAscii (Text.strip k.tables token) = true := by
  have hpayload : MatchAgent.isAscii claim.payload = true := isAscii_urlSafe _
  have hsignature : MatchAgent.isAscii (k.signature claim.payload) = true := isAscii_urlSafe _
  have hdot : MatchAgent.isAscii "." = true := by decide
  rw [eq_of_splitDot h.splitDot, isAscii_append, isAscii_append, hdot, hpayload, hsignature]
  rfl

/-- A token stands for one claim. -/
theorem IssuedAs.unique (h : k.IssuedAs issued token claim) (h' : k.IssuedAs issued token claim') :
    claim = claim' := by
  have hsplit := h.splitDot.symm.trans h'.splitDot
  have hpayload : claim.payload = claim'.payload := (Prod.mk.inj (Option.some.inj hsplit)).1
  have hload := k.load_payload claim
  rw [hpayload, load_payload] at hload
  cases claim
  cases claim'
  simp only [Option.some_inj, JsonData.obj.injEq, ContinuationClaim.body, List.map_cons,
    List.map_nil, List.cons.injEq, Prod.mk.injEq, Scalar.data, JsonData.str.injEq,
    JsonData.int.injEq, true_and, and_true] at hload
  obtain ⟨rfl, rfl, rfl, rfl, rfl⟩ := hload
  rfl

/-- **What is verified of a token that was issued.** -/
theorem verify_of_issuedAs (h : k.IssuedAs issued token claim) :
    k.verify token conversationRef now =
      if claim.sessionId = "" ∨ claim.conversationRef = "" then .error (.invalid .malformed)
      else if !isAscii claim.conversationRef || !isAscii conversationRef then
        .error (.other "TypeError")
      else if claim.conversationRef ≠ conversationRef then .error (.invalid .wrongConversation)
      else if claim.expiresAt ≤ now then .error (.invalid .expired)
      else .ok claim := by
  have hpayload : isAscii claim.payload = true := isAscii_urlSafe _
  have hsignature : isAscii (k.signature claim.payload) = true := isAscii_urlSafe _
  rw [verify, h.splitDot]
  simp only [hpayload, hsignature, Bool.not_true, Bool.false_eq_true, if_false, ne_eq,
    not_true_eq_false, load_payload, check_body]

/-- A token that is there is verified, and what is invalid proves nothing. -/
theorem tryVerify_of_ne {token : Option String} (hempty : token.getD "" ≠ "") :
    k.tryVerify token conversationRef now =
      match k.verify (token.getD "") conversationRef now with
      | .ok claim => .ok (some claim)
      | .error (.invalid _) => .ok none
      | .error (.other exception) => .error exception :=
  if_neg hempty

theorem IssuedAs.ne_empty (h : k.IssuedAs issued token claim) : token ≠ "" := by
  rintro rfl
  cases h.splitDot

/-- What a token of ours proves. -/
theorem proves_iff (h : k.IssuedAs issued token claim) :
    k.Proves issued token conversationRef now claim' ↔
      claim' = claim ∧ claim.sessionId ≠ "" ∧ claim.conversationRef ≠ "" ∧
        claim.conversationRef = conversationRef ∧ now < claim.expiresAt := by
  constructor
  · intro hproves
    have heq := hproves.issuedAs.unique h
    subst heq
    exact ⟨rfl, hproves.session, hproves.named, hproves.conversation, hproves.live⟩
  · rintro ⟨rfl, hsession, hnamed, hconversation, hlive⟩
    exact ⟨h, hsession, hnamed, hconversation, hlive⟩

/-- **A token of ours** is verified as it should be, exactly if its reference can be compared. -/
theorem sound_of_issuedAs {token : Option String} (h : k.IssuedAs issued (token.getD "") claim) :
    ((∃ answer, k.tryVerify token conversationRef now = .ok answer) ∧
        ∀ claim, k.tryVerify token conversationRef now = .ok (some claim) ↔
          k.Proves issued (token.getD "") conversationRef now claim) ↔
      (claim.sessionId ≠ "" → claim.conversationRef ≠ "" →
        isAscii claim.conversationRef = true ∧ isAscii conversationRef = true) := by
  have htry := @tryVerify_of_ne k conversationRef now token h.ne_empty
  rw [verify_of_issuedAs h] at htry
  simp only [proves_iff h]
  by_cases hnameless : claim.sessionId = "" ∨ claim.conversationRef = ""
  · rw [if_pos hnameless] at htry
    rw [htry]
    refine ⟨fun _ hsession hnamed => absurd hnameless (not_or.mpr ⟨hsession, hnamed⟩),
      fun _ => ⟨⟨_, rfl⟩, fun claim' => ⟨nofun, fun hproves => ?_⟩⟩⟩
    exact absurd hnameless (not_or.mpr ⟨hproves.2.1, hproves.2.2.1⟩)
  rw [if_neg hnameless] at htry
  obtain ⟨hsession, hnamed⟩ := not_or.mp hnameless
  by_cases hascii : isAscii claim.conversationRef = true ∧ isAscii conversationRef = true
  case neg =>
    have hbeyond : (!isAscii claim.conversationRef || !isAscii conversationRef) = true := by
      rw [← Bool.not_and, Bool.not_eq_true', ← Bool.not_eq_true, Bool.and_eq_true]
      exact hascii
    rw [if_pos hbeyond] at htry
    rw [htry]
    exact ⟨fun hsound => (nomatch hsound.1.choose_spec), fun h => absurd (h hsession hnamed) hascii⟩
  have hwithin : (!isAscii claim.conversationRef || !isAscii conversationRef) = false := by
    rw [hascii.1, hascii.2]
    rfl
  rw [hwithin, if_neg Bool.false_ne_true] at htry
  refine ⟨fun _ _ _ => hascii, fun _ => ?_⟩
  by_cases hconversation : claim.conversationRef = conversationRef
  case neg =>
    rw [if_pos hconversation] at htry
    rw [htry]
    exact ⟨⟨_, rfl⟩, fun claim' => ⟨nofun, fun hproves => absurd hproves.2.2.2.1 hconversation⟩⟩
  rw [if_neg (not_not.mpr hconversation)] at htry
  by_cases hlive : claim.expiresAt ≤ now
  · rw [if_pos hlive] at htry
    rw [htry]
    exact ⟨⟨_, rfl⟩, fun claim' =>
      ⟨nofun, fun hproves => absurd hproves.2.2.2.2 (Int.not_lt.mpr hlive)⟩⟩
  · rw [if_neg hlive] at htry
    rw [htry]
    refine ⟨⟨_, rfl⟩, fun claim' => ?_⟩
    constructor
    · intro hsome
      cases hsome
      exact ⟨rfl, hsession, hnamed, hconversation, Int.not_le.mp hlive⟩
    · rintro ⟨rfl, -⟩
      rfl

/-- **What is not ours proves nothing**, and does not raise exactly if it can be compared. -/
theorem sound_of_not_issued {token : Option String}
    (hunforged : k.Unforged issued (token.getD ""))
    (hnot : ∀ claim, ¬ k.IssuedAs issued (token.getD "") claim) :
    ((∃ answer, k.tryVerify token conversationRef now = .ok answer) ∧
        ∀ claim, k.tryVerify token conversationRef now = .ok (some claim) ↔
          k.Proves issued (token.getD "") conversationRef now claim) ↔
      splitDot (Text.strip k.tables (token.getD "")) = none ∨
        isAscii (Text.strip k.tables (token.getD "")) = true := by
  have hproves (claim : ContinuationClaim) :
      ¬ k.Proves issued (token.getD "") conversationRef now claim :=
    fun h => hnot claim h.issuedAs
  have hnone (h : k.tryVerify token conversationRef now = .ok none) :
      (∃ answer, k.tryVerify token conversationRef now = .ok answer) ∧
        ∀ claim, k.tryVerify token conversationRef now = .ok (some claim) ↔
          k.Proves issued (token.getD "") conversationRef now claim := by
    rw [h]
    exact ⟨⟨_, rfl⟩, fun claim => ⟨nofun, fun hclaim => absurd hclaim (hproves claim)⟩⟩
  cases hsplit : splitDot (Text.strip k.tables (token.getD "")) with
  | none =>
    refine ⟨fun _ => .inl rfl, fun _ => hnone ?_⟩
    rw [tryVerify, verify, hsplit]
    simp
  | some parts =>
    obtain ⟨payload, signature⟩ := parts
    have hempty : token.getD "" ≠ "" := by
      intro heq
      rw [heq] at hsplit
      cases hsplit
    have hascii : isAscii (Text.strip k.tables (token.getD "")) =
        (isAscii payload && isAscii signature) := by
      have hdot : isAscii "." = true := by decide
      rw [eq_of_splitDot hsplit, isAscii_append, isAscii_append, hdot, Bool.and_true]
    have htry := @tryVerify_of_ne k conversationRef now token hempty
    rw [verify, hsplit] at htry
    rw [hascii]
    simp only [reduceCtorEq, false_or]
    -- the payload has to be signed, then the signature compared
    by_cases hpayload : isAscii payload = true
    case neg =>
      simp only [hpayload, Bool.not_false, if_true] at htry
      rw [htry]
      simp [hpayload]
    by_cases hsignature : isAscii signature = true
    case neg =>
      simp only [hpayload, hsignature, Bool.not_true, Bool.not_false, Bool.false_eq_true, if_false,
        if_true] at htry
      rw [htry]
      simp [hsignature]
    have hunsigned : k.signature payload ≠ signature := by
      intro hsigned
      obtain ⟨call, hcall, rfl⟩ := hunforged payload signature hsplit hpayload hsigned
      refine hnot call.claim ⟨call, hcall, ?_, rfl⟩
      rw [eq_of_splitDot hsplit, ← hsigned]
      rfl
    simp only [hpayload, hsignature, Bool.not_true, Bool.false_eq_true, if_false, ne_eq,
      hunsigned, not_false_eq_true, if_true] at htry
    rw [hpayload, hsignature]
    exact ⟨fun _ => rfl, fun _ => hnone htry⟩

/-- **Tokens are total and sound, exactly if what is compared is ASCII.** Verifying does not raise,
and answers a claim if and only if the token proves it. -/
theorem tryVerify_sound_iff {token : Option String}
    (hunforged : k.Unforged issued (token.getD "")) :
    ((∃ answer, k.tryVerify token conversationRef now = .ok answer) ∧
        ∀ claim, k.tryVerify token conversationRef now = .ok (some claim) ↔
          k.Proves issued (token.getD "") conversationRef now claim) ↔
      k.Comparable issued (token.getD "") conversationRef := by
  by_cases hours : ∃ claim, k.IssuedAs issued (token.getD "") claim
  · obtain ⟨claim, hours⟩ := hours
    rw [sound_of_issuedAs hours, Comparable]
    constructor
    · intro h
      refine .inr ⟨hours.isAscii, fun claim' hclaim => ?_⟩
      have heq := hclaim.unique hours
      subst heq
      exact h
    · rintro (hnone | ⟨-, hall⟩)
      · rw [hours.splitDot] at hnone
        cases hnone
      · exact hall claim hours
  · have hnot := not_exists.mp hours
    rw [sound_of_not_issued hunforged hnot, Comparable]
    have hvacuous : ∀ claim, k.IssuedAs issued (token.getD "") claim → claim.sessionId ≠ "" →
        claim.conversationRef ≠ "" → isAscii claim.conversationRef = true ∧
          isAscii conversationRef = true := fun claim h => absurd h (hnot claim)
    exact or_congr_right ⟨fun h => ⟨h, hvacuous⟩, And.left⟩

/-- A token that was issued is not forged. -/
theorem IssuedAs.unforged (h : k.IssuedAs issued token claim) : k.Unforged issued token := by
  intro payload signature hsplit _ _
  rw [h.splitDot] at hsplit
  obtain ⟨call, hcall, -, heq⟩ := h
  have hpayload : claim.payload = payload := (Prod.mk.inj (Option.some.inj hsplit)).1
  exact ⟨call, hcall, by rw [← hpayload, heq]; rfl⟩

/-- **The handoff's view of tokens**: with the signatures and checks of this codec, it is told of a
token whether it is verified as a claim. -/
theorem tryVerify_iff_continuation (c : ContinuationCodec) (token : Option String) :
    ContinuationCodec.tryVerify k.tables
        { c with sign := k.signature, proves := fun payload ref =>
            (k.load payload).any fun data => (k.check data ref now).toOption.isSome }
        token conversationRef = .ok true ↔
      ∃ claim, k.tryVerify token conversationRef now = .ok (some claim) := by
  have hpresent : present token = !decide (token.getD "" = "") := by
    cases token <;> simp [present]
  unfold tryVerify verify ContinuationCodec.tryVerify
  rw [hpresent]
  by_cases hempty : token.getD "" = ""
  · simp [hempty]
  cases splitDot (Text.strip k.tables (token.getD "")) with
  | none => simp [hempty]
  | some parts =>
    by_cases hread : isAscii parts.1 = true ∧ isAscii parts.2 = true ∧
      k.signature parts.1 = parts.2
    case neg =>
      simp only [hempty, decide_false, Bool.not_false, Bool.not_true, Bool.false_eq_true, if_false]
      split_ifs <;> simp_all
    simp only [hempty, hread, decide_false, Bool.not_false, Bool.not_true, Bool.false_eq_true,
      if_false, ne_eq, not_true_eq_false, Except.ok.injEq]
    cases k.load parts.1 with
    | none => simp
    | some data =>
      cases hcheck : k.check data conversationRef now with
      | ok claim => simp [hcheck, Except.toOption]
      | error error => cases error <;> simp [hcheck, Except.toOption]

/-! ## A token and its texts -/

/-- A codec on ASCII. It signs one payload as HMAC-SHA256 does under the key `k`. -/
def oneSignature : SignedCodec where
  tables := Text.ascii
  mac payload :=
    if payload = "eyJjIjoiY3ZfMSIsImUiOjIxNjAwLCJpIjowLCJyIjoib25ib2FyZGluZyIsInMi" ++
      "OiJzXzEiLCJ2IjoiYzEifQ"
    then [236, 121, 148, 145, 208, 103, 53, 182, 108, 83, 106, 71, 204, 239, 103, 229, 188, 40, 42,
      175, 136, 207, 189, 218, 16, 31, 240, 61, 41, 16, 156, 146]
    else []
  decode bytes := some (bytes.map fun b => Char.ofNat b.toNat)
  decode_ascii cs hcs := by
    rw [asciiBytes, List.map_map]
    refine congrArg some ((List.map_congr_left fun c hc => ?_).trans (List.map_id _))
    have hsmall : c.toNat < 256 := Nat.lt_trans (hcs c hc).2 (by decide)
    have hbyte : (UInt8.ofNat c.toNat).toNat = c.toNat := by
      rw [UInt8.toNat_ofNat']
      exact Nat.mod_eq_of_lt hsmall
    rw [Function.comp, hbyte, Char.ofNat_toNat]
    rfl
  str
    | .str s => s
    | _ => ""
  str_text _ := rfl
  int
    | .int n => .ok n
    | _ => .error "TypeError"
  int_whole _ := rfl

/-- A match that is paused for onboarding. -/
def pausedCall : IssueCall where
  conversationRef := "cv_1"
  reason := "onboarding"
  sessionId := some "s_1"
  now := 0
  uuid := "u"

/-- The token that is handed over for it. -/
def pausedToken : String := (oneSignature.issue pausedCall).1

theorem pausedToken_issuedAs :
    oneSignature.IssuedAs [pausedCall] pausedToken pausedCall.claim :=
  issuedAs_of_mem Text.plain_ascii (List.mem_singleton.mpr rfl)

/-- While it is fresh it proves the claim. -/
theorem paused_proved :
    (∃ answer, oneSignature.tryVerify (some pausedToken) "cv_1" 3600 = .ok answer) ∧
      ∀ claim, oneSignature.tryVerify (some pausedToken) "cv_1" 3600 = .ok (some claim) ↔
        oneSignature.Proves [pausedCall] pausedToken "cv_1" 3600 claim := by
  refine (@tryVerify_sound_iff oneSignature [pausedCall] "cv_1" 3600 (some pausedToken)
    pausedToken_issuedAs.unforged).mpr
      (.inr ⟨pausedToken_issuedAs.isAscii, fun claim h _ _ => ?_⟩)
  have heq := h.unique pausedToken_issuedAs
  subst heq
  exact ⟨by decide, by decide⟩

/-- **A letter beyond ASCII raises**, in a token that nobody issued and in the reference that a
token of ours is held against. -/
theorem letter_raises :
    (oneSignature.Unforged [] "é.x" ∧
      oneSignature.tryVerify (some "é.x") "cv_1" 3600 = .error "UnicodeEncodeError") ∧
    (oneSignature.Unforged [pausedCall] pausedToken ∧
      oneSignature.tryVerify (some pausedToken) "é" 3600 = .error "TypeError") := by
  refine ⟨⟨?_, ?_⟩, pausedToken_issuedAs.unforged, ?_⟩
  · intro payload signature hsplit hpayload
    have hparts : splitDot (Text.strip Text.ascii "é.x") = some ("é", "x") := by decide
    rw [oneSignature, hparts] at hsplit
    cases hsplit
    revert hpayload
    decide
  · decide
  · have htry := @tryVerify_of_ne oneSignature "é" 3600 (some pausedToken)
      pausedToken_issuedAs.ne_empty
    rw [htry, Option.getD_some, verify_of_issuedAs pausedToken_issuedAs]
    rfl

end SignedCodec

end NxTutors.MatchAgent
