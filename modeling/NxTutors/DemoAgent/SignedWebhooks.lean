import NxTutors.DemoAgent.Signatures

/-!
# What the first step of a webhook passes

What is compared is compared in the same way three times, so that much is said once
(`compareTo_tag_iff` and `settles_tag_iff`). Before it there are only reasons, but for the
timestamp. What is passed was signed: the body alone, the body behind its timestamp, or the four
lines of a call between agents.
-/

namespace NxTutors.DemoAgent.Signatures

open Numbers
open Text (utf8 strip)
open MatchAgent.Signing (hexdigest ascii Stamped)

variable {p : Platform}

/-! ## Passing, or telling a reason -/

/-- It passes, or a reason is told. -/
def Settles (x : Except Raised Unit) : Prop :=
  x = .ok () ∨ ∃ reason, x = .error (.signatureError reason)

theorem settles_error (reason : SignatureFailure) : Settles (.error (.signatureError reason)) :=
  .inr ⟨reason, rfl⟩

theorem not_settles {e : Raised} (h : ∀ reason, e ≠ .signatureError reason) :
    ¬Settles (.error e) := by
  rintro (hok | ⟨reason, herror⟩)
  · cases hok
  · exact h reason (Except.error.inj herror)

/-- A tag, if there is something to sign with. -/
def tagged (p : Platform) (secret tag : String) : Except Raised String :=
  if Blank p secret then .error (.signatureError .emptySecret) else .ok tag

theorem metaSignature_eq (secret : String) (body : List UInt8) : metaSignature p secret body =
    tagged p secret (META_SIGNATURE_PREFIX ++ hexdigest (p.hmac secret body)) := by
  unfold metaSignature requireSecret tagged
  split <;> rfl

theorem cashfreeSignature_eq (secret timestamp : String) (body : List UInt8) :
    cashfreeSignature p secret timestamp body = tagged p secret
      (String.ofList (Text.b64encode (p.hmac secret (utf8 timestamp ++ body)))) := by
  unfold cashfreeSignature requireSecret tagged
  split <;> rfl

theorem signInternal_eq (secret : String) (request : SignedRequest) :
    signInternal p secret request = tagged p secret (INTERNAL_SIGNATURE_PREFIX ++
      hexdigest (p.hmac secret (utf8 (internalCanonicalString p request.method request.path
        request.timestamp request.body)))) := by
  unfold signInternal requireSecret tagged
  split <;> rfl

/-- **Of what is compared to a tag**, only the tag passes. -/
theorem compareTo_tag_iff {secret tag s : String} (htag : ascii tag = true) :
    compareTo (tagged p secret tag) s = .ok () ↔ tagged p secret tag = .ok s := by
  unfold tagged
  split
  · constructor
    · intro h
      cases h
    · intro h
      cases h
  · show (compareDigest tag s).bind _ = _ ↔ _
    rw [Except.ok.injEq, compareDigest]
    by_cases hascii : ascii s = true
    · rw [if_pos ⟨htag, hascii⟩]
      by_cases hsame : tag = s
      · simp [Except.bind, hsame]
      · simp [Except.bind, hsame]
    · rw [if_neg fun h => hascii h.2]
      refine iff_of_false (fun h => by cases h) ?_
      rintro rfl
      exact hascii htag

/-- It passes or is told to be wrong, unless there is a secret and it is not ASCII. -/
theorem settles_tag_iff {secret tag s : String} (htag : ascii tag = true) :
    Settles (compareTo (tagged p secret tag) s) ↔ (¬Blank p secret → ascii s = true) := by
  unfold tagged
  split
  · rename_i hblank
    exact iff_of_true (settles_error _) fun h => absurd hblank h
  · rename_i hblank
    rw [forall_prop_of_true hblank]
    show Settles ((compareDigest tag s).bind _) ↔ _
    rw [compareDigest]
    by_cases hascii : ascii s = true
    · rw [if_pos ⟨htag, hascii⟩]
      refine iff_of_true ?_ hascii
      by_cases hsame : tag = s
      · exact .inl (by simp [Except.bind, hsame])
      · exact .inr ⟨.signatureMismatch, by simp [Except.bind, hsame]⟩
    · rw [if_neg fun h => hascii h.2]
      refine iff_of_false (not_settles fun reason h => ?_) hascii
      cases h

/-- Digits behind a prefix are ASCII, and so is base 64. -/
theorem ascii_hex {start : String} (h : ascii start = true) (bytes : List UInt8) :
    ascii (start ++ hexdigest bytes) = true := by
  rw [ascii, String.toList_append, List.all_append, Bool.and_eq_true]
  exact ⟨h, List.all_eq_true.mpr fun c hc => decide_eq_true (MatchAgent.Signing.mem_hexdigest hc).2⟩

set_option maxRecDepth 4000 in
/-- The characters of the table are ASCII. -/
theorem ascii_table : ∀ i < 64, (Text.BASE64.getD i 'A').toNat < 128 := by decide

theorem ascii_base64 (bytes : List UInt8) : ascii (String.ofList (Text.b64encode bytes)) = true := by
  rw [ascii, String.toList_ofList, List.all_eq_true]
  intro c hc
  rcases Text.mem_b64encode hc with rfl | ⟨n, rfl⟩
  · decide
  · exact decide_eq_true (ascii_table _ (Nat.mod_lt _ (by decide)))

/-! ## Each way of signing -/

section Ways

variable {secret : String} {body : List UInt8} {provided : Option String}
  {maxBodyBytes toleranceSeconds : Int} {now : ℚ}

theorem checkSize_of_le (h : (body.length : Int) ≤ maxBodyBytes) :
    checkSize body maxBodyBytes = .ok () := if_neg (not_lt.mpr h)

theorem checkSize_of_lt (h : maxBodyBytes < (body.length : Int)) :
    checkSize body maxBodyBytes = .error (.signatureError .bodyTooLarge) := if_pos h

/-- Something begins with `start`. -/
def Begins (start s : String) : Prop := start.toList.isPrefixOf s.toList = true

theorem ne_empty_of_begins {start s : String} (hstart : start ≠ "") (h : Begins start s) :
    s ≠ "" := by
  rintro rfl
  have hnil := List.prefix_nil.mp (List.isPrefixOf_iff_prefix.mp h)
  exact hstart (String.toList_eq_nil_iff.mp hnil)

/-- What is asked before a tag of Meta is compared. -/
theorem verifyMeta_of_compared {s : String} (hbody : (body.length : Int) ≤ maxBodyBytes)
    (hbegins : Begins META_SIGNATURE_PREFIX s) :
    verifyMeta p secret body (some s) maxBodyBytes = compareTo (metaSignature p secret body) s := by
  have hempty := ne_empty_of_begins (by decide) hbegins
  have hprefix : (!META_SIGNATURE_PREFIX.toList.isPrefixOf s.toList) = false := by
    rw [Bool.not_eq_false']
    exact hbegins
  unfold verifyMeta
  rw [checkSize_of_le hbody]
  show (if s = "" then _ else _) = _
  rw [if_neg hempty, hprefix]
  rfl

theorem verifyMeta_of_not_compared (h : ∀ s ∈ provided,
    ¬((body.length : Int) ≤ maxBodyBytes ∧ Begins META_SIGNATURE_PREFIX s)) :
    ∃ reason, verifyMeta p secret body provided maxBodyBytes = .error (.signatureError reason) := by
  unfold verifyMeta
  by_cases hbody : (body.length : Int) ≤ maxBodyBytes
  · rw [checkSize_of_le hbody]
    cases provided with
    | none => exact ⟨_, rfl⟩
    | some s =>
      show ∃ reason, (if s = "" then _ else _) = _
      split
      · exact ⟨_, rfl⟩
      · split
        · exact ⟨_, rfl⟩
        · rename_i hprefix
          rw [Bool.not_eq_true', Bool.not_eq_false] at hprefix
          exact absurd ⟨hbody, hprefix⟩ (h s rfl)
  · rw [checkSize_of_lt (not_le.mp hbody)]
    exact ⟨_, rfl⟩

/-- What is asked before a tag of Cashfree is compared: a timestamp that can be read and is not too
far from now. -/
structure Timely (p : Platform) (timestamp : Option String) (toleranceSeconds : Int) (now : ℚ)
    (text : String) (sentAt : Double) : Prop where
  header : timestamp = some text
  read : float p.toNumerals text = some sentAt
  near : tooFar now toleranceSeconds (inSeconds sentAt) = false

theorem verifyCashfree_of_compared {s text : String} {timestamp : Option String} {sentAt : Double}
    (hbody : (body.length : Int) ≤ maxBodyBytes) (hs : s ≠ "")
    (h : Timely p timestamp toleranceSeconds now text sentAt) :
    verifyCashfree p secret body timestamp (some s) maxBodyBytes toleranceSeconds now =
      compareTo (cashfreeSignature p secret text body) s := by
  unfold verifyCashfree
  rw [checkSize_of_le hbody, h.header]
  show (if s = "" then _ else _) = _
  rw [if_neg hs]
  simp only [h.read, h.near]
  rfl

theorem verifyCashfree_of_not_compared {timestamp : Option String} (h : ∀ s ∈ provided,
    ¬((body.length : Int) ≤ maxBodyBytes ∧ s ≠ "" ∧
      ∃ text sentAt, Timely p timestamp toleranceSeconds now text sentAt)) :
    ∃ reason, verifyCashfree p secret body timestamp provided maxBodyBytes toleranceSeconds now =
      .error (.signatureError reason) := by
  unfold verifyCashfree
  by_cases hbody : (body.length : Int) ≤ maxBodyBytes
  · rw [checkSize_of_le hbody]
    cases provided with
    | none => exact ⟨_, rfl⟩
    | some s =>
      show ∃ reason, (if s = "" then _ else _) = _
      split
      · exact ⟨_, rfl⟩
      · rename_i hs
        cases timestamp with
        | none => exact ⟨_, rfl⟩
        | some text =>
          dsimp only
          cases hread : float p.toNumerals text with
          | none => exact ⟨_, rfl⟩
          | some sentAt =>
            dsimp only
            split
            · exact ⟨_, rfl⟩
            · rename_i hnear
              exact absurd ⟨hbody, hs, text, sentAt, rfl, hread, Bool.eq_false_iff.mpr hnear⟩
                (h s rfl)
  · rw [checkSize_of_lt (not_le.mp hbody)]
    exact ⟨_, rfl⟩

/-- What is asked before a tag between agents is compared. -/
structure Compared (s : String) (timestamp : Int) (body : List UInt8)
    (toleranceSeconds maxBodyBytes : Int) (now : ℚ) : Prop where
  body : (body.length : Int) ≤ maxBodyBytes
  begins : Begins INTERNAL_SIGNATURE_PREFIX s
  near : tooFar now toleranceSeconds (.finite timestamp) = false

variable {request : SignedRequest}

theorem verifyInternal_of_compared {s : String}
    (h : Compared s request.timestamp request.body toleranceSeconds maxBodyBytes now) :
    verifyInternal p secret request (some s) toleranceSeconds maxBodyBytes now =
      compareTo (signInternal p secret request) s := by
  have hempty := ne_empty_of_begins (by decide) h.begins
  have hprefix : (!INTERNAL_SIGNATURE_PREFIX.toList.isPrefixOf s.toList) = false := by
    rw [Bool.not_eq_false']
    exact h.begins
  unfold verifyInternal
  rw [checkSize_of_le h.body]
  show (if s = "" then _ else _) = _
  rw [if_neg hempty, hprefix, h.near]
  rfl

theorem verifyInternal_of_not_compared (h : ∀ s ∈ provided,
    ¬Compared s request.timestamp request.body toleranceSeconds maxBodyBytes now) :
    ∃ reason, verifyInternal p secret request provided toleranceSeconds maxBodyBytes now =
      .error (.signatureError reason) := by
  unfold verifyInternal
  by_cases hbody : (request.body.length : Int) ≤ maxBodyBytes
  · rw [checkSize_of_le hbody]
    cases provided with
    | none => exact ⟨_, rfl⟩
    | some s =>
      show ∃ reason, (if s = "" then _ else _) = _
      split
      · exact ⟨_, rfl⟩
      · split
        · exact ⟨_, rfl⟩
        · rename_i hprefix
          rw [Bool.not_eq_true', Bool.not_eq_false] at hprefix
          split
          · exact ⟨_, rfl⟩
          · rename_i hnear
            exact absurd ⟨hbody, hprefix, Bool.eq_false_iff.mpr hnear⟩ (h s rfl)
  · rw [checkSize_of_lt (not_le.mp hbody)]
    exact ⟨_, rfl⟩

end Ways

/-! ## What is bound -/

section Binding

variable {secret s : String}

theorem tagged_eq_ok {tag : String} (h : tagged p secret tag = .ok s) :
    ¬Blank p secret ∧ tag = s := by
  unfold tagged at h
  split at h
  · cases h
  · rename_i hblank
    exact ⟨hblank, Except.ok.inj h⟩

/-- The tag of Meta is of one body. -/
theorem metaSignature_inj (hmac : ∀ key, Function.Injective (p.hmac key)) {body body' : List UInt8}
    (h : metaSignature p secret body = .ok s) (h' : metaSignature p secret body' = .ok s) :
    body' = body := by
  rw [metaSignature_eq] at h h'
  have hsame := (tagged_eq_ok h').2.trans (tagged_eq_ok h).2.symm
  exact hmac _ (MatchAgent.Signing.hexdigest_injective ((String.append_right_inj _).mp hsame))

/-- The tag of Cashfree is of one text, the timestamp before the body. -/
theorem cashfreeSignature_inj (hmac : ∀ key, Function.Injective (p.hmac key))
    {text text' : String} {body body' : List UInt8}
    (h : cashfreeSignature p secret text body = .ok s)
    (h' : cashfreeSignature p secret text' body' = .ok s) :
    utf8 text' ++ body' = utf8 text ++ body := by
  rw [cashfreeSignature_eq] at h h'
  have hsame := String.ofList_inj.mp ((tagged_eq_ok h').2.trans (tagged_eq_ok h).2.symm)
  have hbytes := congrArg (Text.a2b 0 0 0) hsame
  rw [Text.a2b_b64encode, Text.a2b_b64encode, Option.some.injEq] at hbytes
  exact hmac _ hbytes

/-- A body that is an object begins here. -/
def Opens (body : List UInt8) : Prop := body.head? = some 123

/-- **Where a body begins with a brace**, the timestamp ends before it. -/
theorem cashfree_bound (hmac : ∀ key, Function.Injective (p.hmac key))
    {text text' : String} {body body' : List UInt8} (hbody : Opens body) (hbody' : Opens body')
    (htext : '{' ∉ text.toList) (htext' : '{' ∉ text'.toList)
    (h : cashfreeSignature p secret text body = .ok s)
    (h' : cashfreeSignature p secret text' body' = .ok s) : text' = text ∧ body' = body := by
  obtain ⟨rest, rfl⟩ : ∃ rest, body = 123 :: rest := by
    cases body with
    | nil => cases hbody
    | cons b rest => exact ⟨rest, by rw [Option.some.inj hbody]⟩
  obtain ⟨rest', rfl⟩ : ∃ rest', body' = 123 :: rest' := by
    cases body' with
    | nil => cases hbody'
    | cons b rest' => exact ⟨rest', by rw [Option.some.inj hbody']⟩
  have hbrace : Char.ofNat (123 : UInt8).toNat = '{' := by decide
  obtain ⟨htexts, hrests⟩ := Text.utf8_append_inj (by decide) (by rwa [hbrace]) (by rwa [hbrace])
    (cashfreeSignature_inj hmac h h')
  exact ⟨htexts, by rw [hrests]⟩

/-- **Two requests between agents** have one tag only if they are the same, up to the case of the
method. The method is on one line. -/
theorem internal_bound (hsha : Function.Injective p.sha256)
    (hmac : ∀ key, Function.Injective (p.hmac key)) {request other : SignedRequest}
    (hmethod : '\n' ∉ request.method.toList) (hother : '\n' ∉ other.method.toList)
    (h : signInternal p secret request = .ok s) (h' : signInternal p secret other = .ok s) :
    p.signing.upperCase other.method = p.signing.upperCase request.method ∧
      other.path = request.path ∧ other.timestamp = request.timestamp ∧
      other.body = request.body := by
  rw [signInternal_eq] at h h'
  have hsame := (tagged_eq_ok h').2.trans (tagged_eq_ok h).2.symm
  have hpayload := Text.utf8_injective (hmac _ (MatchAgent.Signing.hexdigest_injective
    ((String.append_right_inj _).mp hsame)))
  obtain ⟨hlines, htimestamps, hhashes⟩ :=
    @MatchAgent.Signing.canonicalString_lines p.signing _ _ _ _ _ _ _ _ hpayload
  obtain ⟨hmethods, hpaths⟩ := Text.append_cons_inj
    (MatchAgent.Signing.newline_notMem_upperCase hother)
    (MatchAgent.Signing.newline_notMem_upperCase hmethod) hlines
  exact ⟨String.toList_inj.mp hmethods, String.toList_inj.mp hpaths, htimestamps, hsha hhashes⟩

end Binding

/-! ## The three webhooks -/

section Webhooks

variable (p) (settings : Settings) (headers : List (String × String)) (body : List UInt8) (now : ℚ)

/-- A time is near another: their difference, in double precision, is within the tolerance. -/
def Near (now : ℚ) (toleranceSeconds : Int) (t : ℚ) : Prop :=
  ∃ d, Double.round (now - t) = .finite d ∧ |d| ≤ toleranceSeconds

theorem tooFar_finite_iff {now t : ℚ} {toleranceSeconds : Int} :
    tooFar now toleranceSeconds (.finite t) = false ↔ Near now toleranceSeconds t := by
  unfold tooFar Near
  dsimp only
  cases hround : Double.round (now - t) with
  | finite d => simp
  | infinite negative => simp
  | nan =>
    unfold Double.round at hround
    split at hround <;> cases hround

/-- **What is asked of `meta_webhook`**: its first step passes or tells a reason, and passes the one
body that the tag is of. -/
structure MetaVerified : Prop where
  settles : Settles (metaStep p settings headers body)
  binds : metaStep p settings headers body = .ok () → ∃ s,
    header p headers META_SIGNATURE_HEADER = some s ∧
    metaSignature p settings.metaAppSecret body = .ok s ∧
    ∀ body', metaSignature p settings.metaAppSecret body' = .ok s → body' = body

/-- **And of `cashfree_webhook`**: with a timestamp that is a number, and near. -/
structure CashfreeVerified : Prop where
  settles : Settles (cashfreeStep p settings headers body now)
  binds : cashfreeStep p settings headers body now = .ok () → ∃ s text t,
    header p headers CASHFREE_SIGNATURE_HEADER = some s ∧
    header p headers CASHFREE_TIMESTAMP_HEADER = some text ∧
    (float p.toNumerals text).map inSeconds = some (.finite t) ∧
    Near now settings.cashfreeWebhookToleranceSeconds t ∧
    cashfreeSignature p settings.cashfreeSecretKey text body = .ok s ∧
    (∀ body', cashfreeSignature p settings.cashfreeSecretKey text body' = .ok s → body' = body) ∧
    (Opens body → ∀ text' body', '{' ∉ text'.toList → Opens body' →
      cashfreeSignature p settings.cashfreeSecretKey text' body' = .ok s →
        text' = text ∧ body' = body)

/-- The timestamp of a header, in whole seconds. -/
def Timestamped (raw : Option String) (timestamp : Int) : Prop :=
  ∃ text, raw = some text ∧ (float p.toNumerals text).bind Double.toInt = some timestamp

/-- **And of `internal_handoff`**: with the method and the path. -/
structure InternalVerified (path : String) : Prop where
  settles : Settles (internalStep p settings headers body now path)
  binds : internalStep p settings headers body now path = .ok () → ∃ s timestamp,
    header p headers INTERNAL_SIGNATURE_HEADER = some s ∧
    Timestamped p (header p headers INTERNAL_TIMESTAMP_HEADER) timestamp ∧
    Near now settings.internalTimestampToleranceSeconds timestamp ∧
    signInternal p settings.internalSigningSecret ⟨"POST", path, timestamp, body⟩ = .ok s ∧
    ∀ request, '\n' ∉ request.method.toList →
      signInternal p settings.internalSigningSecret request = .ok s →
        p.signing.upperCase request.method = p.signing.upperCase "POST" ∧ request.path = path ∧
          request.timestamp = timestamp ∧ request.body = body

/-- **Nothing unusual**: where a tag comes to be compared, and there is a secret, it is ASCII; a
timestamp that is no number has not been signed; and no timestamp between agents is infinite. -/
structure Ordinary : Prop where
  metaTag : ∀ s ∈ header p headers META_SIGNATURE_HEADER,
    (body.length : Int) ≤ settings.maxBodyBytes → Begins META_SIGNATURE_PREFIX s →
      ¬Blank p settings.metaAppSecret → ascii s = true
  cashfreeTag : ∀ s ∈ header p headers CASHFREE_SIGNATURE_HEADER,
    (body.length : Int) ≤ settings.maxBodyBytes → s ≠ "" → ∀ text sentAt,
      Timely p (header p headers CASHFREE_TIMESTAMP_HEADER)
        settings.cashfreeWebhookToleranceSeconds now text sentAt →
      ¬Blank p settings.cashfreeSecretKey → ascii s = true ∧ (sentAt = .nan →
        s ≠ String.ofList (Text.b64encode (p.hmac settings.cashfreeSecretKey (utf8 text ++ body))))
  internalTimestamp : ∀ text ∈ header p headers INTERNAL_TIMESTAMP_HEADER, ∀ negative,
    float p.toNumerals text ≠ some (.infinite negative)
  internalTag : ∀ timestamp, Timestamped p (header p headers INTERNAL_TIMESTAMP_HEADER) timestamp →
    ∀ s ∈ header p headers INTERNAL_SIGNATURE_HEADER,
      Compared s timestamp body settings.internalTimestampToleranceSeconds settings.maxBodyBytes
        now → ¬Blank p settings.internalSigningSecret → ascii s = true

variable {p settings headers body now}

theorem metaVerified_iff (hmac : ∀ key, Function.Injective (p.hmac key)) :
    MetaVerified p settings headers body ↔ ∀ s ∈ header p headers META_SIGNATURE_HEADER,
      (body.length : Int) ≤ settings.maxBodyBytes → Begins META_SIGNATURE_PREFIX s →
        ¬Blank p settings.metaAppSecret → ascii s = true := by
  have hascii := @ascii_hex META_SIGNATURE_PREFIX (by decide)
    (p.hmac settings.metaAppSecret body)
  by_cases hcompared : ∃ s ∈ header p headers META_SIGNATURE_HEADER,
      (body.length : Int) ≤ settings.maxBodyBytes ∧ Begins META_SIGNATURE_PREFIX s
  · obtain ⟨s, hs, hbody, hbegins⟩ := hcompared
    have hheader : header p headers META_SIGNATURE_HEADER = some s := hs
    have hstep : metaStep p settings headers body =
        compareTo (metaSignature p settings.metaAppSecret body) s := by
      rw [metaStep, hheader, verifyMeta_of_compared hbody hbegins]
    constructor
    · intro h s' hs' _ _
      obtain rfl : s = s' := Option.some.inj (hheader.symm.trans hs')
      have hsettles := h.settles
      rwa [hstep, metaSignature_eq, settles_tag_iff hascii] at hsettles
    · intro h
      refine ⟨?_, fun hok => ⟨s, hheader, ?_⟩⟩
      · rw [hstep, metaSignature_eq, settles_tag_iff hascii]
        exact h s hs hbody hbegins
      · rw [hstep, metaSignature_eq, compareTo_tag_iff hascii, ← metaSignature_eq] at hok
        exact ⟨hok, fun body' h' => metaSignature_inj hmac hok h'⟩
  · obtain ⟨reason, hreason⟩ := @verifyMeta_of_not_compared p settings.metaAppSecret body _
      settings.maxBodyBytes fun s hs h => hcompared ⟨s, hs, h⟩
    refine iff_of_true ⟨.inr ⟨reason, hreason⟩, fun hok => ?_⟩ fun s hs hbody hbegins =>
      absurd ⟨s, hs, hbody, hbegins⟩ hcompared
    rw [metaStep, hreason] at hok
    cases hok

/-- A text that is read has no brace. -/
theorem brace_notMem {text : String} {x : Double} (h : float p.toNumerals text = some x) :
    '{' ∉ text.toList := by
  intro hmem
  rw [float, foreign_brace.written p.toNumerals hmem] at h
  cases h

/-- What is near enough is a number, or no number at all. -/
theorem near_of_timely {timestamp : Option String} {toleranceSeconds : Int} {text : String}
    {sentAt : Double} (h : Timely p timestamp toleranceSeconds now text sentAt)
    (hnan : sentAt ≠ .nan) :
    ∃ t, inSeconds sentAt = .finite t ∧ Near now toleranceSeconds t := by
  have hnear := h.near
  cases hseconds : inSeconds sentAt with
  | finite t =>
    rw [hseconds, tooFar_finite_iff] at hnear
    exact ⟨t, rfl, hnear⟩
  | infinite negative =>
    rw [hseconds] at hnear
    cases hnear
  | nan =>
    unfold inSeconds at hseconds
    split at hseconds
    · split at hseconds
      · unfold Double.round at hseconds
        split at hseconds <;> cases hseconds
      · cases hseconds
    · exact absurd hseconds hnan

theorem cashfreeVerified_iff (hmac : ∀ key, Function.Injective (p.hmac key)) :
    CashfreeVerified p settings headers body now ↔
      ∀ s ∈ header p headers CASHFREE_SIGNATURE_HEADER,
        (body.length : Int) ≤ settings.maxBodyBytes → s ≠ "" → ∀ text sentAt,
          Timely p (header p headers CASHFREE_TIMESTAMP_HEADER)
            settings.cashfreeWebhookToleranceSeconds now text sentAt →
          ¬Blank p settings.cashfreeSecretKey → ascii s = true ∧ (sentAt = .nan →
            s ≠ String.ofList
              (Text.b64encode (p.hmac settings.cashfreeSecretKey (utf8 text ++ body)))) := by
  by_cases hcompared : ∃ s ∈ header p headers CASHFREE_SIGNATURE_HEADER,
      (body.length : Int) ≤ settings.maxBodyBytes ∧ s ≠ "" ∧ ∃ text sentAt,
        Timely p (header p headers CASHFREE_TIMESTAMP_HEADER)
          settings.cashfreeWebhookToleranceSeconds now text sentAt
  · obtain ⟨s, hs, hbody, hne, text, sentAt, htimely⟩ := hcompared
    have hheader : header p headers CASHFREE_SIGNATURE_HEADER = some s := hs
    have hascii := ascii_base64 (p.hmac settings.cashfreeSecretKey (utf8 text ++ body))
    have hstep : cashfreeStep p settings headers body now =
        compareTo (cashfreeSignature p settings.cashfreeSecretKey text body) s := by
      rw [cashfreeStep, hheader, verifyCashfree_of_compared hbody hne htimely]
    constructor
    · intro h s' hs' _ _ text' sentAt' htimely' hblank
      obtain rfl : s = s' := Option.some.inj (hheader.symm.trans hs')
      obtain rfl : text = text' := Option.some.inj (htimely.header.symm.trans htimely'.header)
      obtain rfl : sentAt = sentAt' := Option.some.inj (htimely.read.symm.trans htimely'.read)
      have hsettles := h.settles
      rw [hstep, cashfreeSignature_eq, settles_tag_iff hascii] at hsettles
      refine ⟨hsettles hblank, ?_⟩
      rintro rfl htag
      -- it would be passed, with a timestamp that is no number
      have hok : cashfreeStep p settings headers body now = .ok () := by
        rw [hstep, cashfreeSignature_eq, compareTo_tag_iff hascii, htag]
        exact if_neg hblank
      obtain ⟨_, text', t, -, htext', hfinite, -⟩ := h.binds hok
      obtain rfl : text = text' := Option.some.inj (htimely.header.symm.trans htext')
      rw [htimely.read] at hfinite
      cases hfinite
    · intro h
      refine ⟨?_, fun hok => ?_⟩
      · rw [hstep, cashfreeSignature_eq, settles_tag_iff hascii]
        exact fun hblank => (h s hs hbody hne text sentAt htimely hblank).1
      · rw [hstep, cashfreeSignature_eq, compareTo_tag_iff hascii] at hok
        obtain ⟨hblank, htag⟩ := tagged_eq_ok hok
        rw [← cashfreeSignature_eq] at hok
        have hnan : sentAt ≠ .nan := fun hnan =>
          (h s hs hbody hne text sentAt htimely hblank).2 hnan htag.symm
        obtain ⟨t, hseconds, hnear⟩ := near_of_timely htimely hnan
        refine ⟨s, text, t, hheader, htimely.header, ?_, hnear, hok, fun body' h' => ?_,
          fun hopens text' body' htext' hopens' h' => ?_⟩
        · rw [htimely.read, Option.map_some, hseconds]
        · exact List.append_cancel_left (cashfreeSignature_inj hmac hok h')
        · exact cashfree_bound hmac hopens hopens' (brace_notMem htimely.read) htext' hok h'
  · obtain ⟨reason, hreason⟩ := @verifyCashfree_of_not_compared p settings.cashfreeSecretKey body
      _ settings.maxBodyBytes settings.cashfreeWebhookToleranceSeconds now
      (header p headers CASHFREE_TIMESTAMP_HEADER) fun s hs h => hcompared ⟨s, hs, h⟩
    refine iff_of_true ⟨.inr ⟨reason, hreason⟩, fun hok => ?_⟩
      fun s hs hbody hne text sentAt htimely =>
        absurd ⟨s, hs, hbody, hne, text, sentAt, htimely⟩ hcompared
    rw [cashfreeStep, hreason] at hok
    cases hok

theorem parseTimestamp_eq_ok_iff {raw : Option String} {timestamp : Int} :
    parseTimestamp p raw = .ok timestamp ↔ Timestamped p raw timestamp := by
  unfold parseTimestamp Timestamped
  cases raw with
  | none => simp
  | some raw =>
    cases hfloat : float p.toNumerals raw with
    | none => simp [hfloat]
    | some x => cases x <;> simp [hfloat, Double.toInt]

/-- What is raised instead is a reason, unless the number is infinite. -/
theorem parse_settles_iff {raw : Option String} {e : Raised}
    (h : parseTimestamp p raw = .error e) : (∃ reason, e = .signatureError reason) ↔
      ∀ text ∈ raw, ∀ negative, float p.toNumerals text ≠ some (.infinite negative) := by
  unfold parseTimestamp at h
  cases raw with
  | none =>
    obtain rfl := Except.error.inj h
    exact iff_of_true ⟨_, rfl⟩ fun text ht => by cases ht
  | some text =>
    dsimp only at h
    simp only [Option.mem_some_iff, forall_eq']
    split at h
    · rename_i hfloat
      obtain rfl := Except.error.inj h
      exact iff_of_true ⟨_, rfl⟩ fun negative hinfinite => by rw [hfloat] at hinfinite; cases hinfinite
    · rename_i hfloat
      obtain rfl := Except.error.inj h
      exact iff_of_true ⟨_, rfl⟩ fun negative hinfinite => by rw [hfloat] at hinfinite; cases hinfinite
    · rename_i negative hfloat
      obtain rfl := Except.error.inj h
      refine iff_of_false (fun ⟨reason, hreason⟩ => by cases hreason) fun hall => ?_
      exact hall negative hfloat
    · cases h

/-- A timestamp is read from a number that is not infinite. -/
theorem not_infinite {raw : Option String} {timestamp : Int} (h : Timestamped p raw timestamp) :
    ∀ text ∈ raw, ∀ negative, float p.toNumerals text ≠ some (.infinite negative) := by
  obtain ⟨text, rfl, hint⟩ := h
  rintro _ ⟨⟩ negative hfloat
  rw [hfloat] at hint
  cases hint

/-- Without a timestamp the step raises what parsing it raises. -/
theorem internalStep_of_error {path : String} {e : Raised}
    (h : parseTimestamp p (header p headers INTERNAL_TIMESTAMP_HEADER) = .error e) :
    internalStep p settings headers body now path = .error e := by
  rw [internalStep, h]
  rfl

theorem internalStep_of_timestamped {path : String} {timestamp : Int}
    (h : Timestamped p (header p headers INTERNAL_TIMESTAMP_HEADER) timestamp) :
    internalStep p settings headers body now path =
      verifyInternal p settings.internalSigningSecret ⟨"POST", path, timestamp, body⟩
        (header p headers INTERNAL_SIGNATURE_HEADER) settings.internalTimestampToleranceSeconds
        settings.maxBodyBytes now := by
  rw [internalStep, parseTimestamp_eq_ok_iff.mpr h]
  rfl

theorem internalVerified_iff (hsha : Function.Injective p.sha256)
    (hmac : ∀ key, Function.Injective (p.hmac key)) {path : String} :
    InternalVerified p settings headers body now path ↔
      (∀ text ∈ header p headers INTERNAL_TIMESTAMP_HEADER, ∀ negative,
        float p.toNumerals text ≠ some (.infinite negative)) ∧
      ∀ timestamp, Timestamped p (header p headers INTERNAL_TIMESTAMP_HEADER) timestamp →
        ∀ s ∈ header p headers INTERNAL_SIGNATURE_HEADER,
          Compared s timestamp body settings.internalTimestampToleranceSeconds
            settings.maxBodyBytes now → ¬Blank p settings.internalSigningSecret →
              ascii s = true := by
  cases hparse : parseTimestamp p (header p headers INTERNAL_TIMESTAMP_HEADER) with
  | error e =>
    have hstep : internalStep p settings headers body now path = .error e :=
      internalStep_of_error hparse
    have hnone : ∀ timestamp,
        ¬Timestamped p (header p headers INTERNAL_TIMESTAMP_HEADER) timestamp := by
      intro timestamp h
      rw [parseTimestamp_eq_ok_iff.mpr h] at hparse
      cases hparse
    rw [and_iff_left fun timestamp h => absurd h (hnone timestamp), ← parse_settles_iff hparse]
    constructor
    · intro h
      rcases h.settles with hok | ⟨reason, hreason⟩
      · rw [hstep] at hok
        cases hok
      · rw [hstep] at hreason
        exact ⟨reason, Except.error.inj hreason⟩
    · rintro ⟨reason, rfl⟩
      refine ⟨.inr ⟨reason, hstep⟩, fun hok => ?_⟩
      rw [hstep] at hok
      cases hok
  | ok timestamp =>
    have htimestamped := parseTimestamp_eq_ok_iff.mp hparse
    have hstep := @internalStep_of_timestamped p settings headers body now path timestamp
      htimestamped
    have hsame {timestamp' : Int} (h : Timestamped p (header p headers INTERNAL_TIMESTAMP_HEADER)
        timestamp') : timestamp = timestamp' :=
      Except.ok.inj (hparse.symm.trans (parseTimestamp_eq_ok_iff.mpr h))
    rw [and_iff_right (not_infinite htimestamped)]
    have hascii := @ascii_hex INTERNAL_SIGNATURE_PREFIX (by decide)
      (p.hmac settings.internalSigningSecret
        (utf8 (internalCanonicalString p "POST" path timestamp body)))
    by_cases hcompared : ∃ s ∈ header p headers INTERNAL_SIGNATURE_HEADER,
        Compared s timestamp body settings.internalTimestampToleranceSeconds settings.maxBodyBytes
          now
    · obtain ⟨s, hs, hcompared⟩ := hcompared
      have hheader : header p headers INTERNAL_SIGNATURE_HEADER = some s := hs
      rw [hheader, verifyInternal_of_compared hcompared] at hstep
      constructor
      · intro h timestamp' htimestamped' s' hs' _
        obtain rfl := hsame htimestamped'
        obtain rfl : s = s' := Option.some.inj (hheader.symm.trans hs')
        have hsettles := h.settles
        rwa [hstep, signInternal_eq, settles_tag_iff hascii] at hsettles
      · intro h
        refine ⟨?_, fun hok => ⟨s, timestamp, hheader, htimestamped,
          tooFar_finite_iff.mp hcompared.near, ?_⟩⟩
        · rw [hstep, signInternal_eq, settles_tag_iff hascii]
          exact h timestamp htimestamped s hs hcompared
        · rw [hstep, signInternal_eq, compareTo_tag_iff hascii] at hok
          have hsigned := (signInternal_eq settings.internalSigningSecret
            ⟨"POST", path, timestamp, body⟩).trans hok
          have hpost : '\n' ∉ "POST".toList := by decide
          exact ⟨hsigned, fun request hmethod h' => @internal_bound p settings.internalSigningSecret
            s hsha hmac ⟨"POST", path, timestamp, body⟩ request hpost hmethod hsigned h'⟩
    · obtain ⟨reason, hreason⟩ := @verifyInternal_of_not_compared p settings.internalSigningSecret
        (header p headers INTERNAL_SIGNATURE_HEADER) settings.maxBodyBytes
        settings.internalTimestampToleranceSeconds now ⟨"POST", path, timestamp, body⟩
        fun s hs h => hcompared ⟨s, hs, h⟩
      rw [hreason] at hstep
      refine iff_of_true ⟨.inr ⟨reason, hstep⟩, fun hok => ?_⟩
        fun timestamp' htimestamped' s hs h => absurd ⟨s, hs, hsame htimestamped' ▸ h⟩ hcompared
      rw [hstep] at hok
      cases hok

/-- **The first steps of the webhooks** pass or tell a reason, and pass what was signed so, exactly
where nothing is unusual. -/
theorem webhooks_iff (p : Platform) (hsha : Function.Injective p.sha256)
    (hmac : ∀ key, Function.Injective (p.hmac key)) (settings : Settings)
    (headers : List (String × String)) (body : List UInt8) (now : ℚ) (path : String) :
    MetaVerified p settings headers body ∧ CashfreeVerified p settings headers body now ∧
        InternalVerified p settings headers body now path ↔
      Ordinary p settings headers body now := by
  rw [metaVerified_iff hmac, cashfreeVerified_iff hmac, internalVerified_iff hsha hmac]
  constructor
  · rintro ⟨hmeta, hcashfree, htimestamp, htag⟩
    exact ⟨hmeta, hcashfree, htimestamp, htag⟩
  · intro h
    exact ⟨h.metaTag, h.cashfreeTag, h.internalTimestamp, h.internalTag⟩

end Webhooks

/-! ## A signature that is not ASCII -/

/-- A platform for capitals of ASCII, with what is hashed for a hash. -/
def plainPlatform : Platform where
  toNumerals := asciiNumerals
  upper c := [c]
  upper_newline := MatchAgent.Signing.plainPlatform.upper_newline
  sha256 bytes := bytes
  hmac _ bytes := bytes

def someSettings : Settings := ⟨"meta", "cashfree", 300, "internal", 300, 131072⟩

/-- A wrong signature is told to be wrong, and nothing else comes of it. -/
theorem wrong_tag_told :
    MetaVerified plainPlatform someSettings [("X-Hub-Signature-256", "sha256=00")] [] ∧
      CashfreeVerified plainPlatform someSettings [("X-Hub-Signature-256", "sha256=00")] []
        1700000000 ∧
      InternalVerified plainPlatform someSettings [("X-Hub-Signature-256", "sha256=00")] []
        1700000000 "/internal/handoff" := by
  have habsent (name : String) (hname : name ≠ META_SIGNATURE_HEADER) : header plainPlatform
      [("X-Hub-Signature-256", "sha256=00")] name = none := by
    have hlower : plainPlatform.lower "X-Hub-Signature-256" = META_SIGNATURE_HEADER := by decide
    rw [header, List.reverse_singleton, List.find?_cons_of_neg, List.find?_nil, Option.map_none]
    rw [hlower, decide_eq_true_eq]
    exact fun h => hname h.symm
  refine (webhooks_iff plainPlatform Function.injective_id (fun _ => Function.injective_id)
    someSettings [("X-Hub-Signature-256", "sha256=00")] [] 1700000000 "/internal/handoff").mpr
    ⟨?_, ?_, ?_, ?_⟩
  · intro s hs _ _ _
    obtain rfl : "sha256=00" = s := Option.some.inj hs
    decide
  · intro s hs
    rw [habsent _ (by decide)] at hs
    cases hs
  · intro text htext
    rw [habsent _ (by decide)] at htext
    cases htext
  · rintro timestamp ⟨text, htext, -⟩
    rw [habsent _ (by decide)] at htext
    cases htext

/-- A letter with an accent is not compared. -/
theorem accent_raises : ¬ ∀ (headers : List (String × String)) (body : List UInt8) (now : ℚ)
    (path : String), MetaVerified plainPlatform someSettings headers body ∧
      CashfreeVerified plainPlatform someSettings headers body now ∧
      InternalVerified plainPlatform someSettings headers body now path := by
  intro hclaim
  have hraises : metaStep plainPlatform someSettings [("X-Hub-Signature-256", "sha256=é")] [] =
      .error .typeError := by rfl
  have hsettles := (hclaim [("X-Hub-Signature-256", "sha256=é")] [] 0 "/").1.settles
  rw [hraises] at hsettles
  exact not_settles (fun reason h => by cases h) hsettles

end NxTutors.DemoAgent.Signatures
