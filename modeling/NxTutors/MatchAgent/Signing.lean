import NxTutors.Numbers.Binary64
import NxTutors.Text.Delimited
import NxTutors.Text.Joined

/-!
# Signed requests

A call from another agent is signed over its method, its path, its timestamp and the hash of its
body, one on each line. None of the last three contains the end of a line, so two requests are
signed over one text only if they are the same (`canonicalString_inj`), and a signature that is
accepted was made for the request it came with.

The checks are made in the order of their cost, and each that fails is told as a reason. But what
the conversions and the comparison raise by themselves is told only in part.
-/

namespace NxTutors.MatchAgent

open Numbers

inductive VerificationFailure where
  | missingSignature
  | missingTimestamp
  | malformedTimestamp
  | timestampOutOfWindow
  | malformedSignature
  | signatureMismatch
  | bodyTooLarge

/-- What is raised. -/
inductive Raises where
  | signatureError (reason : VerificationFailure)
  | overflowError
  | typeError
  | valueError

structure SignedRequest where
  method : String
  path : String
  timestamp : Int
  body : List UInt8

namespace Signing

def SIGNATURE_HEADER : String := "X-Nxt-Signature"
def TIMESTAMP_HEADER : String := "X-Nxt-Timestamp"
def SIGNATURE_PREFIX : String := "v1="

/-- `bytes.hex()`. -/
def hexdigest (bytes : List UInt8) : String :=
  String.ofList (bytes.flatMap fun b =>
    [Text.JsonValue.hexDigit (b.toNat / 16), Text.JsonValue.hexDigit (b.toNat % 16)])

/-- What requests are signed with. -/
structure Platform extends Numerals where
  /-- the upper case of one character, which may be several -/
  upper : Char → List Char
  /-- no other character becomes the end of a line -/
  upper_newline : ∀ c, '\n' ∈ upper c → c = '\n'
  sha256 : List UInt8 → List UInt8
  /-- the HMAC-SHA256 of a text, under a key, both in UTF-8 -/
  hmac : String → String → List UInt8

variable (p : Platform)

/-- `text.upper()`. -/
def Platform.upperCase (text : String) : String := String.ofList (text.toList.flatMap p.upper)

def canonicalString (method path : String) (timestamp : Int) (body : List UInt8) : String :=
  "\n".intercalate [p.upperCase method, path, toString timestamp, hexdigest (p.sha256 body)]

def sign (secret : String) (request : SignedRequest) : Except Raises String :=
  if secret = "" then .error .valueError
  else
    let payload := canonicalString p request.method request.path request.timestamp request.body
    .ok (SIGNATURE_PREFIX ++ hexdigest (p.hmac secret payload))

/-- A text has characters of ASCII only. -/
def ascii (text : String) : Bool := text.toList.all (·.toNat < 128)

/-- `hmac.compare_digest`, of two texts. -/
def compareDigest (a b : String) : Except Raises Bool :=
  if ascii a ∧ ascii b then .ok (a = b) else .error .typeError

def verify (secret : String) (request : SignedRequest) (provided : Option String)
    (toleranceSeconds maxBodyBytes : Int) (now : ℚ) : Except Raises Unit :=
  if (request.body.length : Int) > maxBodyBytes then .error (.signatureError .bodyTooLarge)
  else
    match provided with
    | none => .error (.signatureError .missingSignature)
    | some provided =>
      if provided = "" then .error (.signatureError .missingSignature)
      else if !SIGNATURE_PREFIX.toList.isPrefixOf provided.toList then
        .error (.signatureError .malformedSignature)
      else
        let drift := |now - request.timestamp|
        if drift > toleranceSeconds then .error (.signatureError .timestampOutOfWindow)
        else do
          let expected ← sign p secret request
          let same ← compareDigest expected provided
          if !same then .error (.signatureError .signatureMismatch) else .ok ()

/-- The timestamp of a header: what `int` raises of a number that is none is caught, but not what
it raises of one that is infinite. -/
def parseTimestamp (raw : Option String) : Except Raises Int :=
  match raw with
  | none => .error (.signatureError .missingTimestamp)
  | some raw =>
    match float p.toNumerals raw with
    | none => .error (.signatureError .malformedTimestamp)
    | some .nan => .error (.signatureError .malformedTimestamp)
    | some (.infinite _) => .error .overflowError
    | some (.finite q) => .ok (if q < 0 then -⌊-q⌋ else ⌊q⌋)

end Signing

structure IngressConfig where
  signingKey : String
  timestampToleranceSeconds : Int
  maxBodyBytes : Int

/-- The first step of the ingress: the timestamp is parsed, and the request verified. -/
def IngressConfig.authenticate (p : Signing.Platform) (config : IngressConfig)
    (method path : String) (headers : String → Option String) (body : List UInt8) (now : ℚ) :
    Except Raises Int := do
  let timestamp ← Signing.parseTimestamp p (headers Signing.TIMESTAMP_HEADER)
  Signing.verify p config.signingKey ⟨method, path, timestamp, body⟩
    (headers Signing.SIGNATURE_HEADER) config.timestampToleranceSeconds config.maxBodyBytes now
  return timestamp

namespace Signing

/-! ## What is signed -/

/-- What digits can be. -/
theorem hexDigit_plain {n : Nat} (h : n < 16) :
    Text.JsonValue.hexDigit n ≠ '\n' ∧ (Text.JsonValue.hexDigit n).toNat < 128 := by
  revert n
  decide

theorem mem_hexdigest {bytes : List UInt8} {c : Char} (hc : c ∈ (hexdigest bytes).toList) :
    c ≠ '\n' ∧ c.toNat < 128 := by
  rw [hexdigest, String.toList_ofList] at hc
  obtain ⟨b, -, hb⟩ := List.mem_flatMap.mp hc
  have hbyte : b.toNat < 256 := b.toNat_lt
  rcases List.mem_pair.mp hb with rfl | rfl
  · exact hexDigit_plain (by omega)
  · exact hexDigit_plain (Nat.mod_lt _ (by decide))

/-- Bytes are told apart by their digits. -/
theorem hexdigest_injective : Function.Injective hexdigest := by
  have hdigit : ∀ {m n : Nat}, m < 16 → n < 16 →
      Text.JsonValue.hexDigit m = Text.JsonValue.hexDigit n → m = n := by
    intro m n hm hn heq
    have hvalue := Text.hexValue_hexDigit hm
    rw [heq, Text.hexValue_hexDigit hn] at hvalue
    exact (Option.some.inj hvalue).symm
  intro bytes
  induction bytes with
  | nil =>
    intro other h
    cases other with
    | nil => rfl
    | cons b other => exact absurd (congrArg String.toList h) (by simp [hexdigest])
  | cons a bytes ih =>
    intro other h
    cases other with
    | nil => exact absurd (congrArg String.toList h) (by simp [hexdigest])
    | cons b other =>
      have hchars := congrArg String.toList h
      simp only [hexdigest, String.toList_ofList, List.flatMap_cons, List.cons_append,
        List.nil_append, List.cons.injEq] at hchars
      obtain ⟨hhigh, hlow, hrest⟩ := hchars
      have ha : a.toNat < 256 := a.toNat_lt
      have hb : b.toNat < 256 := b.toNat_lt
      have hhigh' := hdigit (by omega) (by omega) hhigh
      have hlow' := hdigit (Nat.mod_lt _ (by decide)) (Nat.mod_lt _ (by decide)) hlow
      have hbyte : a = b := UInt8.toNat_inj.mp (by omega)
      have hbytes : bytes = other := ih (congrArg String.ofList hrest)
      rw [hbyte, hbytes]

variable {p : Platform}

/-- A method on one line is on one line in upper case. -/
theorem newline_notMem_upperCase {method : String} (h : '\n' ∉ method.toList) :
    '\n' ∉ (p.upperCase method).toList := by
  rw [Platform.upperCase, String.toList_ofList]
  intro hc
  obtain ⟨c, hmem, hc⟩ := List.mem_flatMap.mp hc
  exact h (p.upper_newline c hc ▸ hmem)

/-- The last two lines are split off from the end, where both are known to be lines. -/
theorem canonicalString_lines {method path method' path' : String} {timestamp timestamp' : Int}
    {body body' : List UInt8}
    (h : canonicalString p method' path' timestamp' body'
      = canonicalString p method path timestamp body) :
    (p.upperCase method').toList ++ '\n' :: path'.toList
        = (p.upperCase method).toList ++ '\n' :: path.toList
      ∧ timestamp' = timestamp ∧ p.sha256 body' = p.sha256 body := by
  have hhash : ∀ bytes, '\n' ∉ (hexdigest bytes).toList := fun bytes hc => (mem_hexdigest hc).1 rfl
  have hsep : "\n".toList = ['\n'] := rfl
  have hregroup : ∀ a b c d : List Char, a ++ '\n' :: (b ++ '\n' :: (c ++ '\n' :: d))
      = ((a ++ '\n' :: b) ++ '\n' :: c) ++ '\n' :: d := by simp
  have hchars := congrArg String.toList h
  simp only [canonicalString, Text.toList_join_cons hsep, String.intercalate_singleton] at hchars
  rw [hregroup, hregroup] at hchars
  obtain ⟨hthree, hhashes⟩ := Text.append_cons_inj_last (hhash _) (hhash _) hchars
  obtain ⟨htwo, htimestamps⟩ := Text.append_cons_inj_last
    (Text.notMem_toString_int _ (by decide) (by decide))
    (Text.notMem_toString_int _ (by decide) (by decide)) hthree
  exact ⟨htwo, Text.toString_int_injective (String.toList_inj.mp htimestamps),
    hexdigest_injective (String.toList_inj.mp hhashes)⟩

/-- **Two requests are signed over one text only if they are the same**, up to the case of the
method, and the hash of the body. -/
theorem canonicalString_inj {method path method' path' : String} {timestamp timestamp' : Int}
    {body body' : List UInt8} (hmethod : '\n' ∉ method.toList) (hpath : '\n' ∉ path.toList)
    (h : canonicalString p method' path' timestamp' body'
      = canonicalString p method path timestamp body) :
    p.upperCase method' = p.upperCase method ∧ path' = path ∧ timestamp' = timestamp
      ∧ p.sha256 body' = p.sha256 body := by
  obtain ⟨htwo, htimestamps, hhashes⟩ := canonicalString_lines h
  obtain ⟨hmethods, hpaths⟩ :=
    Text.append_cons_inj_only (newline_notMem_upperCase hmethod) hpath htwo
  exact ⟨String.toList_inj.mp hmethods, String.toList_inj.mp hpaths, htimestamps, hhashes⟩

/-- What `sign` makes. -/
theorem sign_eq_ok {secret signature : String} {request : SignedRequest}
    (h : sign p secret request = .ok signature) : secret ≠ "" ∧ signature = SIGNATURE_PREFIX ++
      hexdigest (p.hmac secret
        (canonicalString p request.method request.path request.timestamp request.body)) := by
  unfold sign at h
  split at h
  · cases h
  · rename_i hsecret
    exact ⟨hsecret, (Except.ok.inj h).symm⟩

/-- **A signature is of one request**, as far as hashes tell apart what they are of. -/
theorem sign_inj (hsha : Function.Injective p.sha256) (hmac : ∀ key, Function.Injective (p.hmac key))
    {secret signature : String} {request other : SignedRequest}
    (hmethod : '\n' ∉ request.method.toList) (hpath : '\n' ∉ request.path.toList)
    (h : sign p secret request = .ok signature) (hother : sign p secret other = .ok signature) :
    p.upperCase other.method = p.upperCase request.method ∧ other.path = request.path
      ∧ other.timestamp = request.timestamp ∧ other.body = request.body := by
  have hsame := (sign_eq_ok hother).2.symm.trans (sign_eq_ok h).2
  have hpayload := hmac _ (hexdigest_injective ((String.append_right_inj _).mp hsame))
  obtain ⟨hmethods, hpaths, htimestamps, hbodies⟩ := canonicalString_inj hmethod hpath hpayload
  exact ⟨hmethods, hpaths, htimestamps, hsha hbodies⟩

/-- What is made is ASCII, so that it can be compared. -/
theorem ascii_of_sign {secret signature : String} {request : SignedRequest}
    (h : sign p secret request = .ok signature) : ascii signature = true := by
  rw [(sign_eq_ok h).2, ascii, String.toList_append, List.all_append, Bool.and_eq_true]
  refine ⟨by decide, List.all_eq_true.mpr fun c hc => ?_⟩
  exact decide_eq_true (mem_hexdigest hc).2

/-! ## What is verified -/

/-- A signature comes to be compared: it has the form of one, the body is not too large, and the
timestamp is not too far from now. -/
structure Compared (provided : String) (timestamp : Int) (body : List UInt8)
    (toleranceSeconds maxBodyBytes : Int) (now : ℚ) : Prop where
  body : (body.length : Int) ≤ maxBodyBytes
  signature : SIGNATURE_PREFIX.toList.isPrefixOf provided.toList = true
  drift : |now - timestamp| ≤ toleranceSeconds

variable {secret : String} {request : SignedRequest} {provided : Option String}
  {toleranceSeconds maxBodyBytes : Int} {now : ℚ}

/-- Anything else is refused, and the reason told. -/
theorem verify_of_not_compared (h : ∀ s ∈ provided,
    ¬Compared s request.timestamp request.body toleranceSeconds maxBodyBytes now) :
    ∃ reason, verify p secret request provided toleranceSeconds maxBodyBytes now
      = .error (.signatureError reason) := by
  unfold verify
  by_cases hbody : (request.body.length : Int) > maxBodyBytes
  · exact ⟨_, if_pos hbody⟩
  rw [if_neg hbody]
  cases provided with
  | none => exact ⟨_, rfl⟩
  | some s =>
    dsimp only
    by_cases hempty : s = ""
    · exact ⟨_, if_pos hempty⟩
    rw [if_neg hempty]
    by_cases hsignature : SIGNATURE_PREFIX.toList.isPrefixOf s.toList = true
    · by_cases hdrift : |now - request.timestamp| > toleranceSeconds
      · refine ⟨.timestampOutOfWindow, ?_⟩
        rw [hsignature, if_neg (by decide), if_pos hdrift]
      · exact absurd ⟨not_lt.mp hbody, hsignature, not_lt.mp hdrift⟩ (h s rfl)
    · rw [Bool.eq_false_iff.mpr hsignature]
      exact ⟨.malformedSignature, rfl⟩

/-- A signature that comes to be compared is compared. -/
theorem verify_of_compared {s : String}
    (h : Compared s request.timestamp request.body toleranceSeconds maxBodyBytes now) :
    verify p secret request (some s) toleranceSeconds maxBodyBytes now
      = (sign p secret request).bind fun expected => (compareDigest expected s).bind fun same =>
        if !same then .error (.signatureError .signatureMismatch) else .ok () := by
  have hempty : s ≠ "" := by
    rintro rfl
    exact absurd h.signature (by decide)
  unfold verify
  rw [if_neg (not_lt.mpr h.body)]
  dsimp only
  rw [if_neg hempty, h.signature, if_neg (by decide), if_neg (not_lt.mpr h.drift)]
  rfl

/-- **Accepted** is what was signed so, in time. -/
theorem verify_eq_ok_iff :
    verify p secret request provided toleranceSeconds maxBodyBytes now = .ok ()
      ↔ ∃ s, provided = some s ∧ sign p secret request = .ok s
        ∧ Compared s request.timestamp request.body toleranceSeconds maxBodyBytes now := by
  constructor
  · intro h
    by_cases hcompared : ∃ s ∈ provided,
        Compared s request.timestamp request.body toleranceSeconds maxBodyBytes now
    · obtain ⟨s, hprovided, hcompared⟩ := hcompared
      obtain rfl : provided = some s := hprovided
      refine ⟨s, rfl, ?_, hcompared⟩
      rw [verify_of_compared hcompared] at h
      cases hsign : sign p secret request with
      | error e => rw [hsign] at h; cases h
      | ok expected =>
        rw [hsign] at h
        change (compareDigest expected s).bind _ = _ at h
        unfold compareDigest at h
        split at h
        · by_cases hsame : expected = s
          · rw [hsame]
          · simp [Except.bind, hsame] at h
        · cases h
    · obtain ⟨reason, hreason⟩ : ∃ reason, verify p secret request provided toleranceSeconds
          maxBodyBytes now = .error (.signatureError reason) :=
        verify_of_not_compared fun s hs hc => hcompared ⟨s, hs, hc⟩
      rw [hreason] at h
      cases h
  · rintro ⟨s, rfl, hsign, hcompared⟩
    rw [verify_of_compared hcompared, hsign]
    change (compareDigest s s).bind _ = _
    rw [compareDigest, if_pos ⟨ascii_of_sign hsign, ascii_of_sign hsign⟩]
    simp [Except.bind]

/-- What is refused is told as a reason, unless there is no secret to sign with or the signature is
not ASCII. -/
theorem verify_settles_iff {s : String}
    (h : Compared s request.timestamp request.body toleranceSeconds maxBodyBytes now) :
    (verify p secret request (some s) toleranceSeconds maxBodyBytes now = .ok ()
        ∨ ∃ reason, verify p secret request (some s) toleranceSeconds maxBodyBytes now
          = .error (.signatureError reason))
      ↔ secret ≠ "" ∧ ascii s = true := by
  rw [verify_of_compared h]
  by_cases hsecret : secret = ""
  · have hsign : sign p secret request = .error .valueError := if_pos hsecret
    rw [hsign]
    simp [Except.bind, hsecret]
  · obtain ⟨expected, hsign⟩ : ∃ expected, sign p secret request = .ok expected :=
      ⟨_, if_neg hsecret⟩
    have hexpected := ascii_of_sign hsign
    rw [hsign]
    change ((compareDigest expected s).bind _ = _ ∨ ∃ reason, (compareDigest expected s).bind _ = _)
      ↔ _
    unfold compareDigest
    by_cases hascii : ascii s = true
    · by_cases hsame : expected = s
      · simp [Except.bind, hsecret, hascii, hsame]
      · simp [Except.bind, hsecret, hexpected, hascii, hsame]
    · simp [Except.bind, hascii]

/-- The timestamp a header gives: the whole part of the number that is written, in double
precision. -/
def Stamped (p : Platform) (raw : Option String) (timestamp : Int) : Prop :=
  ∃ text, raw = some text ∧ (float p.toNumerals text).bind Double.toInt = some timestamp

theorem parseTimestamp_eq_ok_iff {raw : Option String} {timestamp : Int} :
    parseTimestamp p raw = .ok timestamp ↔ Stamped p raw timestamp := by
  unfold parseTimestamp Stamped
  cases raw with
  | none => simp
  | some raw =>
    cases hfloat : float p.toNumerals raw with
    | none => simp [hfloat]
    | some x => cases x <;> simp [hfloat, Double.toInt]

/-- A header that gives no timestamp is refused, and the reason told, unless its number is
infinite. -/
theorem parseTimestamp_settles_iff {raw : Option String} (h : ∀ timestamp, ¬Stamped p raw timestamp) :
    (∃ reason, parseTimestamp p raw = .error (.signatureError reason))
      ↔ ∀ text ∈ raw, ∀ w ∈ written p.toNumerals text, ¬w.Infinite := by
  unfold parseTimestamp
  cases raw with
  | none => simp
  | some text =>
    simp only [Option.mem_some_iff, forall_eq']
    unfold float
    cases hwritten : written p.toNumerals text with
    | none => simp
    | some w =>
      have hstamped : w.toDouble.toInt = none := by
        cases hint : w.toDouble.toInt with
        | none => rfl
        | some timestamp =>
          refine absurd ⟨text, rfl, ?_⟩ (h timestamp)
          rw [float, hwritten]
          exact hint
      cases w with
      | number q =>
        have hinfinite : ¬∃ r, Double.round q = .finite r := by
          rintro ⟨r, hr⟩
          rw [Written.toDouble, hr] at hstamped
          cases hstamped
        have hlarge := hinfinite
        rw [round_finite_iff, not_lt] at hlarge
        simp only [Option.map_some, Written.toDouble, Option.mem_some_iff, forall_eq',
          Written.Infinite, hlarge, not_true_eq_false, iff_false, not_exists]
        intro reason
        cases hround : Double.round q with
        | finite r => exact absurd ⟨r, hround⟩ hinfinite
        | infinite => simp
        | nan => unfold Double.round at hround; split at hround <;> cases hround
      | infinity => simp [Written.toDouble, Written.Infinite]
      | nan => simp [Written.toDouble, Written.Infinite]

/-! ## The first step -/

variable {config : IngressConfig} {method path : String} {headers : String → Option String}
  {body : List UInt8}

/-- **What is asked of the step**: it accepts, or tells why not; and it accepts what was signed for
this method, path, timestamp and body alone, with a timestamp that is not too far from now. -/
structure Authenticates (p : Platform) (config : IngressConfig) (method path : String)
    (headers : String → Option String) (body : List UInt8) (now : ℚ) : Prop where
  settles : (∃ timestamp, config.authenticate p method path headers body now = .ok timestamp)
    ∨ ∃ reason, config.authenticate p method path headers body now
      = .error (.signatureError reason)
  binds : ∀ timestamp, config.authenticate p method path headers body now = .ok timestamp →
    |now - timestamp| ≤ config.timestampToleranceSeconds
      ∧ ∃ signature, headers SIGNATURE_HEADER = some signature
        ∧ sign p config.signingKey ⟨method, path, timestamp, body⟩ = .ok signature
        ∧ ∀ request, sign p config.signingKey request = .ok signature →
          p.upperCase request.method = p.upperCase method ∧ request.path = path
            ∧ request.timestamp = timestamp ∧ request.body = body

/-- **Nothing is raised by the way**: the timestamp is not infinite; and where the signature comes
to be compared, there is a key and the signature is ASCII. -/
structure Ordinary (p : Platform) (config : IngressConfig) (headers : String → Option String)
    (body : List UInt8) (now : ℚ) : Prop where
  timestamp : ∀ text ∈ headers TIMESTAMP_HEADER, ∀ w ∈ written p.toNumerals text, ¬w.Infinite
  signature : ∀ timestamp, Stamped p (headers TIMESTAMP_HEADER) timestamp →
    ∀ s ∈ headers SIGNATURE_HEADER,
      Compared s timestamp body config.timestampToleranceSeconds config.maxBodyBytes now →
        config.signingKey ≠ "" ∧ ascii s = true

theorem authenticate_eq_ok_iff {timestamp : Int} :
    config.authenticate p method path headers body now = .ok timestamp
      ↔ Stamped p (headers TIMESTAMP_HEADER) timestamp
        ∧ verify p config.signingKey ⟨method, path, timestamp, body⟩ (headers SIGNATURE_HEADER)
          config.timestampToleranceSeconds config.maxBodyBytes now = .ok () := by
  rw [← parseTimestamp_eq_ok_iff]
  change (parseTimestamp p _).bind _ = _ ↔ _
  cases parseTimestamp p (headers TIMESTAMP_HEADER) with
  | error e => simp [Except.bind]
  | ok t =>
    change (verify p _ _ _ _ _ _).bind (fun _ => .ok t) = _ ↔ _
    constructor
    · intro h
      cases hverify : verify p config.signingKey ⟨method, path, t, body⟩
          (headers SIGNATURE_HEADER) config.timestampToleranceSeconds config.maxBodyBytes now with
      | error e => rw [hverify] at h; cases h
      | ok u =>
        rw [hverify] at h
        obtain rfl : t = timestamp := Except.ok.inj h
        exact ⟨rfl, hverify⟩
    · rintro ⟨ht, hverify⟩
      obtain rfl : t = timestamp := Except.ok.inj ht
      rw [hverify]
      rfl

/-- What is accepted was signed for it. -/
theorem authenticate_binds (hsha : Function.Injective p.sha256)
    (hmac : ∀ key, Function.Injective (p.hmac key)) (hmethod : '\n' ∉ method.toList)
    (hpath : '\n' ∉ path.toList) {timestamp : Int}
    (h : config.authenticate p method path headers body now = .ok timestamp) :
    |now - timestamp| ≤ config.timestampToleranceSeconds
      ∧ ∃ signature, headers SIGNATURE_HEADER = some signature
        ∧ sign p config.signingKey ⟨method, path, timestamp, body⟩ = .ok signature
        ∧ ∀ request, sign p config.signingKey request = .ok signature →
          p.upperCase request.method = p.upperCase method ∧ request.path = path
            ∧ request.timestamp = timestamp ∧ request.body = body := by
  obtain ⟨signature, hheader, hsign, hcompared⟩ :=
    verify_eq_ok_iff.mp (authenticate_eq_ok_iff.mp h).2
  exact ⟨hcompared.drift, signature, hheader, hsign, fun request hrequest =>
    @sign_inj p hsha hmac _ _ ⟨method, path, timestamp, body⟩ request hmethod hpath hsign hrequest⟩

/-- A timestamp is read from a number that is not infinite. -/
theorem not_infinite_of_stamped {raw : Option String} {timestamp : Int}
    (h : Stamped p raw timestamp) :
    ∀ text ∈ raw, ∀ w ∈ written p.toNumerals text, ¬w.Infinite := by
  obtain ⟨text, rfl, hint⟩ := h
  rintro _ ⟨⟩ w hw
  rw [Option.mem_def] at hw
  rw [float, hw, Option.map_some, Option.bind_some] at hint
  cases w with
  | number q =>
    rw [Written.Infinite, not_le, ← round_finite_iff]
    cases hround : Double.round q with
    | finite r => exact ⟨r, rfl⟩
    | infinite => rw [Written.toDouble, hround] at hint; cases hint
    | nan => rw [Written.toDouble, hround] at hint; cases hint
  | infinity => cases hint
  | nan => exact id

/-- The step settles a request with a timestamp as `verify` does. -/
theorem settles_of_stamped {timestamp : Int}
    (h : Stamped p (headers TIMESTAMP_HEADER) timestamp) :
    ((∃ t, config.authenticate p method path headers body now = .ok t)
        ∨ ∃ reason, config.authenticate p method path headers body now
          = .error (.signatureError reason))
      ↔ ∀ s ∈ headers SIGNATURE_HEADER,
        Compared s timestamp body config.timestampToleranceSeconds config.maxBodyBytes now →
          config.signingKey ≠ "" ∧ ascii s = true := by
  have hstep : config.authenticate p method path headers body now
      = (verify p config.signingKey ⟨method, path, timestamp, body⟩ (headers SIGNATURE_HEADER)
        config.timestampToleranceSeconds config.maxBodyBytes now).bind fun _ => .ok timestamp := by
    have hparse := parseTimestamp_eq_ok_iff.mpr h
    change (parseTimestamp p _).bind _ = _
    rw [hparse]
    rfl
  by_cases hcompared : ∃ s ∈ headers SIGNATURE_HEADER,
      Compared s timestamp body config.timestampToleranceSeconds config.maxBodyBytes now
  · obtain ⟨s, hs, hcompared⟩ := hcompared
    have hheader : headers SIGNATURE_HEADER = some s := hs
    have hsettles := @verify_settles_iff p config.signingKey ⟨method, path, timestamp, body⟩ _ _ _ s
      hcompared
    rw [hstep, hheader]
    simp only [Option.mem_some_iff, forall_eq', hcompared, true_imp_iff]
    rw [← hsettles]
    cases verify p config.signingKey ⟨method, path, timestamp, body⟩ (some s)
      config.timestampToleranceSeconds config.maxBodyBytes now <;> simp [Except.bind]
  · obtain ⟨reason, hreason⟩ := @verify_of_not_compared p config.signingKey
      ⟨method, path, timestamp, body⟩ _ _ _ _ fun s hs hc => hcompared ⟨s, hs, hc⟩
    rw [hstep, hreason]
    exact iff_of_true (.inr ⟨reason, rfl⟩) fun s hs hc => absurd ⟨s, hs, hc⟩ hcompared

/-- **When the first step settles a request**: exactly if nothing is raised by the way. -/
theorem authenticates_iff (p : Platform) (hsha : Function.Injective p.sha256)
    (hmac : ∀ key, Function.Injective (p.hmac key)) (config : IngressConfig) (method path : String)
    (hmethod : '\n' ∉ method.toList) (hpath : '\n' ∉ path.toList)
    (headers : String → Option String) (body : List UInt8) (now : ℚ) :
    Authenticates p config method path headers body now
      ↔ Ordinary p config headers body now := by
  by_cases hstamped : ∃ timestamp, Stamped p (headers TIMESTAMP_HEADER) timestamp
  · obtain ⟨timestamp, hstamped⟩ := hstamped
    have hsettles := @settles_of_stamped p now config method path headers body timestamp hstamped
    constructor
    · intro h
      refine ⟨not_infinite_of_stamped hstamped, fun t ht => ?_⟩
      obtain rfl : timestamp = t := by
        have hsame := (parseTimestamp_eq_ok_iff.mpr hstamped).symm.trans
          (parseTimestamp_eq_ok_iff.mpr ht)
        exact Except.ok.inj hsame
      exact hsettles.mp h.settles
    · intro h
      exact ⟨hsettles.mpr (h.signature timestamp hstamped),
        fun t ht => authenticate_binds hsha hmac hmethod hpath ht⟩
  · have hnone : ∀ timestamp, ¬Stamped p (headers TIMESTAMP_HEADER) timestamp :=
      fun t ht => hstamped ⟨t, ht⟩
    have hfails : ∀ t, config.authenticate p method path headers body now ≠ .ok t :=
      fun t ht => hnone t (authenticate_eq_ok_iff.mp ht).1
    have hsame : ∀ reason, config.authenticate p method path headers body now
        = .error (.signatureError reason) ↔ parseTimestamp p (headers TIMESTAMP_HEADER)
          = .error (.signatureError reason) := by
      intro reason
      change (parseTimestamp p _).bind _ = _ ↔ _
      cases hparse : parseTimestamp p (headers TIMESTAMP_HEADER) with
      | error e => simp [Except.bind]
      | ok t => exact absurd (parseTimestamp_eq_ok_iff.mp hparse) (hnone t)
    have hsettles := parseTimestamp_settles_iff hnone
    constructor
    · intro h
      refine ⟨hsettles.mp ?_, fun t ht => absurd ht (hnone t)⟩
      rcases h.settles with ⟨t, ht⟩ | ⟨reason, hreason⟩
      · exact absurd ht (hfails t)
      · exact ⟨reason, (hsame reason).mp hreason⟩
    · intro h
      obtain ⟨reason, hreason⟩ := hsettles.mpr h.timestamp
      exact ⟨.inr ⟨reason, (hsame reason).mpr hreason⟩, fun t ht => absurd ht (hfails t)⟩

/-- A platform for capitals of ASCII, with what is hashed for a hash. -/
def plainPlatform : Platform where
  toNumerals := asciiNumerals
  upper c := [c]
  upper_newline _ h := (List.mem_singleton.mp h).symm
  sha256 bytes := bytes
  hmac _ text := text.toUTF8.data.toList

theorem plain_hmac_injective (key : String) : Function.Injective (plainPlatform.hmac key) := by
  intro text other h
  have hdata : text.toUTF8.data = other.toUTF8.data := Array.toList_inj.mp h
  exact String.toByteArray_inj.mp (ByteArray.ext hdata)

/-- The headers of a request. -/
def headersOf (timestamp signature : String) (name : String) : Option String :=
  if name = TIMESTAMP_HEADER then some timestamp
  else if name = SIGNATURE_HEADER then some signature
  else none

/-- A request with a wrong signature is settled. -/
theorem wrong_signature_settled :
    Authenticates plainPlatform ⟨"key", 300, 1000⟩ "POST" "/ingress/lead"
      (headersOf "1700000000" "v1=00") [] 1700000005 :=
  (authenticates_iff plainPlatform Function.injective_id plain_hmac_injective ⟨"key", 300, 1000⟩
    "POST" "/ingress/lead" (by decide) (by decide) (headersOf "1700000000" "v1=00") []
    1700000005).mpr
    { timestamp :=
        @not_infinite_of_stamped _ _ 1700000000 ⟨"1700000000", rfl, by decide +kernel⟩
      signature := by
        rintro _ - s hs -
        obtain rfl : "v1=00" = s := Option.some.inj hs
        exact ⟨by decide, by decide⟩ }

/-- An infinite timestamp is not told as a reason. -/
theorem infinity_raises :
    plainPlatform.upperCase "POST" = "POST"
      ∧ ¬Authenticates plainPlatform ⟨"key", 300, 1000⟩ "POST" "/ingress/lead"
        (headersOf "inf" "v1=00") [] 1700000005 := by
  refine ⟨by decide, fun h => ?_⟩
  have hraises : (⟨"key", 300, 1000⟩ : IngressConfig).authenticate plainPlatform "POST"
      "/ingress/lead" (headersOf "inf" "v1=00") [] 1700000005 = .error .overflowError := by
    have hwritten : written asciiNumerals "inf" = some (.infinity false) := by decide
    have hfloat : float asciiNumerals "inf" = some (.infinite false) := by
      rw [float, hwritten]
      rfl
    have hparse : parseTimestamp plainPlatform (headersOf "inf" "v1=00" TIMESTAMP_HEADER)
        = .error .overflowError := by
      change parseTimestamp plainPlatform (some "inf") = _
      unfold parseTimestamp
      simp only [plainPlatform, hfloat]
    rw [IngressConfig.authenticate, hparse]
    rfl
  rcases h.settles with ⟨timestamp, haccepted⟩ | ⟨reason, hrefused⟩
  · rw [hraises] at haccepted
    cases haccepted
  · rw [hraises] at hrefused
    cases hrefused

end Signing

end NxTutors.MatchAgent
