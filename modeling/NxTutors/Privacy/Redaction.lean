import NxTutors.Text.Passes

/-!
# What is personal in a text

Both agents replace what identifies a person before a text is handed to a model or stored: mobile
numbers, addresses, identity numbers, links, and pincodes where they are asked to. The Demo agent
also knows payment handles and the keys of its providers. The rules are applied in order, each to
what the ones before it have left.
-/

namespace NxTutors.Privacy

open Text

/-! ## Patterns of both -/

def PHONE_TOKEN : String := "[phone]"
def EMAIL_TOKEN : String := "[email]"
def ID_TOKEN : String := "[id]"
def URL_TOKEN : String := "[url]"
def PINCODE_TOKEN : String := "[pincode]"

section

variable (t : Tables)

/-- `\d`. -/
def digit : Re := .one t.isDigit

/-- `[\s.\-]`. -/
def separator : Re := .one fun c => t.isSpace c || c = '.' || c = '-'

/-- `(?<!\d)(?:\+?91[\s.\-]?)?[6-9](?:[\s.\-]?\d){9}(?!\d)`. -/
def PHONE : Pattern where
  behind before := !before.any t.isDigit
  body := .seqs [.opt (.seqs [.opt (.word "+"), .word "91", .opt (separator t)]),
    .one fun c => '6' ≤ c && c ≤ '9', .times (.seq (.opt (separator t)) (digit t)) 9]
  ahead rest := !rest.head?.any t.isDigit

/-- `\b[\w.+-]+@[\w-]+\.[\w.-]{2,}\b`. -/
def EMAIL : Re :=
  .seqs [.boundary, .atLeast 1 fun c => t.isWord c || c = '.' || c = '+' || c = '-', .word "@",
    .atLeast 1 fun c => t.isWord c || c = '-', .word ".",
    .atLeast 2 fun c => t.isWord c || c = '.' || c = '-', .boundary]

/-- `\b\d{4}\s?\d{4}\s?\d{4}\b`. -/
def AADHAAR : Re :=
  .seqs [.boundary, .times (digit t) 4, .opt (.one t.isSpace), .times (digit t) 4,
    .opt (.one t.isSpace), .times (digit t) 4, .boundary]

/-- `[A-Z]`. -/
def capital : Re := .one Char.isUpper

/-- `\b[A-Z]{5}\d{4}[A-Z]\b`. -/
def PAN : Re :=
  .seqs [.boundary, .times capital 5, .times (digit t) 4, capital, .boundary]

/-- `\b[1-9]\d{5}\b`. -/
def PINCODE : Re :=
  .seqs [.boundary, .one fun c => '1' ≤ c && c ≤ '9', .times (digit t) 5, .boundary]

/-- `https?://\S+`. -/
def URL : Re :=
  .seqs [.word "http", .opt (.word "s"), .word "://", .atLeast 1 fun c => !t.isSpace c]

/-- `\b\d{12,19}\b`. -/
def LONG_DIGITS : Re :=
  .seqs [.boundary, .times (digit t) 12, .upTo (digit t) 7, .boundary]

/-- The rule for pincodes. -/
def pincodes : Rule := ⟨(PINCODE t).finder t, PINCODE_TOKEN⟩

end

/-- `redact`, with these rules. -/
def redact (t : Tables) (rules : List Rule) (text : String) (redactPincode : Bool) : String :=
  let out := passes rules text.toList
  String.ofList (if redactPincode then (pincodes t).apply out else out)

/-- `contains_pii`. -/
def containsPii (rules : List Rule) (text : String) : Bool :=
  text ≠ "" && rules.any fun r => occurs r.find text.toList

end NxTutors.Privacy

namespace NxTutors.MatchAgent.Pii

open Text Privacy

/-- `_RULES`, of the Tutor agent. -/
def RULES (t : Tables) : List Rule :=
  [⟨(EMAIL t).finder t, EMAIL_TOKEN⟩, ⟨(URL t).finder t, URL_TOKEN⟩,
    ⟨(AADHAAR t).finder t, ID_TOKEN⟩, ⟨(LONG_DIGITS t).finder t, ID_TOKEN⟩,
    ⟨(PAN t).finder t, ID_TOKEN⟩, ⟨(PHONE t).finder t, PHONE_TOKEN⟩]

/-- What `found_pii_kinds` looks for, sorted by name. -/
def KINDS (t : Tables) : List (String × Finder) :=
  [("aadhaar", (AADHAAR t).finder t), ("email", (EMAIL t).finder t), ("pan", (PAN t).finder t),
    ("phone", (PHONE t).finder t), ("url", (URL t).finder t)]

/-- `found_pii_kinds`. -/
def foundPiiKinds (t : Tables) (text : String) : List String :=
  ((KINDS t).filter fun kind => text ≠ "" && occurs kind.2 text.toList).map (·.1)

end NxTutors.MatchAgent.Pii

namespace NxTutors.DemoAgent.Pii

open Text Privacy

def UPI_TOKEN : String := "[upi]"
def CREDENTIAL_TOKEN : String := "[credential]"

section

variable (t : Tables)

/-- `\b[\w.\-]{2,}@(?:ok\w+|paytm|ybl|upi|axl|ibl|apl)\b`, in any case. -/
def UPI : Re :=
  .seqs [.boundary, .atLeast 2 fun c => t.isWord c || c = '.' || c = '-', .word "@",
    .oneOf (.seq (.ignoringCase "ok") (.atLeast 1 t.isWord) ::
      ["paytm", "ybl", "upi", "axl", "ibl", "apl"].map .ignoringCase),
    .boundary]

/-- `[A-Za-z0-9]`. -/
def isAlnum (c : Char) : Bool := c.isAlphanum

/-- `[A-Za-z0-9]`, in any case: a few letters beyond ASCII have cases in it. -/
def isAlnumIgnoringCase (c : Char) : Bool := c.isAlphanum || c ∈ ['ſ', 'ı', 'İ', '\u212a']

/-- `\bsk-(?:proj-|svcacct-|admin-)?[A-Za-z0-9_-]{16,}\b`. -/
def OPENAI_KEY : Re :=
  .seqs [.boundary, .word "sk-", .opt (.words ["proj-", "svcacct-", "admin-"]),
    .atLeast 16 fun c => isAlnum c || c = '_' || c = '-', .boundary]

/-- `\bEAA[A-Za-z0-9]{20,}\b`. -/
def META_TOKEN : Re := .seqs [.boundary, .word "EAA", .atLeast 20 isAlnum, .boundary]

/-- `\bcfsk_[A-Za-z0-9_]{8,}\b`, in any case. -/
def CASHFREE_KEY : Re :=
  .seqs [.boundary, .ignoringCase "cfsk", .word "_",
    .atLeast 8 fun c => isAlnumIgnoringCase c || c = '_', .boundary]

/-- `\b(?:AIza[A-Za-z0-9_-]{20,}|ya29\.[A-Za-z0-9_-]{20,})\b`. -/
def GOOGLE_KEY : Re :=
  let key := Re.atLeast 20 fun c => isAlnum c || c = '_' || c = '-'
  .seqs [.boundary, .alt (.seq (.word "AIza") key) (.seq (.word "ya29.") key), .boundary]

/-- `\b(?:AKIA|ASIA)[A-Z0-9]{12,}\b`. -/
def AWS_KEY : Re :=
  .seqs [.boundary, .words ["AKIA", "ASIA"], .atLeast 12 fun c => c.isUpper || c.isDigit, .boundary]

/-- `\bBearer\s+[-A-Za-z0-9._~+/]{16,}=*`, in any case. -/
def BEARER : Re :=
  .seqs [.boundary, .ignoringCase "bearer", .atLeast 1 t.isSpace,
    .atLeast 16 fun c => isAlnumIgnoringCase c || c ∈ ['.', '_', '~', '+', '/', '-'],
    .many (· = '=')]

/-- `\b(?:v1=|sha256=)?[0-9a-f]{32,}\b`, in any case. -/
def SIGNATURE : Re :=
  .seqs [.boundary,
    .opt (.alt (.seq (.ignoringCase "v") (.word "1=")) (.seq (.ignoringCase "sha") (.word "256="))),
    .atLeast 32 fun c => c.isDigit || ('a' ≤ c && c ≤ 'f') || ('A' ≤ c && c ≤ 'F'), .boundary]

/-- `-----BEGIN [A-Z ]*PRIVATE KEY-----.*?-----END [A-Z ]*PRIVATE KEY-----`, over several lines, in a
text with so many characters left. -/
def privateKey (length : Nat) : Re :=
  let kind := Re.many fun c => c.isUpper || c = ' '
  .seqs [.word "-----BEGIN ", kind, .word "PRIVATE KEY-----", .fewest length,
    .word "-----END ", kind, .word "PRIVATE KEY-----"]

def PRIVATE_KEY : Finder := fun before rest => (privateKey rest.length).finder t before rest

/-- `_RULES`, of the Demo agent. -/
def RULES : List Rule :=
  [⟨PRIVATE_KEY t, CREDENTIAL_TOKEN⟩, ⟨(BEARER t).finder t, CREDENTIAL_TOKEN⟩,
    ⟨OPENAI_KEY.finder t, CREDENTIAL_TOKEN⟩, ⟨META_TOKEN.finder t, CREDENTIAL_TOKEN⟩,
    ⟨CASHFREE_KEY.finder t, CREDENTIAL_TOKEN⟩, ⟨GOOGLE_KEY.finder t, CREDENTIAL_TOKEN⟩,
    ⟨AWS_KEY.finder t, CREDENTIAL_TOKEN⟩, ⟨(UPI t).finder t, UPI_TOKEN⟩,
    ⟨(EMAIL t).finder t, EMAIL_TOKEN⟩, ⟨(URL t).finder t, URL_TOKEN⟩,
    ⟨(AADHAAR t).finder t, ID_TOKEN⟩, ⟨(LONG_DIGITS t).finder t, ID_TOKEN⟩,
    ⟨(PAN t).finder t, ID_TOKEN⟩, ⟨(PHONE t).finder t, PHONE_TOKEN⟩,
    ⟨SIGNATURE.finder t, CREDENTIAL_TOKEN⟩]

end

end NxTutors.DemoAgent.Pii
