import NxTutors.Matching.Tutors
import NxTutors.Sync.Availability
import NxTutors.Text.Delimited

/-!
# The projection of the feed

A tutor of the feed becomes one row of the projection and the rows of its windows. With the row goes
a checksum of what is projected, and reconciliation writes again where the checksums differ. What is
hashed is a text, and its fields can be read from it (`Material.chars_injective`), so equal
checksums say that all that is in it is equal. Some fields of the row are not in it.
-/

namespace NxTutors.Sync

open Text Scheduling
open MatchAgent (Time TuitionMode)

/-! ## Tutors -/

/-- A `float`, known by its `repr`. Nothing is computed with one here. -/
structure Decimal where
  repr : List Char
  plain : Plain repr
  begins : ∃ d ds, repr = d :: ds ∧ d ≠ 'n'

/-- The reviews of a tutor, with all averages. -/
structure ReviewAggregate where
  count : Nat := 0
  ratingAvg : Option Decimal := none
  expertiseAvg : Option Decimal := none
  patienceAvg : Option Decimal := none
  reliabilityAvg : Option Decimal := none
  communicationAvg : Option Decimal := none
  latestReviewAt : Option Time := none

/-- One tutor, with all that is projected. -/
structure TutorCandidate where
  tutorId : String
  publicRef : String
  name : String
  gender : Option String := none
  avatarUrl : Option String := none
  city : Option String := none
  locality : Option String := none
  district : Option String := none
  state : Option String := none
  pincode : Option String := none
  capabilities : Matching.TutorCapabilities := {}
  experienceYears : Option Nat := none
  education : Option String := none
  profileSummary : Option String := none
  fee : Matching.FeeBand := {}
  reviews : ReviewAggregate := {}
  availability : Option WeeklySchedule := none
  sourceUpdatedAt : Option Time := none

/-! ## The checksum -/

def twoDigits (n : Nat) : List Char := [Nat.digitChar (n / 10), Nat.digitChar (n % 10)]

def sixDigits (n : Nat) : List Char :=
  twoDigits (n / 10000) ++ twoDigits (n / 100 % 100) ++ twoDigits (n % 100)

/-- `isoformat()` of a time, which leaves out microseconds that are zero. -/
def isoformat (t : ClockTime) : String :=
  String.ofList (twoDigits t.hour ++ ':' :: (twoDigits t.minute ++ ':' :: (twoDigits t.second ++
    if t.microsecond = 0 then [] else '.' :: sixDigits t.microsecond)))

/-- `(int(w.weekday), w.start.isoformat(), w.end.isoformat())`. -/
def slotTuple (w : TimeWindow) : Nat × String × String :=
  (w.weekday, isoformat w.start, isoformat w.finish)

/-- The order of tuples. -/
def tupleLE (x y : Nat × String × String) : Prop :=
  x.1 < y.1 ∨ (x.1 = y.1 ∧ (x.2.1 < y.2.1 ∨ (x.2.1 = y.2.1 ∧ x.2.2 ≤ y.2.2)))

instance : DecidableRel tupleLE := fun _ _ => inferInstanceAs (Decidable (_ ∨ _))

/-- `sorted`, of texts. -/
def sorted (xs : List String) : List String := xs.insertionSort (· ≤ ·)

/-- The windows of a tutor. -/
def TutorCandidate.windows (t : TutorCandidate) : List TimeWindow :=
  match t.availability with
  | none => []
  | some s => s.windows

/-- What is hashed. -/
structure Material where
  availability : List (Nat × String × String)
  boards : List String
  city : Option String
  classes : List String
  education : Option String
  experience : Option Nat
  fee : Option Nat × Option Nat
  gender : Option String
  modes : List String
  name : String
  pincode : Option String
  profile : Option String
  reviews : Nat × Option Decimal
  subjects : List String

def material (tutor : TutorCandidate) : Material where
  availability := (tutor.windows.map slotTuple).insertionSort tupleLE
  boards := sorted tutor.capabilities.boards
  city := tutor.city
  classes := sorted tutor.capabilities.classes
  education := tutor.education
  experience := tutor.experienceYears
  fee := (tutor.fee.minimum, tutor.fee.maximum)
  gender := tutor.gender
  modes := sorted (tutor.capabilities.modes.map TuitionMode.value)
  name := tutor.name
  pincode := tutor.pincode
  profile := tutor.profileSummary
  reviews := (tutor.reviews.count, tutor.reviews.ratingAvg)
  subjects := sorted tutor.capabilities.subjects

def writeText : Option String → List Char := writeOption writeString

def writeTexts : List String → List Char := writeList writeString

def writeNumber : Option Nat → List Char := writeOption writeNat

def writeFloat : Option Decimal → List Char := writeOption Decimal.repr

/-- A name, behind the comma. -/
def key (name : String) : List Char := ' ' :: (writeString name ++ [':', ' '])

/-- `json.dumps(…, sort_keys=True)`. -/
def Material.chars (m : Material) : List Char :=
  '{' :: (writeString "availability" ++ ':' :: ' ' ::
    (writeList (writeTriple writeNat writeString writeString) m.availability ++
    (',' :: key "boards" ++ (writeTexts m.boards ++
    (',' :: key "city" ++ (writeText m.city ++
    (',' :: key "classes" ++ (writeTexts m.classes ++
    (',' :: key "education" ++ (writeText m.education ++
    (',' :: key "experience" ++ (writeNumber m.experience ++
    (',' :: key "fee" ++ (writePair writeNumber writeNumber m.fee ++
    (',' :: key "gender" ++ (writeText m.gender ++
    (',' :: key "modes" ++ (writeTexts m.modes ++
    (',' :: key "name" ++ (writeString m.name ++
    (',' :: key "pincode" ++ (writeText m.pincode ++
    (',' :: key "profile" ++ (writeText m.profile ++
    (',' :: key "reviews" ++ (writePair writeNat writeFloat m.reviews ++
    (',' :: key "subjects" ++ (writeTexts m.subjects ++ ['}']))))))))))))))))))))))))))))

/-- `projection_checksum`. -/
def projectionChecksum (sha256 : String → String) (tutor : TutorCandidate) : String :=
  sha256 (String.ofList (material tutor).chars)

/-! ## Rows -/

/-- A row of `tutor_projection`. -/
structure TutorRow where
  tutorId : String
  publicRef : String
  name : String
  gender : Option String
  avatarUrl : Option String
  city : Option String
  locality : Option String
  district : Option String
  state : Option String
  pincode : Option String
  subjects : List String
  boards : List String
  classes : List String
  modes : List String
  experienceYears : Option Nat
  education : Option String
  profileSummary : Option String
  feeMin : Option Nat
  feeMax : Option Nat
  feeLabel : Option String
  reviewCount : Nat
  ratingAvg : Option Decimal
  expertiseAvg : Option Decimal
  patienceAvg : Option Decimal
  reliabilityAvg : Option Decimal
  communicationAvg : Option Decimal
  latestReviewAt : Option Time
  sourceUpdatedAt : Option Time
  syncedAt : Time
  sourceChecksum : String

def rowValues (sha256 : String → String) (tutor : TutorCandidate) (now : Time) : TutorRow where
  tutorId := tutor.tutorId
  publicRef := tutor.publicRef
  name := tutor.name
  gender := tutor.gender
  avatarUrl := tutor.avatarUrl
  city := tutor.city
  locality := tutor.locality
  district := tutor.district
  state := tutor.state
  pincode := tutor.pincode
  subjects := tutor.capabilities.subjects
  boards := tutor.capabilities.boards
  classes := tutor.capabilities.classes
  modes := tutor.capabilities.modes.map TuitionMode.value
  experienceYears := tutor.experienceYears
  education := tutor.education
  profileSummary := tutor.profileSummary
  feeMin := tutor.fee.minimum
  feeMax := tutor.fee.maximum
  feeLabel := tutor.fee.label
  reviewCount := tutor.reviews.count
  ratingAvg := tutor.reviews.ratingAvg
  expertiseAvg := tutor.reviews.expertiseAvg
  patienceAvg := tutor.reviews.patienceAvg
  reliabilityAvg := tutor.reviews.reliabilityAvg
  communicationAvg := tutor.reviews.communicationAvg
  latestReviewAt := tutor.reviews.latestReviewAt
  sourceUpdatedAt := tutor.sourceUpdatedAt
  syncedAt := now
  sourceChecksum := projectionChecksum sha256 tutor

/-- The rows that `_replace_availability` adds. -/
def availabilityRows (tutor : TutorCandidate) (now : Time) : List TutorAvailability :=
  match tutor.availability with
  | none => []
  | some schedule => schedule.windows.map (rowOf tutor.tutorId schedule.timezone now)

/-- The tutors of a page that reconciliation writes again. -/
def drifted (sha256 : String → String) (existing : String → Option String)
    (page : List TutorCandidate) : List TutorCandidate :=
  page.filter fun tutor => existing tutor.tutorId ≠ some (projectionChecksum sha256 tutor)

/-! ## The text of the material -/

theorem delimited_decimal : Delimited Decimal.repr :=
  Delimited.of_plain Decimal.plain fun a b h => by
    obtain ⟨a, _, _⟩ := a
    obtain ⟨b, _, _⟩ := b
    obtain rfl : a = b := h
    rfl

theorem delimited_writeText : Delimited writeText :=
  Delimited.option delimited_writeString (notBegins_writeString (by decide))

theorem delimited_writeTexts : Delimited writeTexts :=
  Delimited.list delimited_writeString (notBegins_writeString (by decide))

theorem delimited_writeNumber : Delimited writeNumber :=
  Delimited.option delimited_writeNat (notBegins_writeNat (by decide))

theorem delimited_writeFloat : Delimited writeFloat :=
  Delimited.option delimited_decimal Decimal.begins

theorem delimited_slots : Delimited (writeList (writeTriple writeNat writeString writeString)) :=
  Delimited.list (Delimited.triple delimited_writeNat delimited_writeString delimited_writeString)
    fun _ => ⟨_, _, rfl, by decide⟩

theorem delimited_fee : Delimited (writePair writeNumber writeNumber) :=
  Delimited.pair delimited_writeNumber delimited_writeNumber

theorem delimited_reviews : Delimited (writePair writeNat writeFloat) :=
  Delimited.pair delimited_writeNat delimited_writeFloat

/-- **What is hashed can be read from its text.** -/
theorem Material.chars_injective : Function.Injective Material.chars := by
  rintro ⟨a1, a2, a3, a4, a5, a6, a7, a8, a9, a10, a11, a12, a13, a14⟩
    ⟨b1, b2, b3, b4, b5, b6, b7, b8, b9, b10, b11, b12, b13, b14⟩ h
  have h0 := List.append_cancel_left (List.cons.inj h).2
  obtain ⟨rfl, h1⟩ := delimited_slots.peel (List.cons.inj (List.cons.inj h0).2).2
  obtain ⟨rfl, h2⟩ := delimited_writeTexts.peel h1
  obtain ⟨rfl, h3⟩ := delimited_writeText.peel h2
  obtain ⟨rfl, h4⟩ := delimited_writeTexts.peel h3
  obtain ⟨rfl, h5⟩ := delimited_writeText.peel h4
  obtain ⟨rfl, h6⟩ := delimited_writeNumber.peel h5
  obtain ⟨rfl, h7⟩ := delimited_fee.peel h6
  obtain ⟨rfl, h8⟩ := delimited_writeText.peel h7
  obtain ⟨rfl, h9⟩ := delimited_writeTexts.peel h8
  obtain ⟨rfl, h10⟩ := delimited_writeString.peel h9
  obtain ⟨rfl, h11⟩ := delimited_writeText.peel h10
  obtain ⟨rfl, h12⟩ := delimited_writeText.peel h11
  obtain ⟨rfl, h13⟩ := delimited_reviews.peel h12
  obtain ⟨rfl, -⟩ := delimited_writeTexts (closes_brace []) (closes_brace []) h13
  rfl

end NxTutors.Sync
