import NxTutors.Text.Regex
import NxTutors.MatchAgent.Requirements
import Mathlib.Data.List.Sort

/-!
# Subjects, classes, boards and cities

Parents and tutors write the same thing in many ways, and everything is compared after it has been
brought to one form. A form that the tables do not know is kept, with capitals put in, so nothing
that was written is lost.

What depends on Unicode tables or on floating point is a parameter (`Platform`).
-/

namespace NxTutors.Matching

open Text MatchAgent

/-- What the texts are compared with. -/
structure Platform extends Tables where
  /-- accents dropped -/
  asciiFold : String → String
  upper : String → String
  /-- the first character as a title, the others in lower case -/
  capitalize : String → String
  /-- the value of a decimal digit -/
  digitValue : Char → Nat

/-- On ASCII. -/
def ascii : Platform where
  toTables := Text.ascii
  asciiFold s := s
  upper s := String.ofList (s.toList.map Char.toUpper)
  capitalize s := match s.toList with
    | [] => ""
    | c :: cs => String.ofList (c.toUpper :: cs.map Char.toLower)
  digitValue c := c.toNat - '0'.toNat

instance lawfulBEq_labels : LawfulBEq (Option String) := inferInstance

variable (p : Platform)

/-- Small letters and digits only, for a look into a table. -/
def normalizeKey (value : String) : String :=
  String.ofList ((p.lower (p.asciiFold value)).toList.filter fun c =>
    ('a' ≤ c && c ≤ 'z') || ('0' ≤ c && c ≤ '9'))

/-- `not value.strip()`. -/
def blank (value : String) : Bool := strip p.toTables value = ""

/-- `" ".join(word.capitalize() for word in value.split())`. -/
def titled (value : String) : String := " ".intercalate ((split p.toTables value).map p.capitalize)

/-! ## Subjects -/

/-- `_ALIASES`. -/
def SUBJECT_ALIASES : List (String × String) :=
  [("maths", "Mathematics"), ("math", "Mathematics"), ("mathematics", "Mathematics"),
    ("mathematic", "Mathematics"), ("ganit", "Mathematics"), ("mth", "Mathematics"),
    ("appliedmaths", "Mathematics"), ("appliedmathematics", "Mathematics"),
    ("science", "Science"), ("sci", "Science"), ("vigyan", "Science"),
    ("generalscience", "Science"), ("evs", "Science"), ("environmentalscience", "Science"),
    ("physics", "Physics"), ("phy", "Physics"), ("bhautiki", "Physics"),
    ("chemistry", "Chemistry"), ("chem", "Chemistry"), ("rasayan", "Chemistry"),
    ("organicchemistry", "Chemistry"), ("inorganicchemistry", "Chemistry"),
    ("physicalchemistry", "Chemistry"),
    ("biology", "Biology"), ("bio", "Biology"), ("botany", "Biology"), ("zoology", "Biology"),
    ("jeevvigyan", "Biology"),
    ("english", "English"), ("eng", "English"), ("englishliterature", "English"),
    ("englishgrammar", "English"), ("spokenenglish", "English"),
    ("hindi", "Hindi"), ("hnd", "Hindi"), ("sanskrit", "Sanskrit"), ("french", "French"),
    ("german", "German"),
    ("sst", "Social Science"), ("socialscience", "Social Science"),
    ("socialstudies", "Social Science"), ("social", "Social Science"),
    ("samajikvigyan", "Social Science"),
    ("history", "History"), ("itihas", "History"), ("geography", "Geography"),
    ("bhugol", "Geography"), ("politicalscience", "Political Science"),
    ("polsci", "Political Science"), ("civics", "Political Science"),
    ("accounts", "Accountancy"), ("accountancy", "Accountancy"), ("accounting", "Accountancy"),
    ("economics", "Economics"), ("eco", "Economics"), ("econ", "Economics"),
    ("businessstudies", "Business Studies"), ("bst", "Business Studies"),
    ("business", "Business Studies"),
    ("computer", "Computer Science"), ("computerscience", "Computer Science"),
    ("cs", "Computer Science"), ("informationpractices", "Computer Science"),
    ("ip", "Computer Science"), ("programming", "Computer Science"),
    ("python", "Computer Science"), ("coding", "Computer Science"),
    ("psychology", "Psychology")]

/-- `_UMBRELLA_PARTS`, each sorted. -/
def UMBRELLA_PARTS : List (String × List String) :=
  [("Science", ["Biology", "Chemistry", "Physics"]),
    ("Social Science", ["Economics", "Geography", "History", "Political Science"])]

/-- Canonical subject name, or what was written with capitals. -/
def normalizeSubject (subject : Option String) : Option String :=
  (subject.filter (!blank p ·)).map fun s =>
    (SUBJECT_ALIASES.lookup (normalizeKey p s)).getD (titled p s)

/-- The same subject, or an umbrella over the required one. -/
def subjectMatches (required taught : String) : Bool :=
  let want := normalizeSubject p (some required)
  let have' := normalizeSubject p (some taught)
  if !present want || !present have' then false
  else
    want = have' || want.getD "" ∈ (UMBRELLA_PARTS.lookup (have'.getD "")).getD []

def matchesAny (required : String) (taughtList : List String) : Bool :=
  taughtList.any (subjectMatches p required)

/-- `sorted(parts_of(subject))`. -/
def partsOf (subject : String) : List String :=
  (UMBRELLA_PARTS.lookup ((normalizeSubject p (some subject)).getD "")).getD []

/-- `_ADJACENT`. -/
def ADJACENT : List (List String) :=
  [["Physics", "Mathematics"], ["Chemistry", "Biology"],
    ["Accountancy", "Economics", "Business Studies"],
    ["History", "Geography", "Political Science"]]

/-- Often taught by the same person. -/
def isAdjacent (a b : String) : Bool :=
  let left := normalizeSubject p (some a)
  let right := normalizeSubject p (some b)
  present left && present right && left ≠ right &&
    ADJACENT.any fun group => left.getD "" ∈ group && right.getD "" ∈ group

/-! ## Boards -/

/-- `_BOARD_ALIASES`. -/
def BOARD_ALIASES : List (String × String) :=
  [("cbse", "CBSE"), ("cbsc", "CBSE"), ("centralboard", "CBSE"), ("ncert", "CBSE"),
    ("icse", "ICSE"), ("cisce", "ICSE"), ("isc", "ISC"), ("ib", "IB"), ("ibdp", "IB"),
    ("internationalbaccalaureate", "IB"), ("myp", "IB"), ("pyp", "IB"), ("igcse", "IGCSE"),
    ("cambridge", "Cambridge"), ("caie", "Cambridge"), ("alevel", "Cambridge"),
    ("aslevel", "Cambridge"), ("stateboard", "State Board"), ("state", "State Board"),
    ("hbse", "State Board"), ("upboard", "State Board"), ("mahboard", "State Board"),
    ("ssc", "State Board"), ("nios", "NIOS"), ("openschool", "NIOS")]

/-- `_STRICT_BOARDS`. -/
def STRICT_BOARDS : List String := ["IB", "IGCSE", "Cambridge", "ISC"]

def normalizeBoard (board : Option String) : Option String :=
  (board.filter (!blank p ·)).map fun b =>
    (BOARD_ALIASES.lookup (normalizeKey p b)).getD (p.upper (strip p.toTables b))

/-- Whether another board is a contradiction, at that grade. -/
def boardIsMandatory (board : Option String) (classNumber : Option Nat) : Bool :=
  match normalizeBoard p board with
  | none => false
  | some canonical => canonical ∈ STRICT_BOARDS || classNumber.any (9 ≤ ·)

/-! ## Exams -/

/-- `_EXAM_ALIASES`. -/
def EXAM_ALIASES : List (String × String) :=
  [("jee", "JEE"), ("jeemain", "JEE"), ("jeeadvanced", "JEE"), ("iitjee", "JEE"), ("iit", "JEE"),
    ("neet", "NEET"), ("neetug", "NEET"), ("medical", "NEET"), ("aiims", "NEET"),
    ("boards", "Board Exam"), ("boardexam", "Board Exam"), ("boardexams", "Board Exam"),
    ("olympiad", "Olympiad"), ("imo", "Olympiad"), ("nso", "Olympiad"), ("ntse", "NTSE"),
    ("cuet", "CUET"), ("sat", "SAT")]

/-- `EXAM_SUBJECTS`. -/
def EXAM_SUBJECTS : List (String × List String) :=
  [("JEE", ["Mathematics", "Physics", "Chemistry"]), ("NEET", ["Biology", "Physics", "Chemistry"])]

def normalizeExam (exam : Option String) : Option String :=
  (exam.filter (!blank p ·)).map fun e =>
    (EXAM_ALIASES.lookup (normalizeKey p e)).getD (p.upper (strip p.toTables e))

/-! ## Classes -/

/-- `_PRESCHOOL`. -/
def PRESCHOOL : List (String × String) :=
  [("nursery", "Nursery"), ("prenursery", "Nursery"), ("playgroup", "Nursery"), ("lkg", "LKG"),
    ("ukg", "UKG"), ("kg", "KG"), ("kindergarten", "KG")]

/-- `_ROMAN`. -/
def ROMAN : List (String × Nat) :=
  [("i", 1), ("ii", 2), ("iii", 3), ("iv", 4), ("v", 5), ("vi", 6), ("vii", 7), ("viii", 8),
    ("ix", 9), ("x", 10), ("xi", 11), ("xii", 12)]

/-- `\d{1,2}`. -/
def oneOrTwoDigits : Re := .seq (.one p.isDigit) (.opt (.one p.isDigit))

/-- `(?:class|std|standard|grade|clas)`. -/
def CLASS_WORD : Re := .words ["class", "std", "standard", "grade", "clas"]

/-- The longest first. -/
def ROMAN_ALT : Re :=
  .words ["viii", "iii", "vii", "xii", "ii", "iv", "vi", "ix", "xi", "i", "v", "x"]

/-- What stands between the word and the numeral: white space, hyphens and dashes, `:` and `.`. -/
def CLASS_SEP : Re :=
  .many fun c => p.isSpace c || c = '-' || ('\u2010' ≤ c && c ≤ '\u2015') || c = ':' || c = '.'

/-- `_CLASS_NUMBER`. -/
def CLASS_NUMBER : Re :=
  .seqs [.boundary, .opt CLASS_WORD, .many p.isSpace, .group 1 (oneOrTwoDigits p),
    .opt (.words ["st", "nd", "rd", "th"]), .boundary]

/-- `_CLASS_ROMAN`. -/
def CLASS_ROMAN : Re :=
  .alt (.seqs [.boundary, CLASS_WORD, CLASS_SEP p, .group 1 ROMAN_ALT, .boundary])
    (.seqs [.boundary, .group 2 ROMAN_ALT, .many p.isSpace, .opt (.word "th"), CLASS_SEP p,
      CLASS_WORD, .boundary])

/-- `int(text)`, of decimal digits. -/
def intOf (digits : List Char) : Nat := digits.foldl (fun n c => 10 * n + p.digitValue c) 0

/-- Numeric grade. Digits win over Roman numerals. -/
def classNumber (value : Option String) : Option Nat :=
  (value.filter (!blank p ·)).bind fun v =>
    let text := p.lower (strip p.toTables v)
    let digits := (Re.search p.toTables (CLASS_NUMBER p) text).bind fun groups =>
      ((groups 1).map (intOf p)).filter fun n => 1 ≤ n && n ≤ 12
    digits.or ((Re.search p.toTables (CLASS_ROMAN p) text).bind fun groups =>
      ((groups 1).or (groups 2)).bind fun numeral => ROMAN.lookup (String.ofList numeral))

/-- The grades of a text, from the smallest to the greatest, if there are two. -/
def classRange (entry : String) : Option (Nat × Nat) :=
  match ((Re.findall p.toTables (oneOrTwoDigits p) entry).map fun m => intOf p m.1).filter
    fun n => 1 ≤ n && n ≤ 12 with
  | n :: m :: ns => some ((m :: ns).foldl min n, (m :: ns).foldl max n)
  | _ => none

/-- `'10th'`, `'class X'`, `'std 10'` to `'Class 10'`; a range stays a range. -/
def normalizeClass (value : Option String) : Option String :=
  (value.filter (!blank p ·)).map fun v =>
    let key := normalizeKey p v
    match PRESCHOOL.lookup key, ROMAN.lookup key with
    | some label, _ => label
    | none, some n => "Class " ++ toString n
    | none, none =>
      match (classRange p v).filter fun r => r.1 ≠ r.2 with
      | some (low, high) => "Class " ++ toString low ++ "-" ++ toString high
      | none =>
        match classNumber p (some v) with
        | some n => "Class " ++ toString n
        | none => titled p v

/-- Whether a list of classes covers the required one. -/
def teachesClass (required : Option String) (taught : List String) : Bool :=
  match normalizeClass p required with
  | none => true
  | some wantLabel =>
    let want := classNumber p required
    taught.any fun entry =>
      normalizeClass p (some entry) = some wantLabel ||
        want.any fun n => (classRange p entry).any fun r => r.1 ≤ n && n ≤ r.2

/-! ## Cities -/

/-- `_CITY_ALIASES`. -/
def CITY_ALIASES : List (String × String) :=
  [("gurgaon", "Gurugram"), ("gurugram", "Gurugram"), ("ggn", "Gurugram"),
    ("bangalore", "Bengaluru"), ("bengaluru", "Bengaluru"), ("blr", "Bengaluru"),
    ("newdelhi", "Delhi"), ("delhi", "Delhi"), ("ncr", "Delhi"), ("delhincr", "Delhi"),
    ("bombay", "Mumbai"), ("mumbai", "Mumbai"), ("calcutta", "Kolkata"), ("kolkata", "Kolkata"),
    ("madras", "Chennai"), ("chennai", "Chennai"), ("noida", "Noida"),
    ("greaternoida", "Greater Noida"), ("ghaziabad", "Ghaziabad"), ("faridabad", "Faridabad"),
    ("hyderabad", "Hyderabad"), ("pune", "Pune"), ("ahmedabad", "Ahmedabad"),
    ("jaipur", "Jaipur"), ("lucknow", "Lucknow"), ("chandigarh", "Chandigarh")]

/-- What the travel radius depends on. -/
inductive CityTier
  | metro | tier2 | default
  deriving DecidableEq, Repr

def CityTier.value : CityTier → String
  | .metro => "metro"
  | .tier2 => "tier2"
  | .default => "default"

/-- `_METRO`. -/
def METRO : List String :=
  ["Delhi", "Mumbai", "Bengaluru", "Chennai", "Kolkata", "Hyderabad", "Gurugram", "Noida", "Pune"]

/-- `_TIER2`. -/
def TIER2 : List String :=
  ["Ahmedabad", "Jaipur", "Lucknow", "Chandigarh", "Ghaziabad", "Faridabad", "Greater Noida"]

def normalizeCity (city : Option String) : Option String :=
  (city.filter (!blank p ·)).map fun c =>
    (CITY_ALIASES.lookup (normalizeKey p c)).getD (titled p c)

/-- Every spelling in small letters that means the same city, in order. -/
def cityAliases (city : String) : List String :=
  match normalizeCity p (some city) with
  | none => []
  | some canonical =>
    if canonical = "" then []
    else
      ((p.lower canonical :: (CITY_ALIASES.filter (·.2 = canonical)).map Prod.fst).eraseDups
        ).insertionSort (· ≤ ·)

def sameCity (left right : Option String) : Bool :=
  (normalizeCity p left).isSome && normalizeCity p left = normalizeCity p right

def cityTier (city : Option String) : CityTier :=
  match normalizeCity p city with
  | none => .default
  | some canonical =>
    if canonical ∈ METRO then .metro else if canonical ∈ TIER2 then .tier2 else .default

end NxTutors.Matching
