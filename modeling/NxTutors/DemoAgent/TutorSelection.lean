import NxTutors.DemoAgent.Records
import NxTutors.Text.Strings

/-!
# Tutor selection

A tutor reference may only enter the booking path from the candidates we stored when we
presented them. `resolve` maps what the parent said, an ordinal, a button or a name, onto
one of those candidates; the reference is looked up, never accepted.
-/

namespace NxTutors.DemoAgent

open Text (Tables)

/-- Ordinals a parent actually types, and the position each stands for. -/
def ORDINALS : List (String × Nat) :=
  [("1", 1), ("one", 1), ("first", 1), ("pehla", 1), ("a", 1),
    ("2", 2), ("two", 2), ("second", 2), ("dusra", 2), ("b", 2),
    ("3", 3), ("three", 3), ("third", 3), ("teesra", 3), ("c", 3)]

def REJECT_WORDS : List String :=
  ["none", "neither", "no one", "nobody", "other", "others", "different", "someone else",
    "koi aur", "dusra dikhao", "alternatives", "more options"]

/-- A resolved choice. The candidate is always one of those presented. -/
structure Selection where
  candidate : Option TutorCandidate := none
  rejectedAll : Bool := false
  ambiguous : Bool := false
  reason : String := ""
  deriving DecidableEq, Repr

/-- The ordinal of a button named `label:1`, `label:2` or `label:3`. The `$` of the source's
pattern also matches before a newline that ends the text. -/
def buttonOrdinal (label tapped : String) : Option Nat :=
  [1, 2, 3].find? fun n =>
    tapped = label ++ ":" ++ toString n || tapped = label ++ ":" ++ toString n ++ "\n"

def isLatinLower (c : Char) : Bool := 'a' ≤ c && c ≤ 'z'

def isLatinLowerOrDigit (c : Char) : Bool := isLatinLower c || ('0' ≤ c && c ≤ '9')

/-- `re.findall(r"[a-z]{3,}", text)`: the runs of at least three small letters. -/
def nameTokens (text : String) : List String :=
  ((Text.runs isLatinLower text).filter fun run => 3 ≤ run.length).map String.ofList

/-- Candidates of whose name some part of three letters or more is a token of the text. -/
def matchByName (t : Tables) (text : String) (candidates : List TutorCandidate) :
    List TutorCandidate :=
  candidates.filter fun candidate =>
    (((Text.split t candidate.name).filter fun part => 3 ≤ part.length).map t.lower).any
      (· ∈ nameTokens text)

/-- The candidates the ordinals of the text stand for, each once. -/
def matchByOrdinal (text : String) (candidates : List TutorCandidate) : List TutorCandidate :=
  ((Text.runs isLatinLowerOrDigit text).map String.ofList).foldl
    (fun hits token =>
      match (ORDINALS.lookup token).bind fun n => candidates[n - 1]? with
      | none => hits
      | some found => if found ∈ hits then hits else hits ++ [found])
    []

/-- Map what the parent said onto one of the candidates we showed them. -/
def resolve (t : Tables) (text : String) (candidates : List TutorCandidate)
    (buttonId : Option String) : Selection :=
  if candidates = [] then { reason := "no_candidates_presented" }
  else
    match buttonId.bind fun b => buttonOrdinal "tutor" (t.lower (Text.strip t b)) with
    | some n =>
      match candidates[n - 1]? with
      | some candidate => { candidate := some candidate }
      | none => { reason := "button_ordinal_out_of_range" }
    | none =>
      let lowered := Text.squash t text
      if lowered = "" then { reason := "empty_selection" }
      else if Text.containsAny lowered REJECT_WORDS then
        { rejectedAll := true, reason := "alternatives_requested" }
      else
        match matchByName t lowered candidates with
        | [candidate] => { candidate := some candidate }
        | _ :: _ :: _ => { ambiguous := true, reason := "multiple_name_matches" }
        | [] =>
          match matchByOrdinal lowered candidates with
          | [candidate] => { candidate := some candidate }
          | _ :: _ :: _ => { ambiguous := true, reason := "multiple_ordinals" }
          | [] => { reason := "unrecognised_selection" }

end NxTutors.DemoAgent
