import Mathlib.Init

/-!
# Parsed JSON

What a parser hands over, as a scripting language reads it: a value has a truth value and a
text, a dictionary is looked up, and a list is iterated. Of numbers only these two readings
matter, so a number is kept as them; of lists and dictionaries the text is kept as well.

`get?` and `iter?` are none where the language raises: not everything has keys, and not
everything can be iterated.
-/

namespace Text

/-- A JSON value. -/
inductive Json
  | null
  | bool (b : Bool)
  | number (zero : Bool) (text : String)
  | string (s : String)
  | array (text : String) (items : List Json)
  | object (text : String) (fields : List (String × Json))

namespace Json

/-- The truth value. -/
def truthy : Json → Bool
  | .null => false
  | .bool b => b
  | .number zero _ => !zero
  | .string s => s ≠ ""
  | .array _ items => !items.isEmpty
  | .object _ fields => !fields.isEmpty

/-- `str(value)`. -/
def text : Json → String
  | .null => "None"
  | .bool b => if b then "True" else "False"
  | .number _ text => text
  | .string s => s
  | .array text _ => text
  | .object text _ => text

/-- `str(value or "")`. -/
def textOrEmpty (j : Json) : String := if j.truthy then j.text else ""

/-- `a or b`. -/
def either (a b : Json) : Json := if a.truthy then a else b

/-- `value or {}`. -/
def orDict (j : Json) : Json := j.either (.object "{}" [])

/-- `value.get(key)`, of a dictionary. -/
def get? : Json → String → Option Json
  | .object _ fields, key => some ((fields.lookup key).getD .null)
  | _, _ => none

/-- `value.get(key, default)`, of a dictionary. -/
def getOr? : Json → String → Json → Option Json
  | .object _ fields, key, default => some ((fields.lookup key).getD default)
  | _, _, _ => none

/-- `value[key]`, if there is one. -/
def item? : Json → String → Option Json
  | .object _ fields, key => fields.lookup key
  | _, _ => none

/-- What `for x in value or []` goes over: the items of a list, the keys of a dictionary, the
characters of a text, and nothing if the value is not truthy. -/
def iter? (j : Json) : Option (List Json) :=
  if !j.truthy then some []
  else
    match j with
    | .array _ items => some items
    | .object _ fields => some (fields.map fun f => .string f.1)
    | .string s => some (s.toList.map fun c => .string (String.singleton c))
    | _ => none

@[simp] theorem textOrEmpty_null : textOrEmpty .null = "" := rfl

end Json

end Text
