import NxTutors.DemoAgent.Time
import Mathlib.Logic.Function.Basic

/-!
# Dictionaries of facts

Guards read a dictionary of facts, commands write to it, and a work item carries a payload
of the same shape: `dict[str, Any]` in the source. A dictionary is a partial function from
names to values, and merging is pointwise, the later dictionary winning. Of a value only
three things are ever asked: whether it is truthy, whether it equals a given constant, and
what it is as text.
-/

namespace NxTutors.DemoAgent

/-- A value of a dictionary of facts. -/
inductive Value
  | none
  | bool (b : Bool)
  | int (n : Int)
  | str (s : String)
  /-- a tuple of strings, such as the names of missing fields -/
  | strs (l : List String)
  /-- a slot, and its `str()` -/
  | slot (s : TimeSlot) (text : String)
  /-- any other object, through its truth value and its `str()` -/
  | other (truthy : Bool) (text : String)
  deriving DecidableEq, Repr

/-- The truth value of a value. -/
def Value.truthy : Value → Bool
  | .none => false
  | .bool b => b
  | .int n => n ≠ 0
  | .str s => s ≠ ""
  | .strs l => l ≠ []
  | .slot _ _ => true
  | .other truthy _ => truthy

/-- `str(value)`. -/
def Value.text : Value → String
  | .none => "None"
  | .bool b => if b then "True" else "False"
  | .int n => toString n
  | .str s => s
  | .strs [s] => "('" ++ s ++ "',)"
  | .strs l => "(" ++ ", ".intercalate (l.map fun s => "'" ++ s ++ "'") ++ ")"
  | .slot _ text => text
  | .other _ text => text

/-- `str(value or "")`: the text of a truthy value, and nothing otherwise. -/
def Value.textOrEmpty (v : Value) : String := if v.truthy then v.text else ""

/-- An optional string as a value. -/
def Value.ofOption : Option String → Value
  | some s => .str s
  | .none => .none

/-- A dictionary of facts. -/
abbrev Facts := String → Option Value

namespace Facts

/-- The empty dictionary. -/
def empty : Facts := fun _ => .none

/-- `facts.get(name)`: the value under a name, `None` if there is none. -/
def get (facts : Facts) (name : String) : Value := (facts name).getD .none

/-- `facts[name] = value`. -/
def set (facts : Facts) (name : String) (value : Value) : Facts :=
  Function.update facts name (some value)

/-- `{**base, **extra}`. -/
def merge (base extra : Facts) : Facts := fun n => (extra n).or (base n)

/-- The entries whose name is in `names`. -/
def restrict (facts : Facts) (names : List String) : Facts :=
  fun n => if n ∈ names then facts n else .none

/-- A dictionary written out. -/
def ofList (entries : List (String × Value)) : Facts :=
  fun n => (entries.find? fun e => e.1 = n).map Prod.snd

@[simp] theorem get_empty (name : String) : empty.get name = .none := rfl

@[simp] theorem empty_apply (name : String) : empty name = .none := rfl

end Facts

end NxTutors.DemoAgent
