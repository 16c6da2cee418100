import NxTutors.Text.Strings

/-!
# Regular expressions that try alternatives in order

Scripting languages do not ask whether some way of matching exists; they try the ways of
matching in a fixed order and take the first that works, and which text a group captured
depends on that order. `Re.run` is that search, written with a continuation: a pattern hands
each position it can end at, in order of preference, to what comes after it, and the first
position from which the rest succeeds wins. Trying the next one is trying the next answer of
`<|>`.
-/

namespace Text

/-- Where a match stands: the character before, the text ahead, and what each group has
captured. -/
structure Cursor where
  /-- the character just before this position -/
  before : Option Char
  /-- the text from here on -/
  rest : List Char
  /-- what the groups have captured -/
  groups : Nat → Option (List Char)

/-- A pattern. -/
inductive Re
  /-- matches nothing, at once -/
  | empty
  /-- one character of a class -/
  | one (p : Char → Bool)
  /-- one pattern after another -/
  | seq (a b : Re)
  /-- the first pattern, or else the second -/
  | alt (a b : Re)
  /-- as many characters of a class as possible -/
  | many (p : Char → Bool)
  /-- a pattern whose text is captured -/
  | group (n : Nat) (a : Re)
  /-- between a word character and none -/
  | boundary

namespace Re

/-- A word, letter by letter. -/
def word (s : String) : Re := s.toList.foldr (fun c r => .seq (.one (· == c)) r) .empty

/-- The first of several words that leads on. -/
def words : List String → Re
  | [] => .one fun _ => false
  | [s] => word s
  | s :: ss => .alt (word s) (words ss)

/-- A pattern, or nothing. -/
def opt (a : Re) : Re := .alt a .empty

/-- Several patterns in a row. -/
def seqs : List Re → Re
  | [] => .empty
  | a :: as => .seq a (seqs as)

variable {β : Type}

/-- Go over as many characters of a class as lead on, the longest way first. -/
def runMany (p : Char → Bool) (groups : Nat → Option (List Char))
    (k : Cursor → Option β) : Option Char → List Char → Option β
  | before, [] => k ⟨before, [], groups⟩
  | before, c :: cs =>
    if p c then runMany p groups k (some c) cs <|> k ⟨before, c :: cs, groups⟩
    else k ⟨before, c :: cs, groups⟩

/-- Match a pattern at a position and go on with `k`. -/
def run (t : Tables) : Re → (Cursor → Option β) → Cursor → Option β
  | .empty, k, at' => k at'
  | .one p, k, at' =>
    match at'.rest with
    | [] => none
    | c :: cs => if p c then k ⟨some c, cs, at'.groups⟩ else none
  | .seq a b, k, at' => a.run t (b.run t k) at'
  | .alt a b, k, at' => a.run t k at' <|> b.run t k at'
  | .many p, k, at' => runMany p at'.groups k at'.before at'.rest
  | .group n a, k, at' =>
    a.run t (fun end' => k { end' with
      groups := fun m => if m = n then
        some (at'.rest.take (at'.rest.length - end'.rest.length)) else end'.groups m }) at'
  | .boundary, k, at' =>
    if (at'.before.any t.isWord) != (at'.rest.head?.any t.isWord) then k at' else none

/-- `re.search`: the first position from which the pattern matches, and what it captured. -/
def search (t : Tables) (a : Re) (s : String) : Option (Nat → Option (List Char)) :=
  go none s.toList
where
  /-- Try every position from here on. -/
  go (before : Option Char) : List Char → Option (Nat → Option (List Char))
    | [] => a.run t (fun c => some c.groups) ⟨before, [], fun _ => none⟩
    | c :: cs =>
      a.run t (fun c => some c.groups) ⟨before, c :: cs, fun _ => none⟩ <|> go (some c) cs

end Re

end Text

/-!
## All matches of a pattern

`findall` goes over a text from left to right and takes every match that begins where the last one
ended or later. Ignoring case, a few letters match more than their two cases.
-/

namespace Text

/-- A small letter with its case ignored. -/
def Re.ignoreCase (c : Char) : Re :=
  .one fun x => x = c || x = c.toUpper || (c = 's' && x = 'ſ') ||
    (c = 'i' && (x = 'ı' || x = 'İ'))

/-- A word of small letters with their case ignored. -/
def Re.wordIgnoreCase (s : String) : Re :=
  s.toList.foldr (fun c r => .seq (.ignoreCase c) r) .empty

/-- `re.finditer`: the text of each match, and what its groups captured. -/
def Re.findall (t : Tables) (a : Re) (s : String) :
    List (List Char × (Nat → Option (List Char))) :=
  go (s.toList.length + 1) none s.toList
where
  /-- Look for a match from here on; there are at most so many positions. -/
  go : Nat → Option Char → List Char → List (List Char × (Nat → Option (List Char)))
    | 0, _, _ => []
    | n + 1, before, rest =>
      -- from the next position on, where this one does not lead further
      let later := match rest with
        | [] => []
        | c :: cs => go n (some c) cs
      match a.run t some ⟨before, rest, fun _ => none⟩ with
      | some end' =>
        let found := (rest.take (rest.length - end'.rest.length), end'.groups)
        if end'.rest.length < rest.length then found :: go n end'.before end'.rest
        else found :: later
      | none => later

end Text
