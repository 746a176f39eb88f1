import BackendPlan.Json.Printer
import BackendPlan.Text.Basic

/-!
# Payload — what a caller hands over to be stored

A caller's data is not JSON yet: it may hold numbers of any size, infinities, maps whose keys are
numbers or no texts at all, and parts that fail by themselves.  `Payload.encode` gives the JSON
value it becomes, members sorted, or the first reason why it becomes none.

Data may give a reason in its own words, and the reason may end with a place in some document, as in
`bad date at line 3 column 14`.  A `Refusal` keeps words and place apart, so that the place is
written in one way only: without leading zeros, and not at all when it is in line zero, where no
text is.

* `Refusal.ofText`, `Refusal.text` — the place is taken off the end, if there is one, and put back.
* `Payload.encode_json` — what is JSON already stays as it is.
-/

namespace BackendPlan

/-! ## Refusals -/

/-- **Why data refuses to be encoded**: its `words`, and apart from them the line and the column it
blames. -/
structure Refusal where
  words : String
  place : Option (Nat × Nat) := none
deriving DecidableEq, Repr

namespace Refusal

def lineWord : List Char := [' ', 'a', 't', ' ', 'l', 'i', 'n', 'e', ' ']

def columnWord : List Char := [' ', 'c', 'o', 'l', 'u', 'm', 'n', ' ']

/-- Numbers of lines and columns have 64 bits, so a longer row of digits is no number but
`words`. -/
def numberBound : Nat := 0x10000000000000000

/-- The number at the end of a text and what stands before it — both in reverse, as the end is where
reading starts. -/
def lastNumber? (reversed : List Char) : Option (Nat × List Char) :=
  let digits := (reversed.takeWhile Char.isDigit).reverse
  let n := Nat.ofDigitChars 10 digits 0
  if digits ≠ [] ∧ n < numberBound then some (n, reversed.dropWhile Char.isDigit) else none

/-- A text that ends with a place, as the words before it with the line and the column. -/
def split? (cs : List Char) : Option (List Char × Nat × Nat) := do
  let (column, rest) ← lastNumber? cs.reverse
  let rest ← Text.dropWord? columnWord.reverse rest
  let (line, rest) ← lastNumber? rest
  let rest ← Text.dropWord? lineWord.reverse rest
  return (rest.reverse, line, column)

/-- **The refusal that a text gives**: what `split?` finds at its end; a place in line zero is
dropped, where no text is. -/
def ofText (s : String) : Refusal :=
  match split? s.toList with
  | some (words, line, column) =>
    { words := String.ofList words, place := if line = 0 then none else some (line, column) }
  | none => { words := s }

/-- **The wording of a refusal**: words and place put together again, the place without leading
zeros. -/
def text (r : Refusal) : String :=
  match r.place with
  | some (line, column) => s!"{r.words} at line {line} column {column}"
  | none => r.words

end Refusal

/-! ## Payloads -/

/-- **A caller's data** — by what its encoder is told of it, which is all that storing depends
on. -/
inductive Payload where
  /-- Data that is JSON already. -/
  | json (v : Json)
  /-- An integer of any size. -/
  | int (n : Int)
  | float (x : Binary64)
  /-- An infinity, or no number at all; JSON has only null for it. -/
  | nonFinite
  | list (items : List Payload)
  | object (members : List (String × Payload))
  /-- A map from integers. -/
  | numbered (entries : List (Int × Payload))
  /-- A map whose keys cannot become texts. -/
  | unkeyable
  /-- Data that refuses to be encoded, in its own words. -/
  | failing (reason : String)

namespace Payload

inductive Error where
  | numberOutOfRange
  | keyNotText
  | refused (cause : Refusal)
deriving DecidableEq, Repr

def Error.message : Error → String
  | numberOutOfRange => "number out of range"
  | keyNotText => "key must be a string"
  | refused cause => cause.text

mutual
/-- **The JSON value of a caller's data**, or the first reason, in the order of the data, why it has
none. -/
def encode : Payload → Except Error Json
  | .json v => .ok v
  | .int n =>
    match Whole.ofInt? n with
    | some w => .ok (.whole w)
    | none => .error .numberOutOfRange
  | .float x => .ok (.float x)
  | .nonFinite => .ok .null
  | .list items => do return .arr (← encodeItems items)
  | .object members => do return .obj (Members.ofList (← encodeMembers members))
  | .numbered entries => do return .obj (Members.ofList (← encodeEntries entries))
  | .unkeyable => .error .keyNotText
  | .failing reason => .error (.refused (.ofText reason))

def encodeItems : List Payload → Except Error (List Json)
  | [] => .ok []
  | v :: vs => do
    let v ← v.encode
    return v :: (← encodeItems vs)

def encodeMembers : List (String × Payload) → Except Error (List (String × Json))
  | [] => .ok []
  | (k, v) :: ms => do
    let v ← v.encode
    return (k, v) :: (← encodeMembers ms)

/-- The entries of a map from integers — the keys become decimal texts. -/
def encodeEntries : List (Int × Payload) → Except Error (List (String × Json))
  | [] => .ok []
  | (k, v) :: es => do
    let v ← v.encode
    return (String.ofList (Json.intChars k), v) :: (← encodeEntries es)
end

@[simp] theorem encode_json (v : Json) : encode (.json v) = .ok v := by
  simp [encode]

end Payload

end BackendPlan
