import BackendPlan.Json.Printer
import BackendPlan.Text.Basic

/-!
# Json/Reader — the value that a text denotes

The grammar of RFC 8259, read from the front: each reader takes the characters still to come and
gives what it read with the characters after it.  Objects come out sorted, so reading the text of
any document gives the value of that document.

A number is **whole** when it has neither point nor exponent, fits a 64-bit word and is not `-0`;
every other number is the nearest double, and a number too large for a double is refused.

* `ofText?` — the value of a whole text.
-/

namespace BackendPlan.Json

/-- Skip the white space that JSON allows between tokens — four characters, fewer than
`Text.isBlank` has. -/
def skipSpace (cs : List Char) : List Char :=
  cs.dropWhile fun c => c == ' ' || c == '\t' || c == '\n' || c == '\r'

/-! ## Strings -/

/-- The 16-bit unit of four hexadecimal digits, as in `\u00e9`. -/
def readUnit (a b c d : Char) : Option Nat := do
  let digits ← [a, b, c, d].mapM Text.hexValue?
  return digits.foldl (fun unit (digit : Fin 16) => 16 * unit + digit.val) 0

def shortEscape? : Char → Option Char
  | '"' => some '"'
  | '\\' => some '\\'
  | '/' => some '/'
  | 'b' => some '\x08'
  | 'f' => some '\x0c'
  | 'n' => some '\n'
  | 'r' => some '\r'
  | 't' => some '\t'
  | _ => none

/-- **The rest of a string after its opening quote**, and what follows the closing one — two escaped
surrogates make one character, and a surrogate by itself is refused. -/
def readStringRest : List Char → Option (List Char × List Char)
  | '"' :: cs => some ([], cs)
  | '\\' :: 'u' :: a :: b :: c :: d :: cs =>
    match readUnit a b c d with
    | none => none
    | some unit =>
      if unit < 0xD800 ∨ 0xDFFF < unit then
        (readStringRest cs).map fun (s, rest) => (Char.ofNat unit :: s, rest)
      else
        match cs with
        | '\\' :: 'u' :: e :: f :: g :: h :: cs =>
          match readUnit e f g h with
          | none => none
          | some low =>
            if unit < 0xDC00 ∧ 0xDC00 ≤ low ∧ low ≤ 0xDFFF then
              (readStringRest cs).map fun (s, rest) =>
                (Char.ofNat (0x10000 + 1024 * (unit - 0xD800) + (low - 0xDC00)) :: s, rest)
            else none
        | _ => none
  | '\\' :: c :: cs =>
    match shortEscape? c with
    | some e => (readStringRest cs).map fun (s, rest) => (e :: s, rest)
    | none => none
  | c :: cs =>
    if c.toNat < 0x20 then none
    else (readStringRest cs).map fun (s, rest) => (c :: s, rest)
  | [] => none

def readString : List Char → Option (String × List Char)
  | '"' :: cs => (readStringRest cs).map fun (s, rest) => (String.ofList s, rest)
  | _ => none

/-! ## Numbers -/

/-- **A number as it is written** — its digits before and after the point, and its exponent. -/
structure Numeral where
  negative : Bool
  whole : List Char
  fraction : Option (List Char)
  exponent : Option Int

namespace Numeral

/-- The `Decimal` that a numeral denotes, without its sign. -/
def decimal (n : Numeral) : Decimal :=
  let fraction := n.fraction.getD []
  ⟨Nat.ofDigitChars 10 (n.whole ++ fraction) 0, n.exponent.getD 0 - fraction.length⟩

/-- **The JSON number that a numeral denotes**: whole or a double, which the spelling decides;
`none` when it is infinite. -/
def value (n : Numeral) : Option Json :=
  let float := (Binary64.ofDecimal n.negative n.decimal).map Json.float
  match n.fraction, n.exponent with
  | none, none =>
    let magnitude : Int := Nat.ofDigitChars 10 n.whole 0
    if n.negative ∧ magnitude = 0 then float
    else
      match Whole.ofInt? (if n.negative then -magnitude else magnitude) with
      | some w => some (.whole w)
      | none => float
  | _, _ => float

end Numeral

/-- The digits in front, possibly none. -/
def readDigits (cs : List Char) : List Char × List Char :=
  (cs.takeWhile Char.isDigit, cs.dropWhile Char.isDigit)

def readDigits1 (cs : List Char) : Option (List Char × List Char) :=
  match readDigits cs with
  | ([], _) => none
  | (ds, rest) => some (ds, rest)

/-- The digits before the point — no `0` leads another digit, as the grammar asks. -/
def readWholePart (cs : List Char) : Option (List Char × List Char) :=
  match readDigits1 cs with
  | some ('0' :: _ :: _, _) => none
  | r => r

/-- The digits after the point, if there is a point; then there has to be a digit. -/
def readFraction : List Char → Option (Option (List Char) × List Char)
  | '.' :: cs => (readDigits1 cs).map fun (ds, rest) => (some ds, rest)
  | cs => some (none, cs)

def readExponent : List Char → Option (Option Int × List Char)
  | c :: cs =>
    if c = 'e' ∨ c = 'E' then
      match cs with
      | '-' :: cs =>
        (readDigits1 cs).map fun (ds, rest) => (some (-(Nat.ofDigitChars 10 ds 0 : Int)), rest)
      | '+' :: cs =>
        (readDigits1 cs).map fun (ds, rest) => (some (Nat.ofDigitChars 10 ds 0 : Int), rest)
      | cs =>
        (readDigits1 cs).map fun (ds, rest) => (some (Nat.ofDigitChars 10 ds 0 : Int), rest)
    else some (none, c :: cs)
  | [] => some (none, [])

def readUnsigned (negative : Bool) (cs : List Char) : Option (Numeral × List Char) := do
  let (integer, cs) ← readWholePart cs
  let (fraction, cs) ← readFraction cs
  let (exponent, cs) ← readExponent cs
  return (⟨negative, integer, fraction, exponent⟩, cs)

def readNumeral : List Char → Option (Numeral × List Char)
  | '-' :: cs => readUnsigned true cs
  | cs => readUnsigned false cs

def readNumber (cs : List Char) : Option (Json × List Char) := do
  let (n, rest) ← readNumeral cs
  return (← n.value, rest)

/-! ## Values

Each reader may call at most `steps` others one inside another.  A step uses up a character or ends
a value, so twice the length of the text is more than any text needs. -/

mutual
/-- **A value**, white space in front of it skipped, with what follows it — `steps` bounds how deep
the readers call each other. -/
def readValue (steps : Nat) (cs : List Char) : Option (Json × List Char) :=
  match steps with
  | 0 => none
  | steps + 1 =>
    match skipSpace cs with
    | 'n' :: rest => (Text.dropWord? ['u', 'l', 'l'] rest).map fun rest => (.null, rest)
    | 't' :: rest => (Text.dropWord? ['r', 'u', 'e'] rest).map fun rest => (.bool true, rest)
    | 'f' :: rest => (Text.dropWord? ['a', 'l', 's', 'e'] rest).map fun rest => (.bool false, rest)
    | '"' :: rest =>
      (readStringRest rest).map fun (s, rest) => (.str (String.ofList s), rest)
    | '[' :: rest =>
      match skipSpace rest with
      | ']' :: rest => some (.arr [], rest)
      | rest => do
        let (v, rest) ← readValue steps rest
        let (vs, rest) ← readMoreItems steps rest
        return (.arr (v :: vs), rest)
    | '\x7b' :: rest =>
      match skipSpace rest with
      | '\x7d' :: rest => some (.obj [], rest)
      | rest => do
        let (m, rest) ← readMember steps rest
        let (ms, rest) ← readMoreMembers steps rest
        return (.obj (Members.ofList (m :: ms)), rest)
    | rest => readNumber rest

/-- The items after the first, and the closing `]`. -/
def readMoreItems (steps : Nat) (cs : List Char) : Option (List Json × List Char) :=
  match steps with
  | 0 => none
  | steps + 1 =>
    match skipSpace cs with
    | ']' :: rest => some ([], rest)
    | ',' :: rest => do
      let (v, rest) ← readValue steps rest
      let (vs, rest) ← readMoreItems steps rest
      return (v :: vs, rest)
    | _ => none

def readMember (steps : Nat) (cs : List Char) : Option ((String × Json) × List Char) :=
  match steps with
  | 0 => none
  | steps + 1 => do
    let (key, rest) ← readString (skipSpace cs)
    match skipSpace rest with
    | ':' :: rest => do
      let (v, rest) ← readValue steps rest
      return ((key, v), rest)
    | _ => none

/-- The members after the first, and the closing brace. -/
def readMoreMembers (steps : Nat) (cs : List Char) :
    Option (List (String × Json) × List Char) :=
  match steps with
  | 0 => none
  | steps + 1 =>
    match skipSpace cs with
    | '\x7d' :: rest => some ([], rest)
    | ',' :: rest => do
      let (m, rest) ← readMember steps rest
      let (ms, rest) ← readMoreMembers steps rest
      return (m :: ms, rest)
    | _ => none
end

/-- **The value that a text denotes** — `none` if the text is not JSON, or if anything but white
space follows. -/
def ofText? (s : String) : Option Json :=
  let cs := s.toList
  match readValue (2 * cs.length + 2) cs with
  | some (v, rest) => if (skipSpace rest).isEmpty then some v else none
  | none => none

end BackendPlan.Json
