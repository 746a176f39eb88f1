import BackendPlan.Decimal
import BackendPlan.Json.Basic

/-!
# Json/Printer — documents as text, compact and indented

The compact text has no white space at all and is also the key under which a table stores an item,
so it has to tell any two values apart.  The indented text breaks every nonempty list and object
into lines, two spaces deeper per level.  Both write the members in the order in which the document
has them.

* `text` — the compact text.
* `prettyText` — the indented text.
-/

namespace BackendPlan.Json

/-! ## Scalars -/

/-- A character inside a string: `"`, the backslash and the controls below the space are escaped,
and nothing else is. -/
def stringChar (c : Char) : List Char :=
  match c with
  | '"' => ['\\', '"']
  | '\\' => ['\\', '\\']
  | '\x08' => ['\\', 'b']
  | '\x0c' => ['\\', 'f']
  | '\n' => ['\\', 'n']
  | '\r' => ['\\', 'r']
  | '\t' => ['\\', 't']
  | c =>
    if c.toNat < 0x20 then
      ['\\', 'u', '0', '0', Nat.digitChar (c.toNat / 16), Nat.digitChar (c.toNat % 16)]
    else [c]

def stringChars (s : String) : List Char := '"' :: (s.toList.flatMap stringChar ++ ['"'])

def intChars (n : Int) : List Char :=
  if n < 0 then '-' :: Nat.toDigits 10 n.natAbs else Nat.toDigits 10 n.natAbs

def boolChars : Bool → List Char
  | true => ['t', 'r', 'u', 'e']
  | false => ['f', 'a', 'l', 's', 'e']

def nullChars : List Char := ['n', 'u', 'l', 'l']

/-! ## The compact text

The items after the first each bring their comma, which is how a reader meets them. -/

mutual
/-- **The characters of a document**, members in the order in which it has them. -/
def chars : Json → List Char
  | .null => nullChars
  | .bool b => boolChars b
  | .whole n => intChars n.val
  | .float x => x.text
  | .str s => stringChars s
  | .arr [] => ['[', ']']
  | .arr (v :: vs) => '[' :: (v.chars ++ (moreItems vs ++ [']']))
  | .obj [] => ['\x7b', '\x7d']
  | .obj ((k, v) :: ms) =>
    '\x7b' :: (stringChars k ++ (':' :: (v.chars ++ (moreMembers ms ++ ['\x7d']))))

/-- The items after the first, each with the `,` before it. -/
def moreItems : List Json → List Char
  | [] => []
  | v :: vs => ',' :: (v.chars ++ moreItems vs)

def moreMembers : List (String × Json) → List Char
  | [] => []
  | (k, v) :: ms => ',' :: (stringChars k ++ (':' :: (v.chars ++ moreMembers ms)))
end

/-- **The compact text of a document**: for a value it is also the key of a stored item, so it must
tell values apart. -/
def text (v : Json) : String := String.ofList v.chars

@[simp] theorem toList_text (v : Json) : v.text.toList = v.chars := by simp [text]

/-! ## The indented text -/

/-- A new line, indented by two spaces for every `level`. -/
def newLine (level : Nat) : List Char := '\n' :: List.replicate (2 * level) ' '

mutual
/-- The characters of a document whose first line is indented to `level`. -/
def prettyChars (level : Nat) : Json → List Char
  | .null => nullChars
  | .bool b => boolChars b
  | .whole n => intChars n.val
  | .float x => x.text
  | .str s => stringChars s
  | .arr [] => ['[', ']']
  | .arr (v :: vs) =>
    '[' :: (newLine (level + 1) ++ prettyChars (level + 1) v ++ prettyItems (level + 1) vs ++
      newLine level ++ [']'])
  | .obj [] => ['\x7b', '\x7d']
  | .obj ((k, v) :: ms) =>
    '\x7b' :: (newLine (level + 1) ++ stringChars k ++ [':', ' '] ++ prettyChars (level + 1) v ++
      prettyMembers (level + 1) ms ++ newLine level ++ ['\x7d'])

/-- The items after the first, each on a new line. -/
def prettyItems (level : Nat) : List Json → List Char
  | [] => []
  | v :: vs => ',' :: (newLine level ++ prettyChars level v ++ prettyItems level vs)

def prettyMembers (level : Nat) : List (String × Json) → List Char
  | [] => []
  | (k, v) :: ms =>
    ',' :: (newLine level ++ stringChars k ++ [':', ' '] ++ prettyChars level v ++
      prettyMembers level ms)
end

/-- **The indented text of a document** — `prettyChars`, from the outermost level on. -/
def prettyText (v : Json) : String := String.ofList (prettyChars 0 v)

end BackendPlan.Json
