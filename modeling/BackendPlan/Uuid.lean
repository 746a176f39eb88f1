import BackendPlan.Text.Basic

/-!
# Uuid — 128-bit identifiers and their text

A UUID is thirty-two hexadecimal digits.  It is written in groups of 8, 4, 4, 4 and 12 with hyphens
between, in lower case; it is read in that form, without hyphens, in braces or as a URN, in either
case.

A text that is no UUID is refused with the first thing that is wrong with it: more bytes than any
form has, then a foreign character, then the number of digits or of groups, then the length of a
group.

* `text` — the written form.
* `ofText?` — reading, with the cause of a refusal.
-/

namespace BackendPlan

/-- **A UUID** — its thirty-two hexadecimal digits, so that equality does not depend on case or
form. -/
structure Uuid where
  digits : List (Fin 16)
  length_digits : digits.length = 32
deriving DecidableEq, Repr

namespace Uuid

/-- **Why a text is no UUID**: the first thing that `diagnose` finds wrong with it. -/
inductive Error where
  /-- A character that is neither a digit nor a hyphen, with its position in bytes. -/
  | invalidCharacter (c : Char) (position : Nat)
  /-- Digits without hyphens, in the wrong number, or a text that is too long for any form. -/
  | invalidLength (found : Nat)
  /-- Hyphens that do not make five groups. -/
  | invalidGroupCount (found : Nat)
  /-- A group, counted from zero, of the wrong length. -/
  | invalidGroupLength (group expected found : Nat)
deriving DecidableEq, Repr

def Error.message : Error → String
  | invalidCharacter c position => s!"invalid character: found `{c}` at {position}"
  | invalidLength found => s!"invalid length: found {found}"
  | invalidGroupCount found => s!"invalid group count: expected 5, found {found}"
  | invalidGroupLength group expected found =>
    s!"invalid group length in group {group}: expected {expected}, found {found}"

/-! ## Writing -/

def chars (u : Uuid) : List Char :=
  let cs := u.digits.map Text.hexDigit
  cs.take 8 ++ '-' :: ((cs.drop 8).take 4 ++ '-' :: ((cs.drop 12).take 4 ++
    '-' :: ((cs.drop 16).take 4 ++ '-' :: cs.drop 20)))

/-- **The written form** — lower case, in groups of 8, 4, 4, 4 and 12 with hyphens between. -/
def text (u : Uuid) : String := String.ofList u.chars

/-! ## Reading -/

/-- Thirty-two digits, without anything between. -/
def ofDigits? (cs : List Char) : Option Uuid :=
  match cs.mapM Text.hexValue? with
  | some ds => if h : ds.length = 32 then some ⟨ds, h⟩ else none
  | none => none

/-- Five groups with hyphens between, at the places that `text` gives them. -/
def ofGroups? (cs : List Char) : Option Uuid :=
  if cs.length = 36 ∧ [8, 13, 18, 23].all (fun i => cs[i]? == some '-') then
    ofDigits? (cs.take 8 ++ (cs.drop 9).take 4 ++ (cs.drop 14).take 4 ++ (cs.drop 19).take 4 ++
      cs.drop 24)
  else none

/-- The length of a text in bytes. -/
def byteLength : List Char → Nat
  | [] => 0
  | c :: cs => c.utf8Size + byteLength cs

def urnStart : List Char := ['u', 'r', 'n', ':', 'u', 'u', 'i', 'd', ':']

/-- What stands inside braces or behind the start of a URN, with its position. -/
def unwrap? (cs : List Char) : Option (List Char × Nat) :=
  match cs with
  | '\x7b' :: rest =>
    if rest.getLast? = some '\x7d' then some (rest.dropLast, 1) else none
  | _ =>
    if (cs.take urnStart.length).map Char.toLower = urnStart then
      some (cs.drop urnStart.length, urnStart.length)
    else none

/-- **The part that has the length of five groups with hyphens**: the whole text, or else what it
wraps. -/
def grouped? (cs : List Char) : Option (List Char) :=
  if byteLength cs = 36 then some cs
  else ((unwrap? cs).map (·.1)).filter fun body => byteLength body = 36

/-- The first character that is neither a digit nor a hyphen, with its position in bytes. -/
def firstForeign (position : Nat) : List Char → Option (Char × Nat)
  | [] => none
  | c :: cs =>
    if c = '-' ∨ (Text.hexValue? c).isSome then firstForeign (position + c.utf8Size) cs
    else some (c, position)

/-- The positions of the hyphens. -/
def hyphens (cs : List Char) : List Nat :=
  cs.zipIdx.filterMap fun (c, i) => if c = '-' then some i else none

/-- The length in bytes of the longest form, a URN. -/
def maxByteLength : Nat := 45

/-- What is wrong with hyphens that stand between digits and nothing else — the last group is blamed
for all that the text, `size` bytes long, has beyond the first four. -/
def diagnoseGroups (size : Nat) (body : List Char) : Error :=
  let breaks := hyphens body
  if breaks.length ≠ 4 then .invalidGroupCount (breaks.length + 1)
  else
    let groups := breaks.zip [(0, 0, 8), (1, 9, 4), (2, 14, 4), (3, 19, 4)]
    match groups.find? fun (stop, _, start, size) => stop ≠ start + size with
    | some (stop, group, start, size) => .invalidGroupLength group size (stop - start)
    | none => .invalidGroupLength 4 12 (size - 24)

/-- **What is wrong with a text that is no UUID** — positions count from the start of the text, but
where some part of it has the length of five groups, they count from the start of that part. -/
def diagnose (cs : List Char) : Error :=
  let size := byteLength cs
  if maxByteLength < size then .invalidLength size
  else
    let (body, start, bare) := match grouped? cs, unwrap? cs with
      | some body, _ => (body, 0, false)
      | none, some (body, start) => (body, start, false)
      | none, none => (cs, 0, true)
    match firstForeign start body with
    | some (c, position) => .invalidCharacter c position
    | none =>
      if bare ∧ hyphens body = [] then .invalidLength size else diagnoseGroups size body

def ofChars? (cs : List Char) : Option Uuid :=
  ofDigits? cs <|> (grouped? cs).bind ofGroups?

/-- **Read a UUID** in any of the four forms — plain, with hyphens, in braces or as a URN; what is
none is refused by `diagnose`. -/
def ofText? (s : String) : Except Error Uuid :=
  match ofChars? s.toList with
  | some u => .ok u
  | none => .error (diagnose s.toList)

end Uuid

end BackendPlan
