/-!
# Text/Basic — white space, fixed words and hexadecimal digits

The readers and checks of the library go through a text character by character, and need three
things of it: what counts as white space, a fixed word at the front, and the value of a digit.

* `isBlank`, `trim` — **trimming** drops the white space at both ends; a text of white space only is
  a **blank** one, `isBlankText`.
* `dropWord?` — a word is taken off the texts that start with it.
* `hexValue?_hexDigit` — reading a digit undoes writing it.

White space is the Unicode property White_Space, so a no-break space or a line separator counts and
a zero-width space does not.
-/

namespace BackendPlan

/-! ## White space -/

namespace Text

/-- The code points of the property White_Space, as ranges with both ends included. -/
def blankRanges : List (Nat × Nat) :=
  [(0x9, 0xD), (0x20, 0x20), (0x85, 0x85), (0xA0, 0xA0), (0x1680, 0x1680), (0x2000, 0x200A),
   (0x2028, 0x2029), (0x202F, 0x202F), (0x205F, 0x205F), (0x3000, 0x3000)]

/-- **The character is white space**: one of the 25 code points in `blankRanges`, so a no-break
space counts and a zero-width space does not. -/
def isBlank (c : Char) : Bool :=
  blankRanges.any fun (first, last) => decide (first ≤ c.toNat) && decide (c.toNat ≤ last)

/-! ## Trimming

Trimming works on lists of characters; a text is trimmed through its list.  The end is trimmed by
the same operation on the reversed list, so one lemma about `dropWhile` serves both ends. -/

def trimStart (cs : List Char) : List Char := cs.dropWhile isBlank

/-- Drop the white space at the end — `trimStart` of the reversed list, so that what is known of
`List.dropWhile` serves both ends. -/
def trimEnd (cs : List Char) : List Char := (cs.reverse.dropWhile isBlank).reverse

/-- **Drop the white space at both ends** of a text, by way of its list of characters. -/
def trim (s : String) : String := String.ofList (trimEnd (trimStart s.toList))

/-- The text holds white space only; the empty text does. -/
def isBlankText (s : String) : Bool := s.toList.all isBlank

/-! ## Words -/

/-- Take a fixed word off the front of a list of characters: `none` if the list starts otherwise. -/
def dropWord? : List Char → List Char → Option (List Char)
  | [], cs => some cs
  | w :: word, c :: cs => if w = c then dropWord? word cs else none
  | _ :: _, [] => none

/-! ## Hexadecimal digits -/

/-- The digit of a value, in lower case. -/
def hexDigit (n : Fin 16) : Char := Nat.digitChar n.val

/-- The value of a digit — of either case, since texts that are read come from elsewhere. -/
def hexValue? (c : Char) : Option (Fin 16) :=
  if h : '0'.toNat ≤ c.toNat ∧ c.toNat ≤ '9'.toNat then
    some ⟨c.toNat - 48, by have : c.toNat ≤ 57 := h.2; omega⟩
  else if h : 'a'.toNat ≤ c.toNat ∧ c.toNat ≤ 'f'.toNat then
    some ⟨c.toNat - 87, by have : c.toNat ≤ 102 := h.2; omega⟩
  else if h : 'A'.toNat ≤ c.toNat ∧ c.toNat ≤ 'F'.toNat then
    some ⟨c.toNat - 55, by have : c.toNat ≤ 70 := h.2; omega⟩
  else none

/-- **Reading a digit undoes writing it.** -/
@[simp] theorem hexValue?_hexDigit (n : Fin 16) : hexValue? (hexDigit n) = some n := by
  revert n; decide

end Text

end BackendPlan
