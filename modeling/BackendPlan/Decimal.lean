/-!
# Decimal — decimal numbers, and the doubles nearest to them

A decimal is a whole number of some power of ten.  The same number has many such forms; the one
whose last digit is not zero is its **normal form**, and everything that reads a decimal reads that
form, so `100000.0` and `1e5` are the same number from the start.

A finite double is a sign and a **magnitude word**: the lower 63 bits of its 64-bit pattern, read as
a number.  The words count the nonnegative doubles in order, so a carry out of the significand lands
in the exponent by itself, and rounding needs no case for it.

* `Binary64.ofRatio`, `Binary64.ofDecimal` — the nearest double, a half going to the even neighbour.
* `Binary64.shortest` — the fewest digits that tell a double from every other.  For one, two, …
  seventeen digits the two neighbours of the value on that decimal grid are tried, nearer one first;
  the first that reads back as the value wins.  The exact expansion stands behind them, so that
  `shortest` reads back by its very definition.
* `Binary64.text` — how it is written: in full where that stays readable, else with an exponent.
-/

namespace BackendPlan

/-! ## Decimals -/

/-- **A decimal number** `digits · 10 ^ exponent` — one number in many forms, of which `normalize`
picks one. -/
structure Decimal where
  digits : Nat
  exponent : Int
deriving DecidableEq, Repr

namespace Decimal

/-- The number of decimal digits of `n`; zero has one. -/
def digitCount (n : Nat) : Nat := (Nat.toDigits 10 n).length

/-- Drop zeros at the end of the digits, at most `count` of them — the bound makes the recursion
structural. -/
def dropZeros : Nat → Decimal → Decimal
  | 0, d => d
  | count + 1, d =>
    if d.digits % 10 = 0 then dropZeros count ⟨d.digits / 10, d.exponent + 1⟩ else d

/-- **The normal form**: zero as `0 · 10 ^ 0`, any other number with a last digit that is not
zero. -/
def normalize (d : Decimal) : Decimal :=
  if d.digits = 0 then ⟨0, 0⟩ else dropZeros (digitCount d.digits) d

/-- The exponent of the leading digit: `d` is at least `10 ^ lead` and below `10 ^ (lead + 1)`,
unless it is zero. -/
def lead (d : Decimal) : Int := d.exponent + digitCount d.digits - 1

end Decimal

/-! ## Double-precision numbers -/

/-- **A finite double-precision number**: both zeros are values of their own, so `=` is equality of
bit patterns. -/
structure Binary64 where
  negative : Bool
  /-- The pattern without the sign; `2047 · 2 ^ 52` would be infinity. -/
  magnitude : Fin 0x7FF0000000000000
deriving DecidableEq, Repr

namespace Binary64

/-- The number of fractions, `2 ^ 52`; it is also the word of the least normal number. -/
def fractions : Nat := 0x10000000000000

/-- **The significand**: the fraction bits, with the leading one of a normal number put back, so
below `2 ^ 53`. -/
def significand (x : Binary64) : Nat :=
  if x.magnitude.val < fractions then x.magnitude.val
  else fractions + x.magnitude.val % fractions

/-- The power of two that the `significand` counts. -/
def scale (x : Binary64) : Int :=
  if x.magnitude.val < fractions then -1074
  else (x.magnitude.val / fractions : Nat) - 1075

/-- The absolute value as a ratio of natural numbers: `significand · 2 ^ scale` without negative
powers. -/
def absRatio (x : Binary64) : Nat × Nat :=
  match x.scale with
  | .ofNat k => (x.significand * Nat.pow 2 k, 1)
  | .negSucc k => (x.significand, Nat.pow 2 (k + 1))

/-! ## Rounding

The unit is chosen so that the quotient has 53 bits, or is the least unit there is; the quotient is
rounded to a whole number of units, and unit and quotient together are the magnitude word. -/

/-- The whole number nearest to `num / den`, a half going to the even one. -/
def roundDiv (num den : Nat) : Nat :=
  let q := num / den
  let r := num % den
  if 2 * r < den then q
  else if den < 2 * r then q + 1
  else if q % 2 = 0 then q else q + 1

/-- The ratio `num / den` divided by `2 ^ k` — the power goes to the side where it is whole. -/
def divPow (num den : Nat) : Int → Nat × Nat
  | .ofNat k => (num, den * Nat.pow 2 k)
  | .negSucc k => (num * Nat.pow 2 (k + 1), den)

/-- **The exponent of the unit in which `num / den` is rounded** — the quotient has 53 bits there,
or fewer when the unit is the least one. -/
def unitExponent (num den : Nat) : Int :=
  let low := max ((num.log2 : Int) - den.log2 - 53) (-1074)
  let (n, d) := divPow num den low
  if n < 2 * fractions * d then low else low + 1

/-- **The double nearest to `± num / den`**: `none` when it would be infinite. -/
def ofRatio (negative : Bool) (num den : Nat) : Option Binary64 :=
  let unit := unitExponent num den
  let (n, d) := divPow num den unit
  let word := (unit + 1074).toNat * fractions + roundDiv n d
  if h : word < 0x7FF0000000000000 then some ⟨negative, ⟨word, h⟩⟩ else none

def zero (negative : Bool) : Binary64 := ⟨negative, ⟨0, by decide⟩⟩

/-! ## Decimals

Powers of ten are cut off where they cannot matter: from `10 ^ 400` on a number is infinite, and
below `10 ^ -400` it is nearer to zero than to the least double. -/

/-- **The double nearest to `± d`** — `none` when it would be infinite. -/
def ofDecimal (negative : Bool) (d : Decimal) : Option Binary64 :=
  let d := d.normalize
  if d.digits = 0 then some (zero negative)
  else if 400 ≤ d.lead then none
  else if d.lead < -400 then some (zero negative)
  else
    match d.exponent with
    | .ofNat k => ofRatio negative (d.digits * Nat.pow 10 k) 1
    | .negSucc k => ofRatio negative d.digits (Nat.pow 10 (k + 1))

end Binary64

/-! ## The fewest digits that read back -/

namespace Decimal

/-- The exponent of the leading digit of `num / den`: the largest `e` with `10 ^ e ≤ num / den`. -/
def leadOfRatio (num den : Nat) : Int :=
  if den ≤ num then (digitCount (num / den) : Int) - 1
  else
    let k := digitCount (den / num)
    if den ≤ num * Nat.pow 10 (k - 1) then 1 - (k : Int) else -(k : Int)

/-- **The two neighbours of `num / den` among the multiples of `10 ^ exponent`**, nearer one first;
at equal distance the one with an even last digit comes first. -/
def neighbours (num den : Nat) (exponent : Int) : List Decimal :=
  let (n, d) := match exponent with
    | .ofNat k => (num, den * Nat.pow 10 k)
    | .negSucc k => (num * Nat.pow 10 (k + 1), den)
  let below : Decimal := ⟨n / d, exponent⟩
  let above : Decimal := ⟨n / d + 1, exponent⟩
  let r := n % d
  if 2 * r < d ∨ (2 * r = d ∧ n / d % 2 = 0) then [below, above] else [above, below]

end Decimal

namespace Binary64

/-- The decimal, with the sign of `x`, reads as `x`. -/
def readsBack (x : Binary64) (d : Decimal) : Bool := ofDecimal x.negative d == some x

/-- The exact decimal expansion of the absolute value — finite, since a power of two divides a power
of ten. -/
def exactDecimal (x : Binary64) : Decimal :=
  match x.scale with
  | .ofNat k => ⟨x.significand * Nat.pow 2 k, 0⟩
  | .negSucc k => ⟨x.significand * Nat.pow 5 (k + 1), .negSucc k⟩

/-- The decimals tried for the absolute value: the `neighbours` with one digit, two digits, …
seventeen. -/
def candidates (x : Binary64) : List Decimal :=
  let (num, den) := x.absRatio
  let lead := Decimal.leadOfRatio num den
  (List.range 17).flatMap fun (more : Nat) => Decimal.neighbours num den (lead - more)

/-- **The shortest decimal that reads back as the absolute value of `x`**, the nearest of those — or
`exactDecimal`, should no candidate read back. -/
def shortest (x : Binary64) : Decimal :=
  if x.magnitude.val = 0 then ⟨0, 0⟩
  else ((x.candidates.find? x.readsBack).getD x.exactDecimal).normalize

theorem readsBack_of_find?_candidates {x : Binary64} {d : Decimal}
    (h : x.candidates.find? x.readsBack = some d) : ofDecimal x.negative d = some x := by
  have := List.find?_some h
  simpa [readsBack] using this

/-! ## The text of a number

Numbers from `10 ^ -5` up to `10 ^ 16` are written out, always with a point; the others have one
digit before the point, and an exponent that always has a sign. -/

/-- The digits written out, the first of them standing for a multiple of `10 ^ lead`. -/
def positional (digits : List Char) (lead : Int) : List Char :=
  match lead with
  | .ofNat k =>
    let whole := digits.take (k + 1)
    let rest := digits.drop (k + 1)
    whole ++ List.replicate (k + 1 - whole.length) '0' ++
      '.' :: if rest.isEmpty then ['0'] else rest
  | .negSucc k => '0' :: '.' :: (List.replicate k '0' ++ digits)

/-- The digits with one of them before the point, and the exponent `lead` with its sign. -/
def scientific (digits : List Char) (lead : Int) : List Char :=
  let point := match digits with
    | d :: e :: rest => d :: '.' :: e :: rest
    | short => short
  point ++ 'e' :: (if lead < 0 then '-' else '+') :: Nat.toDigits 10 lead.natAbs

/-- **The text of a double**: its `shortest` decimal, written out where that stays readable. -/
def text (x : Binary64) : List Char :=
  let d := x.shortest
  let digits := Nat.toDigits 10 d.digits
  let body :=
    if -5 ≤ d.lead ∧ d.lead ≤ 15 then positional digits d.lead else scientific digits d.lead
  if x.negative then '-' :: body else body

end Binary64

end BackendPlan
