import BackendPlan.Json.Reader
import BackendPlan.Proofs.Decimal.Exact

/-!
# Proofs/Json/Numerals — numbers read back from their text

The text of a number is the text of a numeral, and reading finds that numeral again as long as
nothing behind it could belong to it:

  `Whole`, `Binary64`   →   `Numeral`   →   text   →   `Numeral`   →   `Whole`, `Binary64`.

A whole number is a numeral of digits only.  A double is a numeral with a point or an exponent that
denotes the decimal chosen for it; where the point stands changes the numeral and not its value.

* `readNumeral_chars` — **a well-formed numeral is read from its characters.**
* `value_wholeNumeral`, `exists_chars_eq_text` — whole numbers and doubles come back.
-/

namespace BackendPlan.Json

/-! ## Numerals as text -/

/-- What follows a number has nothing in front that would continue it: no digit, no `.` and no `e`
or `E`. -/
def EndsNumber (rest : List Char) : Prop :=
  ∀ c ∈ rest.head?, c.isDigit = false ∧ c ≠ '.' ∧ c ≠ 'e' ∧ c ≠ 'E'

namespace Numeral

/-- The point and the digits behind it. -/
def fractionChars : Option (List Char) → List Char
  | some ds => '.' :: ds
  | none => []

/-- The exponent, `e` and always a sign. -/
def exponentChars : Option Int → List Char
  | some e => 'e' :: (if e < 0 then '-' else '+') :: Nat.toDigits 10 e.natAbs
  | none => []

/-- The characters after the sign. -/
def unsignedChars (n : Numeral) : List Char :=
  n.whole ++ (fractionChars n.fraction ++ exponentChars n.exponent)

/-- **The characters of a numeral** — sign, digits, fraction and exponent, as `readNumeral` takes
them away. -/
def chars (n : Numeral) : List Char :=
  if n.negative then '-' :: n.unsignedChars else n.unsignedChars

/-- **A numeral of the grammar**: digits before the point, with no `0` leading another one, and at
least one behind it. -/
structure IsWellFormed (n : Numeral) : Prop where
  whole_ne_nil : n.whole ≠ []
  whole_digits : ∀ c ∈ n.whole, c.isDigit = true
  no_leading_zero : n.whole.head? = some '0' → n.whole = ['0']
  fraction_ne_nil : n.fraction ≠ some []
  fraction_digits : ∀ ds ∈ n.fraction, ∀ c ∈ ds, c.isDigit = true

end Numeral

/-! ## Digits -/

/-- `Nat.toDigits` leads with a `0` only when the number is zero. -/
theorem eq_zero_of_head?_toDigits {n : Nat} (h : (Nat.toDigits 10 n).head? = some '0') : n = 0 := by
  by_contra hn
  obtain ⟨c, cs, hcs, hc⟩ := Decimal.head_toDigits_ne_zero n hn
  rw [hcs] at h
  exact hc (Option.some.inj h)

theorem toDigits_no_leading_zero {n : Nat} (h : (Nat.toDigits 10 n).head? = some '0') :
    Nat.toDigits 10 n = ['0'] := by
  rw [eq_zero_of_head?_toDigits h]
  rfl

/-! ## Reading a numeral

One lemma per part of the grammar; each says which character may not follow. -/

theorem readDigits_append {ds rest : List Char} (hds : ∀ c ∈ ds, c.isDigit = true)
    (hrest : ∀ c ∈ rest.head?, c.isDigit = false) : readDigits (ds ++ rest) = (ds, rest) := by
  have hstop : rest.takeWhile Char.isDigit = [] ∧ rest.dropWhile Char.isDigit = rest := by
    cases rest with
    | nil => exact ⟨rfl, rfl⟩
    | cons c rest => simp [hrest c rfl]
  rw [readDigits, List.takeWhile_append_of_pos hds, List.dropWhile_append_of_pos hds, hstop.1,
    hstop.2, List.append_nil]

theorem readDigits1_append {ds rest : List Char} (hne : ds ≠ []) (hds : ∀ c ∈ ds, c.isDigit = true)
    (hrest : ∀ c ∈ rest.head?, c.isDigit = false) : readDigits1 (ds ++ rest) = some (ds, rest) := by
  rw [readDigits1, readDigits_append hds hrest]
  cases ds with
  | nil => exact absurd rfl hne
  | cons d ds => rfl

theorem readWholePart_append {ds rest : List Char} (hne : ds ≠ [])
    (hds : ∀ c ∈ ds, c.isDigit = true) (hzero : ds.head? = some '0' → ds = ['0'])
    (hrest : ∀ c ∈ rest.head?, c.isDigit = false) :
    readWholePart (ds ++ rest) = some (ds, rest) := by
  rw [readWholePart, readDigits1_append hne hds hrest]
  split
  · next h =>
    simp only [Option.some.injEq, Prod.mk.injEq] at h
    have := hzero (by rw [h.1]; rfl)
    simp [h.1] at this
  · rfl

theorem readFraction_append {fraction : Option (List Char)} {rest : List Char}
    (hne : fraction ≠ some []) (hds : ∀ ds ∈ fraction, ∀ c ∈ ds, c.isDigit = true)
    (hrest : ∀ c ∈ rest.head?, c.isDigit = false ∧ c ≠ '.') :
    readFraction (Numeral.fractionChars fraction ++ rest) = some (fraction, rest) := by
  cases fraction with
  | some ds =>
    rw [Numeral.fractionChars, List.cons_append, readFraction,
      readDigits1_append (by simpa using hne) (hds ds rfl) fun c hc => (hrest c hc).1]
    rfl
  | none =>
    rw [Numeral.fractionChars, List.nil_append, readFraction]
    rintro cs rfl
    exact (hrest '.' rfl).2 rfl

theorem readExponent_append {exponent : Option Int} {rest : List Char} (hrest : EndsNumber rest) :
    readExponent (Numeral.exponentChars exponent ++ rest) = some (exponent, rest) := by
  cases exponent with
  | some e =>
    have hdigits : readDigits1 (Nat.toDigits 10 e.natAbs ++ rest) =
        some (Nat.toDigits 10 e.natAbs, rest) :=
      readDigits1_append Nat.toDigits_ne_nil
        (fun _ => Nat.isDigit_of_mem_toDigits (by decide) (by decide)) fun c hc => (hrest c hc).1
    by_cases he : e < 0
    · simp only [Numeral.exponentChars, he, if_true, List.cons_append, readExponent, true_or,
        hdigits, Nat.ofDigitChars_ten_toDigits, Option.map_some]
      congr
      omega
    · simp only [Numeral.exponentChars, he, if_false, List.cons_append, readExponent, true_or,
        if_true, hdigits, Nat.ofDigitChars_ten_toDigits, Option.map_some]
      congr
      omega
  | none =>
    cases rest with
    | nil => rfl
    | cons c rest =>
      have := hrest c rfl
      simp [Numeral.exponentChars, readExponent, this]

/-- Neither a point nor an exponent continues the digits before it. -/
theorem head?_exponentChars_append (exponent : Option Int) {rest : List Char}
    (hrest : EndsNumber rest) :
    ∀ c ∈ (Numeral.exponentChars exponent ++ rest).head?, c.isDigit = false ∧ c ≠ '.' := by
  cases exponent with
  | some e =>
    rintro c ⟨⟩
    decide
  | none => exact fun c hc => ⟨(hrest c hc).1, (hrest c hc).2.1⟩

theorem head?_fractionChars_append {fraction : Option (List Char)} {rest : List Char}
    (hrest : ∀ c ∈ rest.head?, c.isDigit = false) :
    ∀ c ∈ (Numeral.fractionChars fraction ++ rest).head?, c.isDigit = false := by
  cases fraction with
  | some ds =>
    rintro c ⟨⟩
    decide
  | none => exact hrest

theorem readUnsigned_unsignedChars {n : Numeral} (hn : n.IsWellFormed) {rest : List Char}
    (hrest : EndsNumber rest) :
    readUnsigned n.negative (n.unsignedChars ++ rest) = some (n, rest) := by
  have hexp := head?_exponentChars_append n.exponent hrest
  simp only [Numeral.unsignedChars, List.append_assoc, readUnsigned,
    readWholePart_append hn.whole_ne_nil hn.whole_digits hn.no_leading_zero
      (head?_fractionChars_append fun c hc => (hexp c hc).1),
    readFraction_append hn.fraction_ne_nil hn.fraction_digits hexp, readExponent_append hrest,
    Option.bind_eq_bind, Option.bind_some]
  rfl

/-- **A well-formed numeral is read from its characters** — part by part, each ended by the first
character of the next. -/
theorem readNumeral_chars {n : Numeral} (hn : n.IsWellFormed) {rest : List Char}
    (hrest : EndsNumber rest) : readNumeral (n.chars ++ rest) = some (n, rest) := by
  have hread := readUnsigned_unsignedChars hn hrest
  cases hneg : n.negative with
  | true =>
    rw [hneg] at hread
    simpa [Numeral.chars, hneg, readNumeral] using hread
  | false =>
    rw [hneg] at hread
    simp only [Numeral.chars, hneg, Bool.false_eq_true, if_false]
    rw [readNumeral, hread]
    -- a digit comes first, so no sign is met
    intro cs hcs
    obtain ⟨d, ds, hd⟩ := List.exists_cons_of_ne_nil hn.whole_ne_nil
    rw [Numeral.unsignedChars, hd] at hcs
    obtain ⟨rfl, -⟩ := List.cons.inj hcs
    exact absurd (hn.whole_digits '-' (by simp [hd])) (by decide)

theorem readNumber_chars {n : Numeral} (hn : n.IsWellFormed) {v : Json} (hv : n.value = some v)
    {rest : List Char} (hrest : EndsNumber rest) :
    readNumber (n.chars ++ rest) = some (v, rest) := by
  simp [readNumber, readNumeral_chars hn hrest, hv]

/-! ## Whole numbers -/

/-- The numeral of a whole number. -/
def wholeNumeral (n : Int) : Numeral := ⟨decide (n < 0), Nat.toDigits 10 n.natAbs, none, none⟩

theorem chars_wholeNumeral (n : Int) : (wholeNumeral n).chars = intChars n := by
  simp [wholeNumeral, Numeral.chars, Numeral.unsignedChars, Numeral.fractionChars,
    Numeral.exponentChars, intChars]

theorem isWellFormed_wholeNumeral (n : Int) : (wholeNumeral n).IsWellFormed where
  whole_ne_nil := Nat.toDigits_ne_nil
  whole_digits _ := Nat.isDigit_of_mem_toDigits (by decide) (by decide)
  no_leading_zero := toDigits_no_leading_zero
  fraction_ne_nil := nofun
  fraction_digits := nofun

theorem value_wholeNumeral (n : Whole) : (wholeNumeral n.val).value = some (.whole n) := by
  have hsign : (if n.val < 0 then -(n.val.natAbs : Int) else n.val.natAbs) = n.val := by
    split <;> omega
  have hzero : ¬ (n.val < 0 ∧ (n.val.natAbs : Int) = 0) := by omega
  simp only [wholeNumeral, Numeral.value, Nat.ofDigitChars_ten_toDigits, decide_eq_true_eq, hzero,
    hsign, if_false, Whole.ofInt?_val]

/-! ## Doubles

The numerals of a double differ in where the point stands.  Each of them denotes the decimal that
was chosen, with zeros added at the end or in front. -/

/-- **A numeral writes a decimal** as the given characters — and not as a whole number, so it is
read as a double. -/
structure Numeral.Writes (n : Numeral) (d : Decimal) (cs : List Char) : Prop where
  wellFormed : n.IsWellFormed
  not_whole : n.fraction ≠ none ∨ n.exponent ≠ none
  unsignedChars_eq : n.unsignedChars = cs
  value_eq : n.decimal.value = d.value

/-- Digits that all stand before the point are followed by zeros up to it. -/
theorem positional_of_length_le {ds : List Char} {k : Nat} (h : ds.length ≤ k + 1) :
    Binary64.positional ds (k : Nat) =
      ds ++ List.replicate (k + 1 - ds.length) '0' ++ ['.', '0'] := by
  change Binary64.positional ds (.ofNat k) = _
  simp [Binary64.positional, List.take_of_length_le h, List.drop_of_length_le h]

theorem positional_of_lt_length {ds : List Char} {k : Nat} (h : k + 1 < ds.length) :
    Binary64.positional ds (k : Nat) = ds.take (k + 1) ++ '.' :: ds.drop (k + 1) := by
  change Binary64.positional ds (.ofNat k) = _
  have hne : ds.drop (k + 1) ≠ [] := by simp [List.drop_eq_nil_iff, h]
  simp [Binary64.positional, Nat.min_eq_left h.le, hne]

section Writing

variable (negative : Bool) {d : Decimal}

/-- `120.0`: all digits stand before the point. -/
theorem exists_writes_integral (hd : d.IsNormal) {k : Nat} (hk : d.lead = k)
    (hlen : Decimal.digitCount d.digits ≤ k + 1) :
    ∃ n : Numeral, n.negative = negative ∧
      n.Writes d (Binary64.positional (Nat.toDigits 10 d.digits) k) := by
  obtain ⟨digits, exponent⟩ := d
  simp only [Decimal.lead] at hk
  simp only [Decimal.digitCount] at hlen hk
  rw [positional_of_length_le hlen]
  have hvalue : Nat.ofDigitChars 10 (Nat.toDigits 10 digits) 0 = digits :=
    Nat.ofDigitChars_ten_toDigits
  generalize hds : Nat.toDigits 10 digits = ds at *
  have hne : ds ≠ [] := hds ▸ Nat.toDigits_ne_nil
  refine ⟨⟨negative, ds ++ List.replicate (k + 1 - ds.length) '0', some ['0'], none⟩, rfl,
    ⟨?_, ?_, ?_, by simp, ?_⟩, .inl (Option.some_ne_none _), ?_, ?_⟩
  · simp [hne]
  · simp only [List.mem_append]
    rintro c (hc | hc)
    · exact Nat.isDigit_of_mem_toDigits (by decide) (by decide) (hds ▸ hc)
    · exact List.eq_of_mem_replicate hc ▸ rfl
  · -- only zero leads with a zero, and in normal form it has no other digit
    intro hhead
    rw [List.head?_append_of_ne_nil _ hne, ← hds] at hhead
    obtain rfl := eq_zero_of_head?_toDigits hhead
    obtain rfl : exponent = 0 := by simpa [Decimal.IsNormal] using hd
    obtain rfl : ds = ['0'] := hds.symm
    have : k = 0 := by simpa using hk.symm
    simp [this]
  · rintro _ ⟨⟩ c hc
    rw [List.mem_singleton.1 hc]
    rfl
  · simp [Numeral.unsignedChars, Numeral.fractionChars, Numeral.exponentChars]
  · have hzeros : ds ++ List.replicate (k + 1 - ds.length) '0' ++ ['0'] =
        ds ++ List.replicate (k + 1 - ds.length + 1) '0' := by
      rw [List.replicate_succ', List.append_assoc]
    have hexp : (0 : Int) - 1 = exponent - (k + 1 - ds.length + 1 : Nat) := by omega
    simp only [Numeral.decimal, Option.getD_some, Option.getD_none, hzeros,
      Nat.ofDigitChars_append, hvalue, Nat.ofDigitChars_replicate_zero, Nat.mul_comm,
      List.length_singleton, Nat.cast_one, hexp, Decimal.value_mul_pow]

/-- `1.2`: the point stands between two digits. -/
theorem exists_writes_pointed {k : Nat} (hk : d.lead = k)
    (hlen : k + 1 < Decimal.digitCount d.digits) :
    ∃ n : Numeral, n.negative = negative ∧
      n.Writes d (Binary64.positional (Nat.toDigits 10 d.digits) k) := by
  obtain ⟨digits, exponent⟩ := d
  simp only [Decimal.lead, Decimal.digitCount] at hk hlen
  rw [positional_of_lt_length hlen]
  have hdigits : ∀ c ∈ Nat.toDigits 10 digits, c.isDigit = true :=
    fun _ => Nat.isDigit_of_mem_toDigits (by decide) (by decide)
  have hvalue : Nat.ofDigitChars 10 (Nat.toDigits 10 digits) 0 = digits :=
    Nat.ofDigitChars_ten_toDigits
  have hzero := toDigits_no_leading_zero (n := digits)
  generalize Nat.toDigits 10 digits = ds at *
  refine ⟨⟨negative, ds.take (k + 1), some (ds.drop (k + 1)), none⟩, rfl,
    ⟨?_, fun c hc => hdigits c (List.mem_of_mem_take hc), ?_, ?_, ?_⟩, .inl (Option.some_ne_none _),
      ?_, ?_⟩
  · intro hnil
    simp only [List.take_eq_nil_iff] at hnil
    rcases hnil with h | rfl
    · omega
    · exact absurd hlen (by simp)
  · intro hhead
    have := hzero (by simpa [List.head?_take] using hhead)
    rw [this] at hlen
    simp at hlen
  · simpa [List.drop_eq_nil_iff] using hlen
  · rintro _ ⟨⟩ c hc
    exact hdigits c (List.mem_of_mem_drop hc)
  · simp [Numeral.unsignedChars, Numeral.fractionChars, Numeral.exponentChars]
  · have hexp : (0 : Int) - (ds.length - (k + 1) : Nat) = exponent := by omega
    simp only [Numeral.decimal, Option.getD_some, Option.getD_none, List.take_append_drop, hvalue,
      List.length_drop, hexp]

/-- `0.012`: all digits stand behind the point. -/
theorem exists_writes_fractional {k : Nat} (hk : d.lead = .negSucc k) :
    ∃ n : Numeral, n.negative = negative ∧
      n.Writes d (Binary64.positional (Nat.toDigits 10 d.digits) (.negSucc k)) := by
  obtain ⟨digits, exponent⟩ := d
  simp only [Decimal.lead, Decimal.digitCount] at hk
  refine ⟨⟨negative, ['0'], some (List.replicate k '0' ++ Nat.toDigits 10 digits), none⟩, rfl,
    ⟨by simp, by simp, fun _ => rfl, ?_, ?_⟩, .inl (Option.some_ne_none _), ?_, ?_⟩
  · simp [Nat.toDigits_ne_nil]
  · rintro _ ⟨⟩ c hc
    rcases List.mem_append.1 hc with hc | hc
    · exact List.eq_of_mem_replicate hc ▸ rfl
    · exact Nat.isDigit_of_mem_toDigits (by decide) (by decide) hc
  · simp [Numeral.unsignedChars, Numeral.fractionChars, Numeral.exponentChars,
      Binary64.positional]
  · have hzeros : ['0'] ++ (List.replicate k '0' ++ Nat.toDigits 10 digits) =
        List.replicate (k + 1) '0' ++ Nat.toDigits 10 digits := by
      simp [List.replicate_succ]
    have hexp : (0 : Int) - (k + (Nat.toDigits 10 digits).length : Nat) = exponent := by
      rw [Int.negSucc_eq] at hk
      omega
    simp only [Numeral.decimal, Option.getD_some, Option.getD_none, hzeros,
      Nat.ofDigitChars_append, Nat.ofDigitChars_replicate_zero, Nat.mul_zero,
      Nat.ofDigitChars_ten_toDigits, List.length_append,
      List.length_replicate, hexp]

/-- `1.2e30`: one digit stands before the point, and the exponent says where it belongs. -/
theorem exists_writes_scientific :
    ∃ n : Numeral, n.negative = negative ∧
      n.Writes d (Binary64.scientific (Nat.toDigits 10 d.digits) d.lead) := by
  obtain ⟨digits, exponent⟩ := d
  have hlead : Decimal.lead ⟨digits, exponent⟩ =
      exponent + (Nat.toDigits 10 digits).length - 1 := rfl
  have hdigits : ∀ c ∈ Nat.toDigits 10 digits, c.isDigit = true :=
    fun _ => Nat.isDigit_of_mem_toDigits (by decide) (by decide)
  have hvalue : Nat.ofDigitChars 10 (Nat.toDigits 10 digits) 0 = digits :=
    Nat.ofDigitChars_ten_toDigits
  generalize Decimal.lead ⟨digits, exponent⟩ = lead at *
  simp only
  match hds : Nat.toDigits 10 digits with
  | [] => exact absurd hds Nat.toDigits_ne_nil
  | [c] =>
    rw [hds] at hlead hdigits hvalue
    refine ⟨⟨negative, [c], none, some lead⟩, rfl,
      ⟨by simp, hdigits, ?_, nofun, nofun⟩, .inr nofun, ?_, ?_⟩
    · simp
    · simp [Numeral.unsignedChars, Numeral.fractionChars, Numeral.exponentChars,
        Binary64.scientific]
    · simp only [List.length_singleton] at hlead
      simp only [Numeral.decimal, Option.getD_some, Option.getD_none, List.append_nil, hvalue,
        List.length_nil]
      congr
      omega
  | c :: c' :: cs =>
    rw [hds] at hlead hdigits hvalue
    refine ⟨⟨negative, [c], some (c' :: cs), some lead⟩, rfl,
      ⟨by simp, fun b hb => hdigits b ?_, ?_, nofun, ?_⟩, .inr nofun, ?_, ?_⟩
    · exact List.mem_singleton.1 hb ▸ List.mem_cons_self
    · simp
    · rintro _ ⟨⟩ b hb
      exact hdigits b (List.mem_cons_of_mem c hb)
    · simp [Numeral.unsignedChars, Numeral.fractionChars, Numeral.exponentChars,
        Binary64.scientific]
    · simp only [List.length_cons] at hlead
      simp only [Numeral.decimal, Option.getD_some, List.singleton_append, hvalue,
        List.length_cons]
      congr
      omega

end Writing

theorem isNormal_shortest (x : Binary64) : x.shortest.IsNormal := by
  rw [Binary64.shortest]
  split
  · simp [Decimal.IsNormal]
  · exact Decimal.isNormal_normalize _

/-- **The text of a double is a numeral** of the decimal chosen for it — which reads back, by
`ofDecimal_shortest`. -/
theorem exists_chars_eq_text (x : Binary64) :
    ∃ n : Numeral, n.IsWellFormed ∧ n.chars = x.text ∧ n.value = some (.float x) := by
  -- each way of writing the decimal ends here, once its numeral is known
  have hfinish : ∀ {n : Numeral} {cs : List Char}, n.negative = x.negative →
      n.Writes x.shortest cs → x.text = (if x.negative then '-' :: cs else cs) →
      n.IsWellFormed ∧ n.chars = x.text ∧ n.value = some (.float x) := by
    intro n cs hneg hn htext
    refine ⟨hn.wellFormed, by rw [htext, Numeral.chars, hneg, hn.unsignedChars_eq], ?_⟩
    have hread : Binary64.ofDecimal n.negative n.decimal = some x := by
      rw [hneg, Binary64.ofDecimal_congr hn.value_eq, Binary64.ofDecimal_shortest]
    rw [Numeral.value]
    split
    · next hf he => exact absurd hn.not_whole (by simp [hf, he])
    · simp [hread]
  by_cases hlead : -5 ≤ x.shortest.lead ∧ x.shortest.lead ≤ 15
  · have htext : x.text = if x.negative then
        '-' :: Binary64.positional (Nat.toDigits 10 x.shortest.digits) x.shortest.lead
      else Binary64.positional (Nat.toDigits 10 x.shortest.digits) x.shortest.lead := by
      simp only [Binary64.text, hlead, and_self, if_true]
    rcases hl : x.shortest.lead with k | k
    · rw [hl] at htext
      rcases Nat.lt_or_ge (k + 1) (Decimal.digitCount x.shortest.digits) with hlen | hlen
      · obtain ⟨n, hneg, hn⟩ := exists_writes_pointed x.negative hl hlen
        exact ⟨n, hfinish hneg hn htext⟩
      · obtain ⟨n, hneg, hn⟩ := exists_writes_integral x.negative (isNormal_shortest x) hl hlen
        exact ⟨n, hfinish hneg hn htext⟩
    · rw [hl] at htext
      obtain ⟨n, hneg, hn⟩ := exists_writes_fractional x.negative hl
      exact ⟨n, hfinish hneg hn htext⟩
  · obtain ⟨n, hneg, hn⟩ := exists_writes_scientific x.negative (d := x.shortest)
    exact ⟨n, hfinish hneg hn (by simp only [Binary64.text, hlead, if_false])⟩

end BackendPlan.Json
