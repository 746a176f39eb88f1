import BackendPlan.Proofs.Json.Numerals
import BackendPlan.Proofs.Text.Trim
import BackendPlan.Time

/-!
# Proofs/Time/RoundTrip — a timestamp is read back from its text

The written form is one of the many that are read.  The reader takes it part by part,

    year - month - day T hour : minute : second decimals Z

and each part takes exactly what was written for it, because what follows does not continue it.

* `ofDigitChars_padded` — padded digits denote their number.
* `year_append`, `bounded_append`, `fraction_append` — **every part is read from its characters**.
* `ofText?_text` — so is the whole, and a time in UTC stays where it is.
-/

namespace BackendPlan.Timestamp

/-! ## Digits -/

theorem length_padded (width n : Nat) : (padded width n).length = width := by
  induction width generalizing n with
  | zero => rfl
  | succ width ih => rw [padded, List.length_append, ih, List.length_singleton]

theorem padded_ne_nil {width n : Nat} : padded (width + 1) n ≠ [] :=
  List.ne_nil_of_length_eq_add_one (length_padded _ n)

theorem isDigit_of_mem_padded {width n : Nat} {c : Char} (h : c ∈ padded width n) :
    c.isDigit = true := by
  induction width generalizing n with
  | zero => exact absurd h List.not_mem_nil
  | succ width ih =>
    rcases List.mem_append.1 h with h | h
    · exact ih h
    · obtain rfl := List.mem_singleton.1 h
      rw [Nat.isDigit_digitChar]
      exact decide_eq_true (Nat.mod_lt n (by norm_num))

/-- **`padded` digits denote their number**, if there is room for it — the zeros in front count for
nothing. -/
theorem ofDigitChars_padded {width n : Nat} (h : n < 10 ^ width) :
    Nat.ofDigitChars 10 (padded width n) 0 = n := by
  induction width generalizing n with
  | zero =>
    obtain rfl : n = 0 := Nat.lt_one_iff.1 h
    rfl
  | succ width ih =>
    have hfront : n / 10 < 10 ^ width := Nat.div_lt_of_lt_mul (by rwa [← Nat.pow_succ'])
    have hlast : (Nat.digitChar (n % 10)).toNat = 48 + n % 10 :=
      Nat.toNat_digitChar_of_lt_ten (Nat.mod_lt n (by norm_num))
    have hzero : '0'.toNat = 48 := rfl
    rw [padded, Nat.ofDigitChars_append, ih hfront, Nat.ofDigitChars_cons, Nat.ofDigitChars_nil,
      hlast, hzero]
    omega

/-- A digit is no white space. -/
theorem isBlank_of_isDigit {c : Char} (h : c.isDigit = true) : Text.isBlank c = false := by
  obtain ⟨hlow, hhigh⟩ := Bool.and_eq_true_iff.1 h
  have hge : 48 ≤ c.toNat := UInt32.le_iff_toNat_le.1 (of_decide_eq_true hlow)
  have hle : c.toNat ≤ 57 := UInt32.le_iff_toNat_le.1 (of_decide_eq_true hhigh)
  have hten : ∀ n < 10, (Text.blankRanges.any fun range =>
      decide (range.1 ≤ 48 + n) && decide (48 + n ≤ range.2)) = false := by decide
  obtain ⟨n, hn⟩ := Nat.exists_eq_add_of_le hge
  rw [Text.isBlank, hn]
  exact hten n (by omega)

/-! ## Months -/

/-- A month with days is one of the twelve — `daysInMonth` of any other is 0. -/
theorem bounds_of_le_daysInMonth {year : Int} {month : Nat} (h : 1 ≤ daysInMonth year month) :
    1 ≤ month ∧ month ≤ 12 := by
  unfold daysInMonth at h
  split at h <;> omega

theorem daysInMonth_le (year : Int) (month : Nat) : daysInMonth year month ≤ 31 := by
  unfold daysInMonth
  split
  · split <;> norm_num
  all_goals norm_num

/-! ## Parts

Each part is read from the front of the characters still to come, and leaves the rest. -/

namespace Reader

variable {α β : Type} {cs rest : List Char}

/-- A reader that succeeds hands on what it leaves — the one rule by which `parts` is taken
apart. -/
theorem bind_of_ok {x : Reader α} {a : α} (f : α → Reader β) (h : x cs = .ok (a, rest)) :
    (x >>= f) cs = f a rest := by
  change (x cs >>= fun (a, rest) => f a rest) = f a rest
  rw [h]
  rfl

/-- `skipBlanks` skips in vain where there is no white space. -/
theorem skipBlanks_cons {c : Char} (hc : Text.isBlank c = false) :
    skipBlanks (c :: rest) = .ok ((), c :: rest) :=
  congrArg (fun cs => Except.ok ((), cs)) (Text.trimStart_cons_of_not_isBlank hc)

theorem skipBlanks_append {ds : List Char} (hne : ds ≠ []) (hds : ∀ c ∈ ds, c.isDigit = true) :
    skipBlanks (ds ++ rest) = .ok ((), ds ++ rest) := by
  obtain ⟨d, ds, rfl⟩ := List.exists_cons_of_ne_nil hne
  exact skipBlanks_cons (isBlank_of_isDigit (hds d List.mem_cons_self))

/-- `mark` takes a character where it stands. -/
theorem mark_cons {c : Char} (hc : Text.isBlank c = false) :
    mark c (c :: rest) = .ok ((), rest) := by
  have hexactly : exactly c (c :: rest) = .ok ((), rest) := by
    rw [exactly, bind_of_ok _ rfl]
    dsimp only
    rw [if_pos rfl]
    rfl
  exact (bind_of_ok _ (skipBlanks_cons hc)).trans hexactly

/-- **Digits are taken up to what is no digit**, or to as many as there may be — the two ways in
which a number ends. -/
theorem digits_append {limit : Nat} {ds : List Char} (hne : ds ≠ [])
    (hds : ∀ c ∈ ds, c.isDigit = true) (hlimit : ds.length ≤ limit)
    (hend : ds.length = limit ∨ ∀ c ∈ rest.head?, c.isDigit = false) :
    digits limit (ds ++ rest) = .ok (ds, rest) := by
  have htake : ((ds ++ rest).take limit).takeWhile Char.isDigit = ds := by
    rw [List.take_append, List.take_of_length_le hlimit, List.takeWhile_append_of_pos hds]
    have hstop : (rest.take (limit - ds.length)).takeWhile Char.isDigit = [] := by
      rcases hend with hfull | hrest
      · rw [hfull, Nat.sub_self]
        rfl
      · cases rest with
        | nil => rw [List.take_nil, List.takeWhile_nil]
        | cons c rest =>
          cases limit - ds.length with
          | zero => rfl
          | succ k => exact List.takeWhile_cons_of_neg (by simp [hrest c rfl])
    rw [hstop, List.append_nil]
  have hdrop : (ds ++ rest).drop ds.length = rest := List.drop_left
  obtain ⟨d, ds, rfl⟩ := List.exists_cons_of_ne_nil hne
  rw [List.cons_append] at htake hdrop ⊢
  rw [digits, bind_of_ok _ rfl]
  dsimp only
  rw [if_pos (hds d List.mem_cons_self), htake, hdrop]
  rfl

/-- `number` of the digits. -/
theorem number_append {limit : Nat} {ds : List Char} (hne : ds ≠ [])
    (hds : ∀ c ∈ ds, c.isDigit = true) (hlimit : ds.length ≤ limit)
    (hend : ds.length = limit ∨ ∀ c ∈ rest.head?, c.isDigit = false) :
    number limit (ds ++ rest) = .ok (Nat.ofDigitChars 10 ds 0, rest) :=
  bind_of_ok _ (digits_append hne hds hlimit hend)

/-- **A number of two digits is read within its bounds** — month, day, hour, minute and second are
of this form. -/
theorem bounded_append {low high n : Nat} (hlow : low ≤ n) (hhigh : n ≤ high) (hn : n < 100) :
    bounded low high (padded 2 n ++ rest) = .ok (n, rest) := by
  have hroom : n < 10 ^ 2 := hn
  have hnumber : number 2 (padded 2 n ++ rest) = .ok (n, rest) := by
    rw [number_append padded_ne_nil (fun c => isDigit_of_mem_padded) (length_padded 2 n).le
      (.inl (length_padded 2 n)), ofDigitChars_padded hroom]
  rw [bounded, bind_of_ok _ (skipBlanks_append padded_ne_nil fun c => isDigit_of_mem_padded),
    bind_of_ok _ hnumber, if_pos ⟨hlow, hhigh⟩]
  rfl

/-- What begins with digits begins with a digit. -/
theorem isDigit_head {ds : List Char} {c : Char} (hne : ds ≠ []) (hds : ∀ c ∈ ds, c.isDigit = true)
    (h : ds ++ cs = c :: rest) : c.isDigit = true := by
  obtain ⟨d, ds, rfl⟩ := List.exists_cons_of_ne_nil hne
  obtain ⟨rfl, -⟩ := List.cons.inj h
  exact hds d List.mem_cons_self

theorem hyphen_not_isDigit : ∀ c ∈ ('-' :: rest).head?, c.isDigit = false := by
  rintro c ⟨rfl⟩
  rfl

/-- Four digits are a year without a sign. -/
theorem year_padded {n : Nat} (hn : n < 10 ^ 4) :
    year (padded 4 n ++ '-' :: rest) = .ok ((n : Int), '-' :: rest) := by
  have hdigits : ∀ c ∈ padded 4 n, c.isDigit = true := fun c => isDigit_of_mem_padded
  have hnumber : number 4 (padded 4 n ++ '-' :: rest) = .ok (n, '-' :: rest) := by
    rw [number_append padded_ne_nil hdigits (length_padded 4 n).le (.inr hyphen_not_isDigit),
      ofDigitChars_padded hn]
  rw [year, bind_of_ok _ (skipBlanks_append padded_ne_nil hdigits), bind_of_ok _ rfl]
  generalize hcs : padded 4 n ++ '-' :: rest = cs at hnumber ⊢
  split
  · exact absurd (isDigit_head padded_ne_nil hdigits hcs) (by decide)
  · exact absurd (isDigit_head padded_ne_nil hdigits hcs) (by decide)
  · rw [bind_of_ok _ hnumber]
    rfl

/-- Behind a sign there may be any number of digits, zeros in front included. -/
theorem number_zeros_append (zeros n : Nat) :
    let ds := List.replicate zeros '0' ++ Nat.toDigits 10 n
    number (ds ++ '-' :: rest).length (ds ++ '-' :: rest) = .ok (n, '-' :: rest) := by
  intro ds
  have hne : ds ≠ [] := List.append_ne_nil_of_right_ne_nil _ Nat.toDigits_ne_nil
  have hdigits : ∀ c ∈ ds, c.isDigit = true := by
    intro c hc
    rcases List.mem_append.1 hc with hc | hc
    · rw [List.eq_of_mem_replicate hc]
      rfl
    · exact Nat.isDigit_of_mem_toDigits (by decide) (by decide) hc
  rw [number_append hne hdigits (by simp) (.inr hyphen_not_isDigit), Nat.ofDigitChars_append,
    Nat.ofDigitChars_replicate_zero, Nat.mul_zero, Nat.ofDigitChars_ten_toDigits]

/-- **A year is read with or without a sign**, up to the hyphen behind it — a sign is written
outside 0 to 9999. -/
theorem year_append {y : Int} (hy : -262143 ≤ y ∧ y ≤ 262142) :
    year (yearChars y ++ '-' :: rest) = .ok (y, '-' :: rest) := by
  rw [yearChars]
  split
  · next hfour =>
    rw [year_padded (by omega), Int.natAbs_of_nonneg hfour.1]
  · let digits := Nat.toDigits 10 y.natAbs
    let ds := List.replicate (4 - digits.length) '0' ++ digits
    have hnumber : number (ds ++ '-' :: rest).length (ds ++ '-' :: rest) =
        .ok (y.natAbs, '-' :: rest) := number_zeros_append _ _
    by_cases hneg : y < 0
    · have hvalue : -(y.natAbs : Int) = y := by omega
      rw [if_pos hneg]
      change (number (ds ++ '-' :: rest).length >>= fun n =>
        if n ≤ 0x80000000 then pure (-(n : Int)) else throw .outOfRange) (ds ++ '-' :: rest) = _
      rw [bind_of_ok _ hnumber, if_pos (by omega), hvalue]
      rfl
    · have hvalue : (y.natAbs : Int) = y := by omega
      rw [if_neg hneg]
      change (number (ds ++ '-' :: rest).length >>= fun n =>
        if n < 0x80000000 then pure (n : Int) else throw .outOfRange) (ds ++ '-' :: rest) = _
      rw [bind_of_ok _ hnumber, if_pos (by omega), hvalue]
      rfl

/-- Decimals are read as they are `padded` to nine. -/
theorem fraction_padded (width : Nat) {n : Nat} (hwidth : width + 1 ≤ 9)
    (hn : n < 10 ^ (width + 1)) :
    fraction ('.' :: (padded (width + 1) n ++ 'Z' :: rest)) =
      .ok (n * 10 ^ (9 - (width + 1)), 'Z' :: rest) := by
  have hstop : ∀ c ∈ ('Z' :: rest).head?, c.isDigit = false := by
    rintro c ⟨rfl⟩
    rfl
  have hdigits : digits 9 (padded (width + 1) n ++ 'Z' :: rest) =
      .ok (padded (width + 1) n, 'Z' :: rest) :=
    digits_append padded_ne_nil (fun c => isDigit_of_mem_padded)
      (by rw [length_padded]; exact hwidth)
      (.inr hstop)
  change (digits 9 >>= fun ds => (modify (·.dropWhile Char.isDigit) : Reader Unit) >>= fun _ =>
    pure (Nat.ofDigitChars 10 ds 0 * Nat.pow 10 (9 - ds.length)))
      (padded (width + 1) n ++ 'Z' :: rest) = _
  rw [bind_of_ok _ hdigits, ofDigitChars_padded hn, length_padded]
  rfl

/-- **Decimals are read in groups of three**, up to the zone — none, three, six or nine, as
`fractionChars` writes them. -/
theorem fraction_append (n : Fin 1000000000) :
    fraction (fractionChars n ++ 'Z' :: rest) = .ok (n.val, 'Z' :: rest) := by
  have hn := n.isLt
  rw [fractionChars]
  split
  · next hzero =>
    rw [hzero]
    rfl
  · split
    · next hmillis =>
      have hexact : n / 1000000 * 10 ^ 6 = n.val :=
        Nat.div_mul_cancel (Nat.dvd_of_mod_eq_zero hmillis)
      exact (fraction_padded 2 (by norm_num) (by omega)).trans (by rw [hexact])
    · split
      · next hmicros =>
        have hexact : n / 1000 * 10 ^ 3 = n.val :=
          Nat.div_mul_cancel (Nat.dvd_of_mod_eq_zero hmicros)
        exact (fraction_padded 5 (by norm_num) (by omega)).trans (by rw [hexact])
      · exact (fraction_padded 8 (by norm_num) hn).trans (by rw [pow_zero, mul_one])

/-- The time follows the date after a `T`. -/
theorem separator_cons : separator ('T' :: rest) = .ok ((), rest) := rfl

/-- **All parts are read back**, with no offset — each reader by its lemma, joined by
`bind_of_ok`. -/
theorem parts_chars (t : Timestamp) :
    parts t.chars = .ok (⟨t.date.year, t.date.month, t.date.day, t.hour, t.minute, t.second,
      t.nanosecond, 0⟩, []) := by
  obtain ⟨hday, hdays⟩ := t.date.day_mem
  have hmonth := bounds_of_le_daysInMonth (hday.trans hdays)
  have hlast := hdays.trans (daysInMonth_le t.date.year t.date.month)
  rw [chars, parts, bind_of_ok _ (year_append t.date.year_mem), bind_of_ok _ (mark_cons rfl),
    bind_of_ok _ (bounded_append (by omega) (by omega) (by omega)), bind_of_ok _ (mark_cons rfl),
    bind_of_ok _ (bounded_append (by omega) (by omega) (by omega)), bind_of_ok _ separator_cons,
    bind_of_ok _ (bounded_append (by omega) (by omega) (by omega)), bind_of_ok _ (mark_cons rfl),
    bind_of_ok _ (bounded_append (by omega) (by omega) (by omega)), bind_of_ok _ (mark_cons rfl),
    bind_of_ok _ (bounded_append (by omega) (by omega) (by omega)),
    bind_of_ok _ (fraction_append t.nanosecond)]
  rfl

end Reader

/-! ## The whole -/

/-- A time in UTC stays where it is — the day is not shifted. -/
theorem ofLocal?_zero (t : Timestamp) : ofLocal? t 0 = some t := by
  obtain ⟨date, hour, minute, second, nanosecond⟩ := t
  have hday : (60 * (hour.val : Int) + minute.val - 0) / 1440 = 0 := by omega
  have hminute : ((60 * (hour.val : Int) + minute.val - 0) % 1440).toNat =
      60 * hour.val + minute.val := by omega
  have hhour : (60 * hour.val + minute.val) / 60 = hour.val := by omega
  have hrest : (60 * hour.val + minute.val) % 60 = minute.val := by omega
  simp only [ofLocal?, hday, hminute, hhour, hrest]
  rfl

/-- **A timestamp is read back from its text** — a `Timestamp` has its parts in bounds, so none is
refused. -/
theorem ofText?_text (t : Timestamp) : ofText? t.text = .ok t := by
  have hparts : Reader.parts.run t.text.toList = _ :=
    (congrArg Reader.parts String.toList_ofList).trans (Reader.parts_chars t)
  rw [ofText?, hparts]
  dsimp only
  rw [ofParts, Date.ofParts?_self]
  dsimp only
  rw [dif_pos ⟨t.hour.isLt, t.minute.isLt, t.second.isLt, t.nanosecond.isLt⟩, if_pos (by omega),
    ofLocal?_zero]

end BackendPlan.Timestamp
