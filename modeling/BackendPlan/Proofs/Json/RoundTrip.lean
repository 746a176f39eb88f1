import BackendPlan.Proofs.Json.Numerals

/-!
# Proofs/Json/RoundTrip — the text of a document denotes its value

A reader stands in front of the text of a document and some more; it takes the text away, leaves the
rest and gives the value:

  `readValue steps (v.chars ++ rest) = some (v.canonical, rest)`.

The one thing `rest` may not do is continue a number, and behind a document stand only a comma, a
bracket or nothing.  Twice as many steps as there are characters suffice, since a step either takes
a character or ends a value, and this is the bound that the induction over the document carries.

* `readString_stringChars` — strings come back, whatever they hold.
* `ofText?_text` — **the text of a document denotes the value of the document.**
-/

namespace BackendPlan.Json

/-! ## Strings -/

/-- Two zeros and the two hexadecimal digits of a byte are the unit of that byte, as in `\u001f`. -/
theorem readUnit_byte {n : Nat} (hn : n < 256) :
    readUnit '0' '0' (Nat.digitChar (n / 16)) (Nat.digitChar (n % 16)) = some n := by
  have hhigh : Text.hexValue? (Nat.digitChar (n / 16)) = some ⟨n / 16, by omega⟩ :=
    Text.hexValue?_hexDigit ⟨n / 16, by omega⟩
  have hlow : Text.hexValue? (Nat.digitChar (n % 16)) = some ⟨n % 16, by omega⟩ :=
    Text.hexValue?_hexDigit ⟨n % 16, by omega⟩
  have hzero : Text.hexValue? '0' = some 0 := Text.hexValue?_hexDigit 0
  simp only [readUnit, List.mapM_cons, List.mapM_nil, hzero, hhigh, hlow, Option.pure_def,
    Option.bind_eq_bind, Option.bind_some, List.foldl_cons, List.foldl_nil, Option.some.injEq,
    Fin.val_zero]
  omega

/-- A character is read from its `stringChar`. -/
theorem readStringRest_stringChar (c : Char) (cs : List Char) :
    readStringRest (stringChar c ++ cs) =
      (readStringRest cs).map fun (s, rest) => (c :: s, rest) := by
  unfold stringChar
  split
  -- the seven escapes of one letter have a pattern each, the others share the last
  case h_8 =>
    split
    · next h =>
      have hplain : c.toNat < 0xD800 ∨ 0xDFFF < c.toNat := by omega
      simp only [List.cons_append, List.nil_append]
      rw [readStringRest, readUnit_byte (by omega)]
      simp only [hplain, if_true, Char.ofNat_toNat]
    · simp only [List.cons_append, List.nil_append]
      rw [readStringRest.eq_def]
      split <;> simp_all
  all_goals simp [readStringRest, shortEscape?]

theorem readStringRest_flatMap (s rest : List Char) :
    readStringRest (s.flatMap stringChar ++ '"' :: rest) = some (s, rest) := by
  induction s with
  | nil => simp [readStringRest]
  | cons c s ih =>
    rw [List.flatMap_cons, List.append_assoc, readStringRest_stringChar, ih]
    rfl

/-- **A string is read from its text** — character by character, up to the quote that no character
stands for. -/
theorem readString_stringChars (s : String) (rest : List Char) :
    readString (stringChars s ++ rest) = some (s, rest) := by
  simp [stringChars, readString, readStringRest_flatMap]

/-! ## White space

The compact text has none, so nothing is skipped in front of a token. -/

/-- The white space between tokens. -/
def IsSpace (c : Char) : Prop := c = ' ' ∨ c = '\t' ∨ c = '\n' ∨ c = '\r'

theorem skipSpace_cons {c : Char} (h : ¬ IsSpace c) (cs : List Char) :
    skipSpace (c :: cs) = c :: cs := by
  simp only [IsSpace, not_or] at h
  simp [skipSpace, h]

theorem not_isSpace_of_isDigit {c : Char} (h : c.isDigit = true) : ¬ IsSpace c := by
  rintro (rfl | rfl | rfl | rfl) <;> exact absurd h (by decide)

/-- The first character of a numeral is its sign or a digit. -/
theorem exists_cons_chars_numeral {n : Numeral} (hn : n.IsWellFormed) :
    ∃ c cs, n.chars = c :: cs ∧ (c = '-' ∨ c.isDigit = true) := by
  obtain ⟨d, ds, hd⟩ := List.exists_cons_of_ne_nil hn.whole_ne_nil
  by_cases hneg : n.negative = true
  · exact ⟨'-', n.unsignedChars, by simp [Numeral.chars, hneg], .inl rfl⟩
  · exact ⟨d, ds ++ (Numeral.fractionChars n.fraction ++ Numeral.exponentChars n.exponent),
      by simp [Numeral.chars, hneg, Numeral.unsignedChars, hd],
      .inr (hn.whole_digits d (by simp [hd]))⟩

/-- A value that begins with `-` or a digit is a number. -/
theorem readValue_number {steps : Nat} {c : Char} (cs : List Char)
    (hc : c = '-' ∨ c.isDigit = true) :
    readValue (steps + 1) (c :: cs) = readNumber (c :: cs) := by
  have hspace : ¬ IsSpace c := by
    rcases hc with rfl | hc
    · simp [IsSpace]
    · exact not_isSpace_of_isDigit hc
  have hhead : ∀ {d ds}, c :: cs = d :: ds → d = '-' ∨ d.isDigit = true := by
    rintro _ _ ⟨⟩
    exact hc
  rw [readValue, skipSpace_cons hspace]
  split
  case h_7 => rfl
  -- every other token begins with neither a minus sign nor a digit
  all_goals
    next h => exact absurd (hhead h) (by decide)

theorem readValue_chars_numeral {steps : Nat} {n : Numeral} (hn : n.IsWellFormed) {v : Json}
    (hv : n.value = some v) {rest : List Char} (hrest : EndsNumber rest) :
    readValue (steps + 1) (n.chars ++ rest) = some (v, rest) := by
  obtain ⟨c, cs, hcs, hc⟩ := exists_cons_chars_numeral hn
  have hread := readNumber_chars hn hv hrest
  rw [hcs, List.cons_append] at hread ⊢
  rw [readValue_number _ hc, hread]

/-! ## Documents -/

/-- No document begins like white space or with `]`. -/
theorem exists_cons_chars (v : Json) : ∃ c cs, v.chars = c :: cs ∧ ¬ IsSpace c ∧ c ≠ ']' := by
  have hnumeral : ∀ {n : Numeral}, n.IsWellFormed →
      ∃ c cs, n.chars = c :: cs ∧ ¬ IsSpace c ∧ c ≠ ']' := by
    intro n hn
    obtain ⟨c, cs, hcs, rfl | hc⟩ := exists_cons_chars_numeral hn
    · exact ⟨'-', cs, hcs, by simp [IsSpace], by decide⟩
    · exact ⟨c, cs, hcs, not_isSpace_of_isDigit hc, by rintro rfl; exact absurd hc (by decide)⟩
  cases v with
  | null => exact ⟨'n', _, rfl, by simp [IsSpace], by decide⟩
  | bool b => cases b <;> exact ⟨_, _, rfl, by simp [IsSpace], by decide⟩
  | whole n =>
    rw [chars, ← chars_wholeNumeral]
    exact hnumeral (isWellFormed_wholeNumeral n.val)
  | float x =>
    obtain ⟨n, hn, htext, -⟩ := exists_chars_eq_text x
    rw [chars, ← htext]
    exact hnumeral hn
  | str s => exact ⟨'"', _, rfl, by simp [IsSpace], by decide⟩
  | arr items =>
    cases items <;> exact ⟨'[', _, by rw [chars], by simp [IsSpace], by decide⟩
  | obj members =>
    rcases members with _ | ⟨⟨k, v⟩, ms⟩ <;>
      exact ⟨'\x7b', _, by rw [chars], by simp [IsSpace], by decide⟩

theorem length_chars_pos (v : Json) : 0 < v.chars.length := by
  obtain ⟨c, cs, hcs, -⟩ := exists_cons_chars v
  simp [hcs]

theorem endsNumber_moreItems (vs : List Json) (rest : List Char) :
    EndsNumber (moreItems vs ++ ']' :: rest) := by
  cases vs <;> rintro c ⟨⟩ <;> decide

theorem endsNumber_moreMembers (ms : List (String × Json)) (rest : List Char) :
    EndsNumber (moreMembers ms ++ '\x7d' :: rest) := by
  rcases ms with _ | ⟨⟨k, v⟩, ms⟩ <;> rintro c ⟨⟩ <;> decide

/-- A list that does not end at once has a first item. -/
theorem readValue_bracket {steps : Nat} (cs : List Char) (h : ∀ rest, cs ≠ ']' :: rest)
    (hspace : skipSpace cs = cs) :
    readValue (steps + 1) ('[' :: cs) = (do
      let (v, rest) ← readValue steps cs
      let (vs, rest) ← readMoreItems steps rest
      return (.arr (v :: vs), rest)) := by
  rw [readValue, skipSpace_cons (by simp [IsSpace])]
  simp only [hspace]

/-- An object that does not end at once has a first member. -/
theorem readValue_brace {steps : Nat} (cs : List Char) (h : ∀ rest, cs ≠ '\x7d' :: rest)
    (hspace : skipSpace cs = cs) :
    readValue (steps + 1) ('\x7b' :: cs) = (do
      let (m, rest) ← readMember steps cs
      let (ms, rest) ← readMoreMembers steps rest
      return (.obj (Members.ofList (m :: ms)), rest)) := by
  rw [readValue, skipSpace_cons (by simp [IsSpace])]
  simp only [hspace]

/-- A member is its key, a colon and its value. -/
theorem readMember_stringChars {steps : Nat} (key : String) {cs rest : List Char} {v : Json}
    (hv : readValue steps cs = some (v, rest)) :
    readMember (steps + 1) (stringChars key ++ ':' :: cs) = some ((key, v), rest) := by
  have hspace : skipSpace (stringChars key ++ ':' :: cs) = stringChars key ++ ':' :: cs :=
    skipSpace_cons (by simp [IsSpace]) _
  rw [readMember, hspace, readString_stringChars]
  simp [skipSpace, hv]

mutual
/-- **A document is read from its characters**, and what follows them is left — every step takes a
character or goes one level down, so twice as many steps as characters are enough. -/
theorem readValue_chars (v : Json) (steps : Nat) {rest : List Char}
    (hsteps : 2 * v.chars.length ≤ steps) (hrest : EndsNumber rest) :
    readValue steps (v.chars ++ rest) = some (v.canonical, rest) := by
  have hpos := v.length_chars_pos
  obtain ⟨steps, rfl⟩ : ∃ n, steps = n + 1 := ⟨steps - 1, by omega⟩
  match v with
  | .null => simp [chars, nullChars, readValue, skipSpace, Text.dropWord?, canonical]
  | .bool b => cases b <;> simp [chars, boolChars, readValue, skipSpace, Text.dropWord?, canonical]
  | .whole n =>
    rw [chars, ← chars_wholeNumeral]
    exact readValue_chars_numeral (isWellFormed_wholeNumeral n.val) (value_wholeNumeral n) hrest
  | .float x =>
    obtain ⟨n, hn, htext, hvalue⟩ := exists_chars_eq_text x
    rw [chars, ← htext]
    exact readValue_chars_numeral hn hvalue hrest
  | .str s => simp [chars, stringChars, readValue, skipSpace, readStringRest_flatMap, canonical]
  | .arr [] => simp [chars, readValue, skipSpace, canonical, canonicalItems]
  | .arr (v :: vs) =>
    simp only [chars, List.length_cons, List.length_append, List.length_nil] at hsteps
    have hv := readValue_chars v steps (by omega) (endsNumber_moreItems vs rest)
    have hvs := readMoreItems_chars vs steps rest (by omega)
    obtain ⟨c, cs, hcs, hspace, hne⟩ := exists_cons_chars v
    simp only [chars, List.cons_append, List.append_assoc, List.nil_append]
    rw [readValue_bracket _ (by simp [hcs, hne]) (by rw [hcs]; exact skipSpace_cons hspace _), hv]
    simp [hvs, canonical, canonicalItems]
  | .obj [] =>
    simp [chars, readValue, skipSpace, canonical, canonicalMembers, Members.ofList, Members.overlay]
  | .obj ((k, v) :: ms) =>
    simp only [chars, List.length_cons, List.length_append, List.length_nil] at hsteps
    obtain ⟨steps, rfl⟩ : ∃ n, steps = n + 1 := ⟨steps - 1, by omega⟩
    have hv := readValue_chars v steps (by omega) (endsNumber_moreMembers ms rest)
    have hms := readMoreMembers_chars ms (steps + 1) rest (by omega)
    simp only [chars, List.cons_append, List.append_assoc, List.nil_append]
    rw [readValue_brace (stringChars k ++ _) (by simp [stringChars])
      (skipSpace_cons (by simp [IsSpace]) _), readMember_stringChars k hv]
    simp [hms, canonical, canonicalMembers]

/-- The items after the first are read up to the closing `]`. -/
theorem readMoreItems_chars (vs : List Json) (steps : Nat) (rest : List Char)
    (hsteps : 2 * (moreItems vs).length + 1 ≤ steps) :
    readMoreItems steps (moreItems vs ++ ']' :: rest) = some (canonicalItems vs, rest) := by
  obtain ⟨steps, rfl⟩ : ∃ n, steps = n + 1 := ⟨steps - 1, by omega⟩
  match vs with
  | [] => simp [moreItems, readMoreItems, skipSpace, canonicalItems]
  | v :: vs =>
    simp only [moreItems, List.length_cons, List.length_append] at hsteps
    have hv := readValue_chars v steps (by omega) (endsNumber_moreItems vs rest)
    have hvs := readMoreItems_chars vs steps rest (by omega)
    simp only [moreItems, List.cons_append, List.append_assoc]
    rw [readMoreItems, skipSpace_cons (by simp [IsSpace])]
    simp [hv, hvs, canonicalItems]

/-- The members after the first are read up to the closing brace. -/
theorem readMoreMembers_chars (ms : List (String × Json)) (steps : Nat) (rest : List Char)
    (hsteps : 2 * (moreMembers ms).length + 1 ≤ steps) :
    readMoreMembers steps (moreMembers ms ++ '\x7d' :: rest) =
      some (canonicalMembers ms, rest) := by
  obtain ⟨steps, rfl⟩ : ∃ n, steps = n + 1 := ⟨steps - 1, by omega⟩
  match ms with
  | [] => simp [moreMembers, readMoreMembers, skipSpace, canonicalMembers]
  | (k, v) :: ms =>
    simp only [moreMembers, List.length_cons, List.length_append] at hsteps
    obtain ⟨steps, rfl⟩ : ∃ n, steps = n + 1 := ⟨steps - 1, by omega⟩
    have hv := readValue_chars v steps (by omega) (endsNumber_moreMembers ms rest)
    have hms := readMoreMembers_chars ms (steps + 1) rest (by omega)
    simp only [moreMembers, List.cons_append, List.append_assoc]
    rw [readMoreMembers, skipSpace_cons (by simp [IsSpace])]
    simp [readMember_stringChars k hv, hms, canonicalMembers]
end

/-- **The text of a document denotes the value of the document** — `readValue_chars`, with nothing
behind it. -/
theorem ofText?_text (v : Json) : ofText? v.text = some v.canonical := by
  have hread : readValue (2 * v.chars.length + 2) (v.chars ++ []) = some (v.canonical, []) :=
    readValue_chars v _ (by omega) nofun
  rw [List.append_nil] at hread
  simp [ofText?, hread, skipSpace]

end BackendPlan.Json
