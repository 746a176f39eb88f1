import BackendPlan.Uuid
import Mathlib.Data.List.Basic

/-!
# Proofs/Uuid — a UUID is read back from its text

The written form is the second of the four that are read.  The first one, digits alone, does not
match because of the hyphens, and the hyphens stand where the second one wants them:

    8 digits - 4 digits - 4 digits - 4 digits - 12 digits

* `ofGroups?_groups` — groups of these lengths are read as their digits.
* `ofText?_text` — so the written form is read as the UUID.
-/

namespace BackendPlan.Uuid

/-! ## Digits -/

/-- **Digits are read back one by one** — `hexValue?` undoes `hexDigit` on each of the sixteen. -/
theorem mapM_hexValue?_map (ds : List (Fin 16)) :
    (ds.map Text.hexDigit).mapM Text.hexValue? = some ds := by
  induction ds with
  | nil => rfl
  | cons d ds ih => simp [ih]

theorem mapM_hexValue?_of_hyphen {cs : List Char} (h : '-' ∈ cs) :
    cs.mapM Text.hexValue? = none := by
  induction cs with
  | nil => exact absurd h List.not_mem_nil
  | cons c cs ih =>
    rcases List.mem_cons.1 h with rfl | h
    · rfl
    · simp [ih h]

/-- `-` is no digit, so digits with hyphens between are not digits alone. -/
theorem ofDigits?_of_hyphen {cs : List Char} (h : '-' ∈ cs) : ofDigits? cs = none := by
  rw [ofDigits?, mapM_hexValue?_of_hyphen h]

theorem ofDigits?_map (u : Uuid) : ofDigits? (u.digits.map Text.hexDigit) = some u := by
  rw [ofDigits?, mapM_hexValue?_map]
  exact dif_pos u.length_digits

/-! ## Groups -/

/-- A group ends at a `-`, and the next one begins behind it. -/
theorem group_at {text group rest : List Char} {start size : Nat}
    (h : text.drop start = group ++ '-' :: rest) (hgroup : group.length = size) :
    text[start + size]? = some '-' ∧ text.drop (start + size + 1) = rest := by
  have hend : text.drop (start + size) = '-' :: rest := by
    rw [← List.drop_drop, h, List.drop_left' hgroup]
  constructor
  · rw [← List.head?_drop, hend]
    rfl
  · rw [← List.drop_drop, hend]
    rfl

/-- **Five groups of the right lengths are read as their digits** — `group_at` at each of the four
hyphens. -/
theorem ofGroups?_groups {a b c d e : List Char} (ha : a.length = 8) (hb : b.length = 4)
    (hc : c.length = 4) (hd : d.length = 4) (he : e.length = 12) :
    ofGroups? (a ++ '-' :: (b ++ '-' :: (c ++ '-' :: (d ++ '-' :: e)))) =
      ofDigits? (a ++ b ++ c ++ d ++ e) := by
  generalize htext : a ++ '-' :: (b ++ '-' :: (c ++ '-' :: (d ++ '-' :: e))) = text
  have h0 : text.drop 0 = a ++ '-' :: (b ++ '-' :: (c ++ '-' :: (d ++ '-' :: e))) := htext.symm
  obtain ⟨h8, h9⟩ := group_at h0 ha
  obtain ⟨h13, h14⟩ := group_at h9 hb
  obtain ⟨h18, h19⟩ := group_at h14 hc
  obtain ⟨h23, h24⟩ := group_at h19 hd
  have hlength : text.length = 36 := by
    simp [← htext, ha, hb, hc, hd, he]
  have hhyphens : [8, 13, 18, 23].all (fun i => text[i]? == some '-') = true := by
    simp [h8, h13, h18, h23]
  rw [ofGroups?, if_pos ⟨hlength, hhyphens⟩, h9, h14, h19, h24, List.take_left' hb,
    List.take_left' hc, List.take_left' hd, ← htext, List.take_left' ha]

/-! ## The whole -/

/-- A text of characters that take one byte each is as long in bytes as in characters. -/
theorem byteLength_eq {cs : List Char} (h : ∀ c ∈ cs, c.utf8Size = 1) :
    byteLength cs = cs.length := by
  induction cs with
  | nil => rfl
  | cons c cs ih =>
    rw [byteLength, h c List.mem_cons_self, ih fun d hd => h d (List.mem_cons_of_mem c hd),
      List.length_cons, Nat.add_comm]

theorem mem_chars {u : Uuid} {c : Char} (h : c ∈ u.chars) :
    c = '-' ∨ c ∈ u.digits.map Text.hexDigit := by
  simp only [chars, List.mem_append, List.mem_cons] at h
  rcases h with h | rfl | h | rfl | h | rfl | h | rfl | h
  · exact .inr (List.mem_of_mem_take h)
  · exact .inl rfl
  · exact .inr (List.mem_of_mem_drop (List.mem_of_mem_take h))
  · exact .inl rfl
  · exact .inr (List.mem_of_mem_drop (List.mem_of_mem_take h))
  · exact .inl rfl
  · exact .inr (List.mem_of_mem_drop (List.mem_of_mem_take h))
  · exact .inl rfl
  · exact .inr (List.mem_of_mem_drop h)

theorem utf8Size_of_mem_chars {u : Uuid} {c : Char} (h : c ∈ u.chars) : c.utf8Size = 1 := by
  rcases mem_chars h with rfl | h
  · rfl
  · obtain ⟨d, -, rfl⟩ := List.mem_map.1 h
    have hdigit : ∀ d, (Text.hexDigit d).utf8Size = 1 := by decide
    exact hdigit d

theorem length_chars (u : Uuid) : u.chars.length = 36 := by
  simp [chars, u.length_digits]

/-- The written form has the length of five groups, 36 bytes, so nothing is unwrapped. -/
theorem grouped?_chars (u : Uuid) : grouped? u.chars = some u.chars := by
  rw [grouped?, byteLength_eq fun c => utf8Size_of_mem_chars, if_pos u.length_chars]

/-- **It is read as its groups** — the digits taken apart by `chars` make up `digits` again. -/
theorem ofGroups?_chars (u : Uuid) : ofGroups? u.chars = some u := by
  have hdigits : (u.digits.map Text.hexDigit).length = 32 := by
    rw [List.length_map, u.length_digits]
  rw [chars, ofGroups?_groups (by simp [hdigits]) (by simp [hdigits]) (by simp [hdigits])
    (by simp [hdigits]) (by simp [hdigits]), ← List.take_add, ← List.take_add, ← List.take_add,
    List.take_append_drop]
  exact ofDigits?_map u

/-- **A UUID is read back from its text** — through the second of the four forms, the first failing
at the hyphens. -/
theorem ofText?_text (u : Uuid) : ofText? u.text = .ok u := by
  have hhyphen : '-' ∈ u.chars := by simp [chars]
  have hchars : ofChars? u.chars = some u := by
    rw [ofChars?, ofDigits?_of_hyphen hhyphen, grouped?_chars]
    exact ofGroups?_chars u
  have htext : u.text.toList = u.chars := String.toList_ofList
  rw [ofText?, htext, hchars]

end BackendPlan.Uuid
