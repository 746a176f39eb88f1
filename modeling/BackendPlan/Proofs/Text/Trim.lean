import BackendPlan.Text.Basic
import Mathlib.Data.List.DropRight

/-!
# Proofs/Text/Trim — what trimming leaves of a text

The white space in front is dropped first and that at the end then, and neither is in the way of
the other: a first character that stays at the front stays when the end is trimmed.

    s  —`trimStart`→  begins with no white space  —`trimEnd`→  ends with none either

* `trim_eq_empty_iff` — **nothing is left exactly of a blank text.**
* `trim_trim` — a second time changes nothing.
* `trim_append_of_isBlankText` — white space put around a text is dropped again.
-/

namespace BackendPlan.Text

/-- The white space at the end is what `List.rdropWhile` drops. -/
theorem trimEnd_eq_rdropWhile (cs : List Char) : trimEnd cs = cs.rdropWhile isBlank := rfl

theorem trimEnd_eq_nil_iff {cs : List Char} : trimEnd cs = [] ↔ cs.all isBlank = true := by
  rw [trimEnd_eq_rdropWhile, List.rdropWhile_eq_nil_iff, List.all_eq_true]

/-- Trimming one end leaves a blank text blank and any other text as it was: not blank. -/
theorem all_isBlank_trimStart {cs : List Char} :
    (trimStart cs).all isBlank = cs.all isBlank := by
  induction cs with
  | nil => rfl
  | cons c cs ih =>
    by_cases h : isBlank c = true
    · simpa [trimStart, List.dropWhile_cons, h] using ih
    · simp [trimStart, h]

/-- **A text trims to nothing exactly when it is blank** — so `trim s ≠ ""` and `isBlankText s =
false` are one test. -/
theorem trim_eq_empty_iff {s : String} : trim s = "" ↔ isBlankText s = true := by
  rw [trim, ← String.ofList_nil, String.ofList_inj, trimEnd_eq_nil_iff, all_isBlank_trimStart,
    isBlankText]

theorem trimStart_cons_of_not_isBlank {c : Char} {cs : List Char} (h : isBlank c = false) :
    trimStart (c :: cs) = c :: cs := by
  simp [trimStart, h]

/-- `trimEnd` keeps a first character that is not white space, however much white space is behind
it. -/
theorem trimEnd_cons_of_not_isBlank {c : Char} {cs : List Char} (h : isBlank c = false) :
    trimEnd (c :: cs) = c :: trimEnd cs := by
  simp only [trimEnd, List.reverse_cons]
  rw [List.dropWhile_append]
  split
  · next hnil =>
    simp only [List.isEmpty_iff] at hnil
    simp [h, hnil]
  · simp

/-- **Trimming a second time changes nothing.** -/
theorem trim_trim (s : String) : trim (trim s) = trim s := by
  simp only [trim, String.toList_ofList]
  cases hs : trimStart s.toList with
  | nil => rfl
  | cons c rest =>
    have hc := List.head?_dropWhile_not isBlank s.toList
    rw [← trimStart, hs, List.head?_cons] at hc
    rw [trimEnd_cons_of_not_isBlank hc, trimStart_cons_of_not_isBlank hc,
      trimEnd_cons_of_not_isBlank hc, trimEnd_eq_rdropWhile, trimEnd_eq_rdropWhile,
      List.rdropWhile_idempotent]

theorem trimStart_append_of_isBlank {front : List Char} (h : front.all isBlank = true)
    (cs : List Char) : trimStart (front ++ cs) = trimStart cs :=
  List.dropWhile_append_of_pos (List.all_eq_true.1 h)

theorem trimEnd_append_of_isBlank {back : List Char} (h : back.all isBlank = true)
    (cs : List Char) : trimEnd (cs ++ back) = trimEnd cs := by
  have hback : ∀ c ∈ back.reverse, isBlank c = true := by
    simpa using h
  rw [trimEnd, List.reverse_append, List.dropWhile_append_of_pos hback, trimEnd]

/-- **White space around a text is trimmed away**, whatever the text — a blank one included, of
which nothing is left either way. -/
theorem trim_append_of_isBlankText {front back : String} (hfront : isBlankText front = true)
    (hback : isBlankText back = true) (s : String) : trim (front ++ s ++ back) = trim s := by
  have hstart : trimStart (front ++ s ++ back).toList = trimStart (s.toList ++ back.toList) := by
    rw [String.toList_append, String.toList_append, List.append_assoc,
      trimStart_append_of_isBlank hfront]
  rw [trim, hstart, trim, trimStart, List.dropWhile_append]
  split
  · next hnil =>
    -- nothing is left of a blank text, nor of the white space behind it
    have hnone : back.toList.dropWhile isBlank = [] :=
      List.dropWhile_eq_nil_iff.2 (List.all_eq_true.1 hback)
    rw [hnone, trimStart, List.isEmpty_iff.1 hnil]
  · rw [trimEnd_append_of_isBlank hback, trimStart]

end BackendPlan.Text
