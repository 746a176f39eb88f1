import BackendPlan.Proofs.Lists
import BackendPlan.Proofs.Text.Trim
import BackendPlan.Text.Case
import Mathlib

/-!
# Proofs/Text/Case — what upper and lower case do to a text

The mapping is a table, and what is needed of the table is that three sets of code points are apart
from those it maps: the ones it maps to, white space, and ASCII but for `a` to `z`.  A set is
written as the bits of one number, so that each comparison is one conjunction of two numbers.

    c  —`upperChar`→  characters that are mapped to themselves, and white space only if `c` is

Everything about whole texts follows character by character.

* `upper_upper` — **upper case is reached in one step.**
* `trim_upper` — trimming and mapping commute.
* `upper_eq_toUpper_iff` — where upper case is that of ASCII.
* `equalsIgnoringAsciiCase_iff_toUpper` — the ASCII comparison with a text in upper case.
* `lower_eq_iff` — **only ASCII texts become ASCII words in lower case**, but for words with `i` or
  `k`.
* `LowersTo.eq_iff` — the same under every rule for the shape of a final sigma.
-/

namespace BackendPlan.Text

namespace Case

/-! ## The code points of a table -/

/-- The code points of a run — every `stride`-th from the first to the last. -/
def Run.points (r : Run) : List Nat :=
  (List.range ((r.last - r.first) / r.stride + 1)).map fun i => r.first + r.stride * i

/-- **The code points that a table maps**: those of its `expansions` and those of its `runs`. -/
def domain (expansions : List (Nat × List Nat)) (runs : List Run) : List Nat :=
  expansions.map Prod.fst ++ runs.flatMap Run.points

/-- **The code points that it maps to**: what stays as it is has no image here. -/
def images (expansions : List (Nat × List Nat)) (runs : List Run) : List Nat :=
  expansions.flatMap Prod.snd ++ runs.flatMap fun r => r.points.map r.image

theorem Run.mem_points {r : Run} {n : Nat} (h : r.contains n = true) : n ∈ r.points := by
  simp only [contains, Bool.and_eq_true, decide_eq_true_eq, beq_iff_eq] at h
  obtain ⟨⟨hfirst, hlast⟩, hstride⟩ := h
  have hcount : (n - r.first) / r.stride ≤ (r.last - r.first) / r.stride :=
    Nat.div_le_div_right (Nat.sub_le_sub_right hlast _)
  refine List.mem_map.2 ⟨(n - r.first) / r.stride, List.mem_range.2 (Nat.lt_succ_of_le hcount), ?_⟩
  rw [Nat.mul_div_cancel' (Nat.dvd_of_mod_eq_zero hstride)]
  omega

/-- A set of code points, as the bits of a number — so that `decide` compares two sets by one
`&&&`. -/
def bits (points : List Nat) : Nat := points.foldr (fun n set => 2 ^ n ||| set) 0

theorem testBit_bits (points : List Nat) (n : Nat) :
    (bits points).testBit n = decide (n ∈ points) := by
  induction points with
  | nil => simp [bits]
  | cons m points ih =>
    have hcons : bits (m :: points) = 2 ^ m ||| bits points := rfl
    rw [hcons, Nat.testBit_or, ih, Nat.testBit_two_pow]
    simp [eq_comm]

/-- **Sets without a common bit are apart** — by `testBit_bits`, bit by bit. -/
theorem notMem_of_bits {points others : List Nat} (h : bits points &&& bits others = 0) {n : Nat}
    (hn : n ∈ others) : n ∉ points := by
  intro hmem
  have hboth : (bits points &&& bits others).testBit n = true := by
    simp [Nat.testBit_and, testBit_bits, hmem, hn]
  rw [h, Nat.zero_testBit] at hboth
  exact Bool.false_ne_true hboth

end Case

open Case

/-! ## Mapping one character -/

section Mapping

variable {expansions : List (Nat × List Nat)} {runs : List Run}

/-- **What the table does not map stays** — no expansion is found for it, and no run contains it. -/
theorem mapCase_of_notMem_domain {c : Char} (h : c.toNat ∉ domain expansions runs) :
    mapCase expansions runs c = [c] := by
  obtain ⟨hexpansions, hruns⟩ := not_or.1 (mt List.mem_append.2 h)
  have hlookup : expansions.lookup c.toNat = none := by
    rw [List.lookup_eq_none_iff]
    intro e he
    exact bne_iff_ne.2 fun heq => hexpansions (heq ▸ List.mem_map_of_mem he)
  have hfind : runs.find? (·.contains c.toNat) = none := by
    rw [List.find?_eq_none]
    exact fun r hr hc => hruns (List.mem_flatMap.2 ⟨r, hr, Run.mem_points hc⟩)
  simp only [mapCase, hlookup, hfind]

/-- `mapCase` leaves a character, or gives characters that the table maps to. -/
theorem mapCase_cases (c : Char) : mapCase expansions runs c = [c] ∨
    ∀ d ∈ mapCase expansions runs c, ∃ n ∈ images expansions runs, d = Char.ofNat n := by
  unfold mapCase
  split
  · next long hlong =>
    obtain ⟨before, after, rfl, -⟩ := List.lookup_eq_some_iff.1 hlong
    refine .inr fun d hd => ?_
    obtain ⟨n, hn, rfl⟩ := List.mem_map.1 hd
    refine ⟨n, List.mem_append_left _ (List.mem_flatMap.2 ⟨(c.toNat, long), ?_, hn⟩), rfl⟩
    exact List.mem_append_right before List.mem_cons_self
  · split
    · next r hr =>
      refine .inr fun d hd => ⟨r.image c.toNat, List.mem_append_right _ ?_, List.mem_singleton.1 hd⟩
      have hc : r.contains c.toNat = true := by simpa using List.find?_some hr
      exact List.mem_flatMap.2
        ⟨r, List.mem_of_find?_eq_some hr, List.mem_map_of_mem (Run.mem_points hc)⟩
    · exact .inl rfl

/-- `mapCase` loses no character if no expansion is empty. -/
theorem mapCase_ne_nil (h : ∀ e ∈ expansions, e.2 ≠ []) (c : Char) :
    mapCase expansions runs c ≠ [] := by
  unfold mapCase
  split
  · next long hlong =>
    obtain ⟨before, after, rfl, -⟩ := List.lookup_eq_some_iff.1 hlong
    exact mt List.map_eq_nil_iff.1 (h _ (List.mem_append_right before List.mem_cons_self))
  · split <;> exact List.cons_ne_nil _ _

end Mapping

/-! ## Upper case, character by character

These are all the facts that are read off the table; from here on nothing looks into it. -/

/-- The code points of white space. -/
def blankPoints : List Nat := blankRanges.flatMap fun r => (Run.mk r.1 r.2 1 0).points

theorem mem_blankPoints {c : Char} (h : isBlank c = true) : c.toNat ∈ blankPoints := by
  obtain ⟨r, hr, hc⟩ := List.any_eq_true.1 h
  refine List.mem_flatMap.2 ⟨r, hr, Run.mem_points ?_⟩
  simpa [Run.contains, Nat.mod_one] using hc

/-- The code points that upper case keeps: those it maps to, white space, and ASCII without `a` to
`z`. -/
def upperKept : List Nat :=
  images upperExpansions upperRuns ++ blankPoints ++ (List.range 0x61 ++ List.range' 0x7B 5)

theorem upperKept_apart : bits (domain upperExpansions upperRuns) &&& bits upperKept = 0 := by
  decide +kernel

theorem blankPoints_apart : bits blankPoints &&& bits (images upperExpansions upperRuns) = 0 := by
  decide +kernel

theorem isValidChar_of_mem_images : ∀ n ∈ images upperExpansions upperRuns, n.isValidChar := by
  decide +kernel

theorem upperChar_of_mem_upperKept {c : Char} (h : c.toNat ∈ upperKept) : upperChar c = [c] :=
  mapCase_of_notMem_domain (notMem_of_bits upperKept_apart h)

/-- `upperChar` leaves a character, or gives characters of the table. -/
theorem upperChar_cases (c : Char) : upperChar c = [c] ∨
    ∀ d ∈ upperChar c, d.toNat ∈ images upperExpansions upperRuns := by
  refine (mapCase_cases c).imp_right fun h d hd => ?_
  obtain ⟨n, hn, rfl⟩ := h d hd
  rwa [Char.toNat_ofNat, if_pos (isValidChar_of_mem_images n hn)]

/-- **Upper case is its own upper case** — the images are among `upperKept`. -/
theorem upperChar_of_mem_upperChar {c d : Char} (h : d ∈ upperChar c) : upperChar d = [d] := by
  rcases upperChar_cases c with hc | hc
  · rw [hc] at h
    rwa [List.mem_singleton.1 h]
  · exact upperChar_of_mem_upperKept (List.mem_append_left _ (List.mem_append_left _ (hc d h)))

theorem upperChar_ne_nil (c : Char) : upperChar c ≠ [] := mapCase_ne_nil (by decide) c

/-- White space has no case. -/
theorem upperChar_of_isBlank {c : Char} (h : isBlank c = true) : upperChar c = [c] :=
  upperChar_of_mem_upperKept (List.mem_append_left _ (List.mem_append_right _ (mem_blankPoints h)))

/-- Nothing else becomes white space — no image is a blank, by `blankPoints_apart`. -/
theorem isBlank_of_mem_upperChar {c d : Char} (hc : isBlank c = false) (h : d ∈ upperChar c) :
    isBlank d = false := by
  rcases upperChar_cases c with hself | himages
  · rw [hself] at h
    rwa [List.mem_singleton.1 h]
  · exact Bool.eq_false_iff.2 fun hd =>
      notMem_of_bits blankPoints_apart (himages d h) (mem_blankPoints hd)

/-- **On ASCII, upper case is that of ASCII** — the first run of the table is `a` to `z`. -/
theorem upperChar_of_ascii {c : Char} (h : c.toNat < 0x80) : upperChar c = [c.toUpper] := by
  by_cases hlower : 0x61 ≤ c.toNat ∧ c.toNat ≤ 0x7A
  · have hletters : ∀ n ∈ List.range' 0x61 26,
        upperChar (Char.ofNat n) = [(Char.ofNat n).toUpper] := by decide
    rw [← Char.ofNat_toNat c]
    exact hletters _ (List.mem_range'_1.2 (by omega))
  · have hmem : c.toNat ∈ upperKept := by
      refine List.mem_append_right _ (List.mem_append.2 ?_)
      rw [List.mem_range, List.mem_range'_1]
      omega
    rw [upperChar_of_mem_upperKept hmem, Char.toUpper_eq_of_not_isLower]
    simpa [Char.isLower, UInt32.le_iff_toNat_le] using hlower

/-! ## Upper case of texts -/

/-- **Upper case is reached in one step** — character by character, by
`upperChar_of_mem_upperChar`. -/
theorem upper_upper (s : String) : upper (upper s) = upper s := by
  rw [upper, toList_upper, upper, List.flatMap_assoc]
  congr 1
  refine List.flatMap_congr fun c _ => ?_
  rw [List.flatMap_congr fun d hd => upperChar_of_mem_upperChar hd, List.flatMap_singleton']

theorem upper_eq_empty_iff {s : String} : upper s = "" ↔ s = "" := by
  rw [← String.toList_eq_nil_iff, toList_upper, List.flatMap_eq_nil_iff, ← String.toList_eq_nil_iff,
    List.eq_nil_iff_forall_not_mem]
  simp [upperChar_ne_nil]

/-- White space in front is dropped before or after a mapping that keeps white space and makes
none. -/
theorem dropWhile_flatMap {f : Char → List Char} (hblank : ∀ c, isBlank c = true → f c = [c])
    (hother : ∀ c, isBlank c = false → f c ≠ [] ∧ ∀ d ∈ f c, isBlank d = false) (cs : List Char) :
    (cs.flatMap f).dropWhile isBlank = (cs.dropWhile isBlank).flatMap f := by
  induction cs with
  | nil => rfl
  | cons c cs ih =>
    cases hc : isBlank c with
    | true =>
      rw [List.flatMap_cons, hblank c hc, List.singleton_append, List.dropWhile_cons_of_pos hc,
        List.dropWhile_cons_of_pos hc, ih]
    | false =>
      obtain ⟨hne, hall⟩ := hother c hc
      obtain ⟨d, ds, hf⟩ := List.exists_cons_of_ne_nil hne
      have hd : ¬ isBlank d = true := by
        rw [hall d (hf ▸ List.mem_cons_self)]
        exact Bool.false_ne_true
      rw [List.dropWhile_cons_of_neg (by simp [hc]), List.flatMap_cons, hf, List.cons_append,
        List.dropWhile_cons_of_neg hd]

theorem trimStart_flatMap_upperChar (cs : List Char) :
    trimStart (cs.flatMap upperChar) = (trimStart cs).flatMap upperChar :=
  dropWhile_flatMap (fun _ => upperChar_of_isBlank)
    (fun c hc => ⟨upperChar_ne_nil c, fun _ => isBlank_of_mem_upperChar hc⟩) cs

theorem trimEnd_flatMap_upperChar (cs : List Char) :
    trimEnd (cs.flatMap upperChar) = (trimEnd cs).flatMap upperChar := by
  have hdrop := dropWhile_flatMap (f := List.reverse ∘ upperChar)
    (fun c hc => by simp [upperChar_of_isBlank hc])
    (fun c hc => ⟨by simp [upperChar_ne_nil], fun d hd =>
      isBlank_of_mem_upperChar hc (List.mem_reverse.1 hd)⟩) cs.reverse
  rw [trimEnd, List.reverse_flatMap, hdrop, List.reverse_flatMap, ← trimEnd]
  simp [Function.comp_def]

/-- **`trim` and `upper` commute** — at either end, a blank stays one and nothing else becomes
one. -/
theorem trim_upper (s : String) : trim (upper s) = upper (trim s) := by
  rw [trim, toList_upper, trimStart_flatMap_upperChar, trimEnd_flatMap_upperChar, upper, trim,
    String.toList_ofList]

theorem isBlankText_upper (s : String) : isBlankText (upper s) = isBlankText s := by
  rw [Bool.eq_iff_iff, ← trim_eq_empty_iff, trim_upper, upper_eq_empty_iff, trim_eq_empty_iff]

theorem isBlankText_trim (s : String) : isBlankText (trim s) = isBlankText s := by
  rw [Bool.eq_iff_iff, ← trim_eq_empty_iff, trim_trim, trim_eq_empty_iff]

/-! ## Comparing without ASCII case

Core's `toUpper` is upper case of ASCII alone.  The full mapping goes on from there, and has nothing
left to do for it where it has been. -/

theorem toUpper_eq_self_of_not_ascii {c : Char} (h : ¬ c.toNat < 0x80) : c.toUpper = c := by
  refine Char.toUpper_eq_of_not_isLower fun hlower => h ?_
  simp only [Char.isLower, UInt32.le_iff_toNat_le, Bool.and_eq_true, decide_eq_true_eq] at hlower
  exact Nat.lt_of_le_of_lt hlower.2 (by decide)

theorem upperChar_toUpper (c : Char) : upperChar c.toUpper = upperChar c := by
  by_cases h : c.toNat < 0x80
  · have hc := upperChar_of_ascii h
    rw [hc, upperChar_of_mem_upperChar (hc ▸ List.mem_singleton_self c.toUpper)]
  · rw [toUpper_eq_self_of_not_ascii h]

theorem toUpper_of_mem_upperChar {c d : Char} (h : d ∈ upperChar c) : d.toUpper = d := by
  by_cases hd : d.toNat < 0x80
  · exact List.singleton_inj.1 ((upperChar_of_ascii hd).symm.trans (upperChar_of_mem_upperChar h))
  · exact toUpper_eq_self_of_not_ascii hd

theorem upper_toUpper (s : String) : upper s.toUpper = upper s := by
  rw [upper, String.toUpper, String.toList_map, List.flatMap_map, upper]
  simp only [upperChar_toUpper]

theorem toUpper_upper (s : String) : (upper s).toUpper = upper s := by
  have hfixed : ∀ d ∈ (upper s).toList, d.toUpper = id d := by
    rw [toList_upper]
    intro d hd
    obtain ⟨c, -, hc⟩ := List.mem_flatMap.1 hd
    exact toUpper_of_mem_upperChar hc
  rw [← String.toList_inj, String.toUpper, String.toList_map, List.map_congr_left hfixed,
    List.map_id]

/-- **The two mappings agree on a text exactly if only its ASCII letters change** — a character with
a longer form makes the text longer, and ASCII never does. -/
theorem upper_eq_toUpper_iff {s : String} :
    upper s = s.toUpper ↔ ∀ c ∈ s.toList, c.toNat < 0x80 ∨ upperChar c = [c] := by
  have hchar : ∀ c : Char, upperChar c = [c.toUpper] ↔ c.toNat < 0x80 ∨ upperChar c = [c] := by
    intro c
    by_cases hc : c.toNat < 0x80
    · exact iff_of_true (upperChar_of_ascii hc) (.inl hc)
    · rw [toUpper_eq_self_of_not_ascii hc, or_iff_right hc]
  rw [← String.toList_inj, toList_upper, String.toUpper, String.toList_map,
    List.flatMap_eq_map_iff upperChar_ne_nil]
  exact forall₂_congr fun c _ => hchar c

/-- **A text in upper case is compared with the ASCII upper case of the other** — what `upper`
keeps, `toUpper` keeps. -/
theorem equalsIgnoringAsciiCase_iff_toUpper {s t : String} (hs : upper s = s) :
    equalsIgnoringAsciiCase s t = true ↔ t.toUpper = s := by
  rw [equalsIgnoringAsciiCase_iff]
  constructor
  · intro h
    have hupper : s.toUpper = t.toUpper := by
      have h := congrArg (List.map Char.toUpper) h
      simp only [List.map_map, Function.comp_def, Char.toUpper_toLower_eq_toUpper] at h
      rwa [← String.toList_inj, String.toUpper, String.toUpper, String.toList_map,
        String.toList_map]
    rw [← hupper, ← hs, toUpper_upper]
  · rintro rfl
    simp [String.toUpper]

/-! ## Lower case of ASCII words

The first run of the table is `A` to `Z`.  The others are of characters outside ASCII, and of the
ASCII letters they reach `i` and `k` alone: from the dotted `İ` and from the Kelvin sign.  So a word
without the two letters is in lower case what it is in ASCII, and of no text but an ASCII one. -/

theorem mapCase_cons_of_not_contains {expansions : List (Nat × List Nat)} {r : Run}
    {runs : List Run} {c : Char} (h : ¬ r.contains c.toNat = true) :
    mapCase expansions (r :: runs) c = mapCase expansions runs c := by
  have hfind : (r :: runs).find? (·.contains c.toNat) = runs.find? (·.contains c.toNat) :=
    List.find?_cons_of_neg h
  rw [mapCase, hfind, mapCase]

/-- The runs of lower case but for `A` to `Z`. -/
def lowerRunsBeyond : List Run := lowerRuns.tail

theorem not_ascii_of_mem_domain : ∀ n ∈ domain lowerExpansions lowerRunsBeyond, ¬ n < 0x80 := by
  decide +kernel

theorem ascii_of_mem_images : ∀ n ∈ images lowerExpansions lowerRunsBeyond,
    n.isValidChar ∧ (n < 0x80 → n = 'i'.toNat ∨ n = 'k'.toNat) := by
  decide +kernel

/-- Outside `A` to `Z` the first run makes no difference. -/
theorem lowerChar_of_not_letter {c : Char} (h : ¬ (0x41 ≤ c.toNat ∧ c.toNat ≤ 0x5A)) :
    lowerChar c = mapCase lowerExpansions lowerRunsBeyond c := by
  have hruns : lowerRuns = ⟨0x41, 0x5A, 1, 32⟩ :: lowerRunsBeyond := rfl
  rw [lowerChar, hruns, mapCase_cons_of_not_contains]
  simp only [Run.contains, Bool.and_eq_true, decide_eq_true_eq]
  exact fun hc => h hc.1

/-- **On ASCII, `lowerChar` is `Char.toLower`** — the first run, and nothing beyond it. -/
theorem lowerChar_of_ascii {c : Char} (h : c.toNat < 0x80) : lowerChar c = [c.toLower] := by
  by_cases hletter : 0x41 ≤ c.toNat ∧ c.toNat ≤ 0x5A
  · have hletters : ∀ n ∈ List.range' 0x41 26,
        lowerChar (Char.ofNat n) = [(Char.ofNat n).toLower] := by decide
    rw [← Char.ofNat_toNat c]
    exact hletters _ (List.mem_range'_1.2 (by omega))
  · rw [lowerChar_of_not_letter hletter,
      mapCase_of_notMem_domain fun hc => not_ascii_of_mem_domain _ hc h,
        Char.toLower_eq_of_not_isUpper]
    simpa [Char.isUpper, UInt32.le_iff_toNat_le] using hletter

/-- **Of the ASCII letters, only `i` and `k` are lower case of anything else** — of `İ` (U+0130) and
of the Kelvin sign (U+212A). -/
theorem eq_i_or_k_of_mem_lowerChar {c d : Char} (hc : ¬ c.toNat < 0x80) (hmem : d ∈ lowerChar c)
    (hd : d.toNat < 0x80) : d = 'i' ∨ d = 'k' := by
  rw [lowerChar_of_not_letter (by omega)] at hmem
  rcases mapCase_cases c with hself | himages
  · rw [hself] at hmem
    exact absurd (List.mem_singleton.1 hmem ▸ hd) hc
  · obtain ⟨n, hn, rfl⟩ := himages d hmem
    obtain ⟨hvalid, hascii⟩ := ascii_of_mem_images n hn
    rw [Char.toNat_ofNat, if_pos hvalid] at hd
    rcases hascii hd with rfl | rfl
    · exact .inl rfl
    · exact .inr rfl

theorem lowerChar_ne_nil (c : Char) : lowerChar c ≠ [] := mapCase_ne_nil (by decide) c

theorem lower_of_ascii {s : String} (h : ∀ c ∈ s.toList, c.toNat < 0x80) : lower s = s.toLower := by
  rw [← String.toList_inj, toList_lower, String.toLower, String.toList_map,
    List.flatMap_eq_map_iff lowerChar_ne_nil]
  exact fun c hc => lowerChar_of_ascii (h c hc)

theorem toLower_eq_self_of_not_ascii {c : Char} (h : ¬ c.toNat < 0x80) : c.toLower = c := by
  refine Char.toLower_eq_of_not_isUpper fun hupper => h ?_
  simp only [Char.isUpper, UInt32.le_iff_toNat_le, decide_eq_true_eq] at hupper
  exact Nat.lt_of_le_of_lt hupper.2 (by decide)

/-- **Lower case is a word without `i` and `k` exactly if ASCII lower case is** — a text with
another character outside ASCII keeps one in lower case. -/
theorem lower_eq_iff {s word : String}
    (hword : ∀ d ∈ word.toList, d.toNat < 0x80 ∧ d ≠ 'i' ∧ d ≠ 'k') :
    lower s = word ↔ s.toLower = word := by
  have hascii : lower s = word ∨ s.toLower = word → ∀ c ∈ s.toList, c.toNat < 0x80 := by
    rintro h c hc
    by_contra hbeyond
    rcases h with rfl | rfl
    · obtain ⟨d, ds, hlower⟩ := List.exists_cons_of_ne_nil (lowerChar_ne_nil c)
      have hd : d ∈ lowerChar c := hlower ▸ List.mem_cons_self
      obtain ⟨hd', hi, hk⟩ := hword d (toList_lower s ▸ List.mem_flatMap.2 ⟨c, hc, hd⟩)
      exact (eq_i_or_k_of_mem_lowerChar hbeyond hd hd').elim hi hk
    · refine hbeyond (hword c ?_).1
      rw [String.toLower, String.toList_map, ← toLower_eq_self_of_not_ascii hbeyond]
      exact List.mem_map_of_mem hc
  constructor
  · intro h
    rw [← lower_of_ascii (hascii (.inl h)), h]
  · intro h
    rw [lower_of_ascii (hascii (.inr h)), h]

/-! ## The final sigma

A capital sigma is the one letter whose lower case depends on its neighbours: it is `ς` at the end
of a word and `σ` anywhere else.  `lower` writes `σ` everywhere, and no ASCII word can tell. -/

/-- **`t` is `s` in lower case, up to the shape of its sigmas** — every character is mapped by
`lowerChar`, except that a capital sigma may have become `ς` as well, wherever it stands. -/
def LowersTo (s t : String) : Prop :=
  ∃ parts : List (List Char), t.toList = parts.flatten ∧
    List.Forall₂ (fun c part => part = lowerChar c ∨ c = 'Σ' ∧ part = ['ς']) s.toList parts

theorem lowersTo_lower (s : String) : LowersTo s (lower s) := by
  refine ⟨s.toList.map lowerChar, ?_, List.forall₂_map_right_iff.2 (List.forall₂_same.2 ?_)⟩
  · rw [toList_lower, List.flatMap_def]
  · exact fun c _ => .inl rfl

/-- **The shape of the sigmas shows in texts outside ASCII only** — so whichever form of a sigma is
written, an ASCII word is the lower case of the same texts. -/
theorem LowersTo.eq_iff {s t word : String} (h : LowersTo s t)
    (hword : ∀ d ∈ word.toList, d.toNat < 0x80) : t = word ↔ lower s = word := by
  obtain ⟨parts, ht, hparts⟩ := h
  have hsame : parts.flatten = s.toList.flatMap lowerChar ∨
      (∃ d ∈ parts.flatten, ¬ d.toNat < 0x80) ∧ ∃ d ∈ s.toList.flatMap lowerChar,
        ¬ d.toNat < 0x80 := by
    generalize s.toList = cs at hparts
    clear ht
    induction hparts with
    | nil => exact .inl rfl
    | @cons c part cs parts hpart _ ih =>
      rw [List.flatten_cons, List.flatMap_cons]
      obtain rfl | ⟨rfl, rfl⟩ := hpart
      · obtain heq | ⟨⟨d, hd, hbeyond⟩, d', hd', hbeyond'⟩ := ih
        · exact .inl (congrArg _ heq)
        · exact .inr ⟨⟨d, List.mem_append_right _ hd, hbeyond⟩,
            d', List.mem_append_right _ hd', hbeyond'⟩
      · have hsigma : lowerChar 'Σ' = ['σ'] := by decide
        refine .inr ⟨⟨'ς', List.mem_cons_self, by decide⟩, 'σ', ?_, by decide⟩
        exact List.mem_append_left _ (hsigma ▸ List.mem_cons_self)
  rw [← String.toList_inj, ht, ← String.toList_inj, toList_lower]
  obtain heq | ⟨⟨d, hd, hbeyond⟩, d', hd', hbeyond'⟩ := hsame
  · rw [heq]
  · exact iff_of_false (fun h => hbeyond (hword d (h ▸ hd))) fun h => hbeyond' (hword d' (h ▸ hd'))

end BackendPlan.Text
