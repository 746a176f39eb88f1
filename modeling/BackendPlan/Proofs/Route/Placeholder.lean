import BackendPlan.Route
import Mathlib.Data.List.Basic
import Mathlib.Data.List.Infix

/-!
# Proofs/Route/Placeholder — a path names exactly the parameters that occur in it

The search goes on behind a placeholder that it finds, so it never looks inside one.  Nothing is
missed by that: what starts a placeholder is a brace, and there is none in a name.

    every position of the path  ⊇  the positions searched  ⊇  those where a placeholder starts

* `first?_eq_some_iff` — what a placeholder at the front is.
* `names_eq_occurrences` — **searching behind what was found is searching everywhere.**
* `pathParams_exact` — the parameters of a path are its occurrences, one for one and in their order.
-/

namespace BackendPlan

namespace Placeholder

/-! ## A placeholder at the front -/

/-- A name: a letter or an underscore, followed by letters, digits and underscores. -/
def IsName (name : List Char) : Prop :=
  ∃ c cs, name = c :: cs ∧ isNameStart c = true ∧ ∀ d ∈ cs, isNameChar d = true

/-- A name between its braces. -/
def braced (name : List Char) : List Char := '\x7b' :: (name ++ ['\x7d'])

theorem isNameChar_of_isNameStart {c : Char} (h : isNameStart c = true) : isNameChar c = true := by
  rcases Bool.or_eq_true_iff.1 h with h | h
  · simp [isNameChar, Char.isAlphanum, h]
  · simp [isNameChar, h]

theorem IsName.forall_isNameChar {name : List Char} (h : IsName name) :
    ∀ d ∈ name, isNameChar d = true := by
  obtain ⟨c, cs, rfl, hc, hcs⟩ := h
  exact List.forall_mem_cons.2 ⟨isNameChar_of_isNameStart hc, hcs⟩

/-- What is not in a name is only in the braces around it. -/
theorem IsName.notMem_braced {name : List Char} (h : IsName name) {d : Char}
    (hd : isNameChar d = false) (hopen : d ≠ '\x7b') (hclose : d ≠ '\x7d') : d ∉ braced name := by
  have hname : d ∉ name := fun hmem => Bool.false_ne_true
    (hd.symm.trans (h.forall_isNameChar d hmem))
  simp [braced, hopen, hclose, hname]

theorem closed?_eq_some_iff {cs name rest : List Char} :
    closed? cs = some (name, rest) ↔
      (∀ d ∈ name, isNameChar d = true) ∧ cs = name ++ '\x7d' :: rest := by
  constructor
  · intro h
    unfold closed? at h
    split at h
    · next rest' hdrop =>
      obtain ⟨rfl, rfl⟩ := Prod.mk.inj (Option.some.inj h)
      refine ⟨List.all_eq_true.1 List.all_takeWhile, ?_⟩
      rw [← hdrop, List.takeWhile_append_dropWhile]
    · simp at h
  · rintro ⟨hname, rfl⟩
    have hstop : ¬ isNameChar '\x7d' = true := by decide
    rw [closed?, List.dropWhile_append_of_pos hname, List.takeWhile_append_of_pos hname,
      List.dropWhile_cons_of_neg hstop, List.takeWhile_cons_of_neg hstop, List.append_nil]
    rfl

/-- **What a placeholder at the front is** — a name between braces, `braced name`, and nothing is
left to choose. -/
theorem first?_eq_some_iff {cs name rest : List Char} :
    first? cs = some (name, rest) ↔ IsName name ∧ cs = braced name ++ rest := by
  constructor
  · intro h
    unfold first? at h
    split at h
    · next c cs =>
      split at h
      · next hc =>
        obtain ⟨hname, heq⟩ := closed?_eq_some_iff.1 h
        refine ⟨?_, by rw [heq]; simp [braced]⟩
        cases name with
        | nil => exact absurd ((List.cons.inj heq).1 ▸ hc) (by decide)
        | cons d ds =>
          obtain ⟨rfl, -⟩ := List.cons.inj heq
          exact ⟨_, ds, rfl, hc, fun e he => hname e (List.mem_cons_of_mem _ he)⟩
      · exact absurd h nofun
    · exact absurd h nofun
  · rintro ⟨⟨c, cs, rfl, hc, hcs⟩, rfl⟩
    rw [braced, List.cons_append, List.cons_append, List.cons_append, first?, if_pos hc]
    exact closed?_eq_some_iff.2 ⟨IsName.forall_isNameChar ⟨c, cs, rfl, hc, hcs⟩, by simp⟩

/-- The name of a placeholder at the front. -/
def name? (cs : List Char) : Option (List Char) := (first? cs).map Prod.fst

theorem name?_eq_some_iff {cs name : List Char} :
    name? cs = some name ↔ IsName name ∧ braced name <+: cs := by
  rw [name?, Option.map_eq_some_iff]
  constructor
  · rintro ⟨⟨name, rest⟩, h, rfl⟩
    obtain ⟨hname, rfl⟩ := first?_eq_some_iff.1 h
    exact ⟨hname, List.prefix_append _ _⟩
  · rintro ⟨hname, rest, rfl⟩
    exact ⟨(name, rest), first?_eq_some_iff.2 ⟨hname, rfl⟩, rfl⟩

/-- A placeholder does not reach across a character that cannot stand in it. -/
theorem name?_append_cons {sep : Char} (hsep : isNameChar sep = false) (hopen : sep ≠ '\x7b')
    (hclose : sep ≠ '\x7d') (cs rest : List Char) : name? (cs ++ sep :: rest) = name? cs := by
  refine Option.ext fun name => ?_
  rw [name?_eq_some_iff, name?_eq_some_iff]
  refine and_congr_right fun hname => ⟨fun hprefix => ?_, fun hprefix => ?_⟩
  · have hnot : sep ∉ braced name := hname.notMem_braced hsep hopen hclose
    have hcut : cs ++ [sep] <+: cs ++ sep :: rest := ⟨rest, by simp⟩
    rcases List.prefix_or_prefix_of_prefix hprefix hcut with hle | hge
    · rcases List.prefix_concat_iff.1 hle with heq | hle
      · exact absurd (heq ▸ List.mem_concat_self) hnot
      · exact hle
    · exact absurd (hge.subset List.mem_concat_self) hnot
  · exact hprefix.trans (List.prefix_append _ _)

/-! ## Searching everywhere -/

/-- **The placeholders of a text by position**, looked for at every position — the text begins at
`i`. -/
def occurrencesFrom (i : Nat) : List Char → List (Nat × List Char)
  | [] => []
  | c :: cs => ((name? (c :: cs)).map (i, ·)).toList ++ occurrencesFrom (i + 1) cs

theorem mem_occurrencesFrom {i j : Nat} {cs name : List Char} :
    (j, name) ∈ occurrencesFrom i cs ↔
      IsName name ∧
        ∃ before after, cs = before ++ braced name ++ after ∧ j = i + before.length := by
  induction cs generalizing i with
  | nil => simp [occurrencesFrom, braced]
  | cons c cs ih =>
    have hhere : (j, name) ∈ ((name? (c :: cs)).map (i, ·)).toList ↔
        IsName name ∧ braced name <+: c :: cs ∧ j = i := by
      rw [Option.mem_toList, Option.map_eq_some_iff, ← and_assoc, ← name?_eq_some_iff]
      constructor
      · rintro ⟨name, h, heq⟩
        obtain ⟨rfl, rfl⟩ := Prod.mk.inj heq
        exact ⟨h, rfl⟩
      · rintro ⟨h, rfl⟩
        exact ⟨name, h, rfl⟩
    rw [occurrencesFrom, List.mem_append, hhere, ih, ← and_or_left]
    refine and_congr_right fun _ => ⟨?_, ?_⟩
    · rintro (⟨⟨after, heq⟩, rfl⟩ | ⟨before, after, rfl, rfl⟩)
      · exact ⟨[], after, heq.symm, rfl⟩
      · exact ⟨c :: before, after, rfl, by rw [List.length_cons]; omega⟩
    · rintro ⟨before, after, heq, rfl⟩
      cases before with
      | nil => exact .inl ⟨⟨after, heq.symm⟩, rfl⟩
      | cons d before =>
        obtain ⟨rfl, rfl⟩ := List.cons.inj heq
        exact .inr ⟨before, after, rfl, by rw [List.length_cons]; omega⟩

/-- The positions go up. -/
theorem pairwise_occurrencesFrom (i : Nat) (cs : List Char) :
    (occurrencesFrom i cs).Pairwise (·.1 < ·.1) := by
  induction cs generalizing i with
  | nil => exact .nil
  | cons c cs ih =>
    rw [occurrencesFrom]
    cases name? (c :: cs) with
    | none => exact ih (i + 1)
    | some name =>
      refine List.pairwise_cons.2 ⟨?_, ih (i + 1)⟩
      rintro ⟨j, other⟩ hmem
      obtain ⟨-, before, -, -, rfl⟩ := mem_occurrencesFrom.1 hmem
      exact Nat.lt_of_lt_of_le (Nat.lt_succ_self i) (Nat.le_add_right _ _)

/-- No placeholder starts where there is no `{`. -/
theorem occurrencesFrom_append {skipped : List Char} (h : '\x7b' ∉ skipped) (i : Nat)
    (rest : List Char) :
    occurrencesFrom i (skipped ++ rest) = occurrencesFrom (i + skipped.length) rest := by
  induction skipped generalizing i with
  | nil => rfl
  | cons c skipped ih =>
    obtain ⟨hc, hskipped⟩ := not_or.1 (mt List.mem_cons.2 h)
    have hnone : name? (c :: (skipped ++ rest)) = none := by
      refine Option.eq_none_iff_forall_ne_some.2 fun name hname => hc ?_
      obtain ⟨after, heq⟩ := (name?_eq_some_iff.1 hname).2
      exact (List.cons.inj heq).1
    rw [List.cons_append, occurrencesFrom, hnone, ih hskipped, List.length_cons, Nat.add_right_comm]
    rfl

/-- **Searching behind what was found is searching everywhere** — no placeholder starts in another,
by `occurrencesFrom_append`. -/
theorem names_eq_occurrences (i : Nat) (cs : List Char) :
    names cs = (occurrencesFrom i cs).map Prod.snd := by
  fun_induction names cs generalizing i with
  | case1 cs name rest found ih =>
    obtain ⟨hname, rfl⟩ := first?_eq_some_iff.1 found
    have hinside : '\x7b' ∉ name ++ ['\x7d'] := by
      have hnot : '\x7b' ∉ name := fun hmem => absurd (hname.forall_isNameChar _ hmem) (by decide)
      simp [hnot]
    have hhere : name? (braced name ++ rest) = some name :=
      name?_eq_some_iff.2 ⟨hname, List.prefix_append _ _⟩
    rw [braced, List.cons_append] at hhere ⊢
    rw [occurrencesFrom, hhere, occurrencesFrom_append hinside, List.map_append, ← ih]
    rfl
  | case2 => rfl
  | case3 c cs found ih =>
    rw [occurrencesFrom, name?, found]
    exact ih (i + 1)

/-- A text is searched on both sides of a character, such as `/`, that cannot stand in a
placeholder. -/
theorem names_append_cons {sep : Char} (hsep : isNameChar sep = false) (hopen : sep ≠ '\x7b')
    (hclose : sep ≠ '\x7d') (cs rest : List Char) :
    names (cs ++ sep :: rest) = names cs ++ names rest := by
  have hoccur : ∀ i, occurrencesFrom i (cs ++ sep :: rest) =
      occurrencesFrom i cs ++ occurrencesFrom (i + cs.length + 1) rest := by
    induction cs with
    | nil =>
      intro i
      have hskipped : '\x7b' ∉ [sep] := by simpa using hopen.symm
      exact occurrencesFrom_append hskipped i rest
    | cons c cs ih =>
      intro i
      rw [List.cons_append, occurrencesFrom, ← List.cons_append,
        name?_append_cons hsep hopen hclose, ih, occurrencesFrom, List.append_assoc,
        List.length_cons, Nat.add_right_comm i 1, Nat.add_assoc i]
  rw [names_eq_occurrences 0 (cs ++ _), hoccur, List.map_append, ← names_eq_occurrences,
    ← names_eq_occurrences]

end Placeholder

/-! ## Paths -/

/-- The text of a placeholder with this name is at this position of the path, counted in
characters. -/
def OccursAt (path : String) (i : Nat) (name : String) : Prop :=
  Placeholder.IsName name.toList ∧
    ∃ before after : String, path = before ++ "\x7b" ++ name ++ "\x7d" ++ after ∧ before.length = i

theorem occursAt_iff_mem {path : String} {i : Nat} {name : String} :
    OccursAt path i name ↔ (i, name.toList) ∈ Placeholder.occurrencesFrom 0 path.toList := by
  rw [Placeholder.mem_occurrencesFrom, OccursAt]
  refine and_congr_right fun _ => ⟨?_, ?_⟩
  · rintro ⟨before, after, rfl, rfl⟩
    exact ⟨before.toList, after.toList, by simp [Placeholder.braced],
      by simp [String.length_toList]⟩
  · rintro ⟨before, after, heq, rfl⟩
    refine ⟨String.ofList before, String.ofList after, String.toList_inj.1 ?_, by simp⟩
    simp [heq, Placeholder.braced]

/-- **A path names exactly the parameters that occur in it.**  Its parameters are the names of the
placeholders in it, one for each position where the text of one stands and in the order of these
positions; so those of two paths joined by a slash are those of the one and then those of the
other. -/
theorem pathParams_exact (path : String) :
    (∃ found : List (Nat × String), found.Pairwise (·.1 < ·.1) ∧
      (∀ i name, (i, name) ∈ found ↔ OccursAt path i name) ∧
      pathParams path = found.map Prod.snd) ∧
    ∀ rest, pathParams (path ++ "/" ++ rest) = pathParams path ++ pathParams rest := by
  refine ⟨⟨(Placeholder.occurrencesFrom 0 path.toList).map fun found =>
    (found.1, String.ofList found.2), ?_, fun i name => ?_, ?_⟩, fun rest => ?_⟩
  · exact List.pairwise_map.2 (Placeholder.pairwise_occurrencesFrom 0 path.toList)
  · rw [occursAt_iff_mem, List.mem_map]
    constructor
    · rintro ⟨⟨j, found⟩, hmem, heq⟩
      obtain ⟨rfl, rfl⟩ := Prod.mk.inj heq
      rwa [String.toList_ofList]
    · intro hmem
      exact ⟨_, hmem, by rw [String.ofList_toList]⟩
  · rw [pathParams, Placeholder.names_eq_occurrences 0, List.map_map, List.map_map]
    rfl
  · have hsplit : (path ++ "/" ++ rest).toList = path.toList ++ '/' :: rest.toList := by simp
    rw [pathParams, hsplit, Placeholder.names_append_cons (by decide) (by decide) (by decide),
      List.map_append, pathParams, pathParams]

/-- A placeholder may start in what looked like the name of another. -/
example : pathParams "/\x7ba\x7bb\x7d/\x7b1\x7by_1\x7d\x7d" = ["b", "y_1"] := by
  decide +kernel

end BackendPlan
