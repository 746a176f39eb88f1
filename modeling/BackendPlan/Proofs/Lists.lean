import Mathlib.Data.List.DropRight
import Mathlib.Data.List.FinRange
import Mathlib.Data.List.Nodup

/-!
# Proofs/Lists — general facts about lists

Runs are lists, so statements about runs come down to a few facts about lists that say nothing of
what the lists hold.  They are collected here, by the way in which a list is taken apart:

* at its **end** — a history grows by one step at a time: `filterMap_concat`,
  `concat_eq_append_cons`, `get_foldl` (what is set in the end is what the last of the steps set);
* by its **repetitions** — `nodup_eraseDups`, `eraseDups_of_nodup`, `eraseDups_concat`;
* **element by element** — `flatMap_eq_map_iff`, and `perm_flatMap_filter` (a list sorted into the
  parts that disjoint tests cut out of it).
-/

namespace List

variable {α β σ : Type}

/-! ## The end of a list -/

/-- **A step more is mapped by itself** — the twin of `List.filterMap_cons` at the other end, where
runs grow. -/
theorem filterMap_concat (f : α → Option β) (l : List α) (a : α) :
    (l ++ [a]).filterMap f = l.filterMap f ++ (f a).toList := by
  rw [filterMap_append, filterMap_cons, filterMap_nil]
  cases f a <;> rfl

theorem nil_ne_append_cons (front : List α) (a : α) (back : List α) : [] ≠ front ++ a :: back :=
  (append_ne_nil_of_right_ne_nil front (cons_ne_nil a back)).symm

/-- **An element of `l ++ [last]` is `last` itself or stands in `l`** — with the two lists around it
followed through, which `List.mem_append` forgets. -/
theorem concat_eq_append_cons {l front back : List α} {last a : α}
    (h : l ++ [last] = front ++ a :: back) :
    (front = l ∧ a = last ∧ back = []) ∨
      ∃ rest, l = front ++ a :: rest ∧ back = rest ++ [last] := by
  rcases eq_nil_or_concat' back with rfl | ⟨rest, final, rfl⟩
  · obtain ⟨hfront, hlast⟩ := append_inj' h rfl
    exact .inl ⟨hfront.symm, (singleton_inj.1 hlast).symm, rfl⟩
  · rw [← cons_append, ← append_assoc] at h
    obtain ⟨hl, hlast⟩ := append_inj' h rfl
    exact .inr ⟨rest, hl, congrArg (rest ++ ·) hlast.symm⟩

/-- **What is set in the end is what the last step set** — where a step sets `get` by `set?` or
leaves it alone, the whole fold sets it to the last of `steps.filterMap set?`, if there is one. -/
theorem get_foldl (get : α → Option β) (set? : σ → Option β) (apply : α → σ → α)
    (hstep : ∀ a s, get (apply a s) = (set? s).or (get a)) (steps : List σ) (a : α) :
    get (steps.foldl apply a) = (steps.filterMap set?).getLast?.or (get a) := by
  induction steps generalizing a with
  | nil => rfl
  | cons s steps ih =>
    rw [foldl_cons, ih, hstep, filterMap_cons]
    cases set? s with
    | none => rfl
    | some b =>
      rw [getLast?_cons]
      cases (steps.filterMap set?).getLast? <;> rfl

/-! ## Repetitions -/

section Repetitions

variable [DecidableEq α]

theorem eraseDups_concat (l : List α) (a : α) :
    (l ++ [a]).eraseDups = if a ∈ l.eraseDups then l.eraseDups else l.eraseDups ++ [a] := by
  rw [eraseDups_append]
  split
  · next hmem => simp [removeAll, mem_eraseDups.1 hmem]
  · next hmem => simp [removeAll, mt mem_eraseDups.2 hmem, eraseDups_cons]

/-- **Nothing is repeated after `eraseDups`** — by `eraseDups_concat`, since the core library has no
lemma on it. -/
theorem nodup_eraseDups (l : List α) : l.eraseDups.Nodup := by
  induction l using reverseRecOn with
  | nil => exact nodup_nil
  | append_singleton l a ih =>
    rw [eraseDups_concat]
    split
    · exact ih
    · next hmem =>
      refine nodup_append.2 ⟨ih, pairwise_singleton _ a, fun b hb c hc => ?_⟩
      rw [mem_singleton.1 hc]
      exact fun heq => hmem (heq ▸ hb)

theorem eraseDups_of_nodup {l : List α} (h : l.Nodup) : l.eraseDups = l := by
  induction l with
  | nil => rfl
  | cons a l ih =>
    obtain ⟨ha, hrest⟩ := nodup_cons.1 h
    have hkeep : l.filter (fun b => !b == a) = l :=
      filter_eq_self.2 fun b hb => by simpa using fun heq : b = a => ha (heq ▸ hb)
    rw [eraseDups_cons, hkeep, ih hrest]

end Repetitions

/-! ## Element by element -/

/-- **A mapping that loses no element gives one for each exactly if it does so everywhere** — the
lengths alone force `f a` down to one element, so no injectivity is needed. -/
theorem flatMap_eq_map_iff {f : α → List α} {g : α → α} (hf : ∀ a, f a ≠ []) (as : List α) :
    as.flatMap f = as.map g ↔ ∀ a ∈ as, f a = [g a] := by
  have hlength : ∀ as : List α, as.length ≤ (as.flatMap f).length := by
    intro as
    induction as with
    | nil => exact Nat.le_refl 0
    | cons a as ih =>
      have ha := length_pos_iff.2 (hf a)
      simp only [flatMap_cons, length_append, length_cons]
      omega
  induction as with
  | nil => simp
  | cons a as ih =>
    rw [flatMap_cons, map_cons, forall_mem_cons]
    constructor
    · intro h
      have hcount := congrArg length h
      have hrest := hlength as
      have ha := length_pos_iff.2 (hf a)
      rw [length_append, length_cons, length_map] at hcount
      obtain ⟨b, hb⟩ := length_eq_one_iff.1 (show (f a).length = 1 by omega)
      rw [hb, singleton_append] at h
      obtain ⟨rfl, has⟩ := cons.inj h
      exact ⟨hb, ih.1 has⟩
    · rintro ⟨ha, has⟩
      rw [ha, ih.2 has, singleton_append]

/-- **A list is the sum of its parts** — where every element passes exactly one of the tests `p c`,
the parts that the tests cut out of the list make it up again, in another order. -/
theorem perm_flatMap_filter {n : Nat} (p : Fin n → α → Bool) {l : List α}
    (h : ∀ a ∈ l, ∃ c, p c a = true ∧ ∀ d, p d a = true → d = c) :
    l.Perm ((finRange n).flatMap fun c => l.filter (p c)) := by
  induction l with
  | nil => simp
  | cons a l ih =>
    obtain ⟨⟨c, hc, hunique⟩, hrest⟩ := forall_mem_cons.1 h
    obtain ⟨front, back, hsplit⟩ := append_of_mem (mem_finRange c)
    have hdistinct : c ∉ front ++ back :=
      (nodup_cons.1 (nodup_middle.1 (hsplit ▸ nodup_finRange n))).1
    have hother (cs : List (Fin n)) (hcs : c ∉ cs) :
        (cs.flatMap fun d => (a :: l).filter (p d)) = cs.flatMap fun d => l.filter (p d) :=
      flatMap_congr fun d hd => filter_cons_of_neg fun hpd => hcs (hunique d hpd ▸ hd)
    have hsum := (ih hrest).cons a
    rw [hsplit] at hsum ⊢
    rw [flatMap_append, flatMap_cons] at hsum ⊢
    rw [hother front (mt (mem_append_left _) hdistinct),
      hother back (mt (mem_append_right _) hdistinct), filter_cons_of_pos hc]
    exact hsum.trans perm_middle.symm

end List
