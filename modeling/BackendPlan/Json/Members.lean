/-!
# Json/Members — the members of an object, in the order of their keys

An object's members are a list of key and value.  A list in strictly increasing key order is the
**sorted** form: it has no key twice, and two sorted lists with the same look-ups are the same list,
so equality of sorted members is equality of objects.  `insert` keeps the form, hence so does
everything built from it.

* `get?_insert` — inserting changes the look-up of its key only; the later value wins.
* `Sorted.insert`, `sorted_ofList` — the sorted form is kept, and reached from any list.
-/

namespace BackendPlan

/-- **The members of an object**: a `List`, so that documents keep their written order and a key may
occur twice. -/
abbrev Members (α : Type) := List (String × α)

namespace Members

variable {α : Type}

/-- The value of `key`; of several members with the key, the first counts. -/
def get? (ms : Members α) (key : String) : Option α := List.lookup key ms

/-- **Put a member in its place by `key`**, in the stead of one that has the key already. -/
def insert (key : String) (value : α) : Members α → Members α
  | [] => [(key, value)]
  | (k, v) :: rest =>
    if key = k then (key, value) :: rest
    else if key < k then (key, value) :: (k, v) :: rest
    else (k, v) :: insert key value rest

/-- Insert the members of `patch` one after another — its values win over those of `base`. -/
def overlay (base patch : Members α) : Members α :=
  patch.foldl (fun acc m => insert m.1 m.2 acc) base

/-- **The sorted form of a list of members**: of two with one key the later stays, since `overlay`
inserts one after the other. -/
def ofList (ms : Members α) : Members α := overlay [] ms

/-- Keys strictly increase along the list, so none occurs twice. -/
def Sorted (ms : Members α) : Prop := ms.Pairwise fun m n => m.1 < n.1

/-! ## Look-up

The view of the members: each operation is known by what it does to `get?`. -/

@[simp] theorem get?_nil (key : String) : get? ([] : Members α) key = none := rfl

theorem get?_cons (k : String) (v : α) (ms : Members α) (key : String) :
    get? ((k, v) :: ms) key = if key = k then some v else get? ms key := by
  by_cases h : key = k
  · simp [get?, h]
  · simp [get?, List.lookup_cons, beq_false_of_ne h, h]

/-- **Inserting changes the look-up of its own key only.** -/
theorem get?_insert (key : String) (value : α) (ms : Members α) (k : String) :
    get? (insert key value ms) k = if k = key then some value else get? ms k := by
  induction ms with
  | nil => simp [insert, get?_cons]
  | cons m rest ih =>
    obtain ⟨k', v'⟩ := m
    by_cases h : key = k'
    · subst h
      simp only [insert, if_true, get?_cons]
      by_cases hk : k = key <;> simp [hk]
    · by_cases hlt : key < k'
      · simp only [insert, h, hlt, if_true, if_false, get?_cons]
      · simp only [insert, h, hlt, if_false, get?_cons, ih]
        by_cases hk : k = k'
        · subst hk
          simp [Ne.symm h]
        · simp [hk]

/-! ## The sorted form -/

theorem Sorted.tail {m : String × α} {ms : Members α} (h : Sorted (m :: ms)) : Sorted ms :=
  (List.pairwise_cons.1 h).2

theorem mem_insert {key : String} {value : α} {ms : Members α} {m : String × α}
    (h : m ∈ insert key value ms) : m = (key, value) ∨ m ∈ ms := by
  induction ms with
  | nil => simpa [insert] using h
  | cons n rest ih =>
    simp only [insert] at h
    split at h
    · rcases List.mem_cons.1 h with h | h
      · exact .inl h
      · exact .inr (List.mem_cons_of_mem _ h)
    · split at h
      · rcases List.mem_cons.1 h with h | h
        · exact .inl h
        · exact .inr h
      · rcases List.mem_cons.1 h with h | h
        · exact .inr (h ▸ List.mem_cons_self)
        · exact (ih h).imp_right (List.mem_cons_of_mem _)

/-- **Insertion keeps the sorted form** — hence so does `overlay`, which is made of insertions. -/
theorem Sorted.insert {ms : Members α} (hs : Sorted ms) (key : String) (value : α) :
    Sorted (insert key value ms) := by
  induction ms with
  | nil => simp [Members.insert, Sorted]
  | cons m rest ih =>
    obtain ⟨k, v⟩ := m
    have hhead := (List.pairwise_cons.1 hs).1
    simp only [Members.insert]
    split
    · next h =>
      subst h
      exact List.pairwise_cons.2 ⟨hhead, hs.tail⟩
    · next hne =>
      split
      · next hlt =>
        refine List.pairwise_cons.2 ⟨fun n hn => ?_, hs⟩
        rcases List.mem_cons.1 hn with rfl | hn
        · exact hlt
        · exact Std.lt_trans hlt (hhead n hn)
      · next hle =>
        refine List.pairwise_cons.2 ⟨fun n hn => ?_, ih hs.tail⟩
        rcases mem_insert hn with rfl | hn
        · rcases Std.lt_trichotomy key k with h | h | h
          · exact absurd h hle
          · exact absurd h hne
          · exact h
        · exact hhead n hn

theorem Sorted.overlay {base : Members α} (hs : Sorted base) (patch : Members α) :
    Sorted (overlay base patch) := by
  induction patch generalizing base with
  | nil => exact hs
  | cons m rest ih => exact ih (hs.insert m.1 m.2)

/-- **Every list has a sorted form.** -/
theorem sorted_ofList (ms : Members α) : Sorted (ofList ms) :=
  Sorted.overlay List.Pairwise.nil ms

end Members

end BackendPlan
