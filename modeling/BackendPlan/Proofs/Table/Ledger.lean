import BackendPlan.Table.Items
import Mathlib.Data.List.Nodup

/-!
# Proofs/Table/Ledger — a store of items is an ordered list of pairs

A store keeps the keys in one structure and the items in another.  A **ledger** is the one list both
stand for: pairs of key and item, in the order in which the keys came.

* `Items.Represents` — the store and the ledger have the same keys in the same order, none twice,
  and the same look-ups.
* `Represents.insert`, `Represents.update`, `Represents.remove` — the two are kept in step.
* `Represents.scan_eq`, `Represents.size_eq` — what can be observed of the store is read off the
  ledger.
-/

namespace BackendPlan

/-- **Keys with their items**, in the order in which the keys came — one list where `Items` keeps
two structures. -/
abbrev Ledger := List (String × Json)

namespace Ledger

/-! ## The operations on a list of pairs -/

/-- The keys in their order. -/
def keys (ledger : Ledger) : List String := ledger.map Prod.fst

/-- The item of `key`. -/
def get? (ledger : Ledger) (key : String) : Option Json := ledger.lookup key

/-- Replace the pair of `key` where it stands, or append one: an item put again keeps its place. -/
def set (key : String) (item : Json) : Ledger → Ledger
  | [] => [(key, item)]
  | (k, v) :: rest => if k = key then (key, item) :: rest else (k, v) :: set key item rest

/-- Change the item of `key` by `f` where it stands, if there is one. -/
def change (key : String) (f : Json → Json) : Ledger → Ledger
  | [] => []
  | (k, v) :: rest => if k = key then (k, f v) :: rest else (k, v) :: change key f rest

/-- Drop the pair of `key`. -/
def drop (key : String) (ledger : Ledger) : Ledger := ledger.filter fun pair => pair.1 ≠ key

@[simp] theorem keys_cons (k : String) (v : Json) (rest : Ledger) :
    keys ((k, v) :: rest) = k :: keys rest := rfl

theorem get?_cons (k : String) (v : Json) (rest : Ledger) (key : String) :
    get? ((k, v) :: rest) key = if key = k then some v else rest.get? key :=
  Members.get?_cons k v rest key

/-- **A key has an item exactly when it is listed** — true of a list of pairs by itself, and proved
of `Items` by `Represents`. -/
theorem isSome_get? (ledger : Ledger) (key : String) :
    (ledger.get? key).isSome ↔ key ∈ ledger.keys := by
  induction ledger with
  | nil => exact iff_of_false nofun List.not_mem_nil
  | cons pair rest ih =>
    obtain ⟨k, v⟩ := pair
    rw [get?_cons, keys_cons, List.mem_cons]
    split
    · next h => exact iff_of_true rfl (.inl h)
    · next h => rw [ih, or_iff_right h]

/-! ## What each operation does to keys and look-ups -/

theorem keys_set (key : String) (item : Json) (ledger : Ledger) :
    (ledger.set key item).keys =
      if key ∈ ledger.keys then ledger.keys else ledger.keys ++ [key] := by
  induction ledger with
  | nil => rfl
  | cons pair rest ih =>
    obtain ⟨k, v⟩ := pair
    by_cases h : k = key
    · subst h
      simp [set]
    · have hmem : key ∈ keys ((k, v) :: rest) ↔ key ∈ keys rest := by
        rw [keys_cons, List.mem_cons, or_iff_right (Ne.symm h)]
      rw [set, if_neg h, keys_cons, ih]
      by_cases hr : key ∈ keys rest
      · rw [if_pos hr, if_pos (hmem.2 hr), keys_cons]
      · rw [if_neg hr, if_neg (mt hmem.1 hr), keys_cons, List.cons_append]

theorem get?_set (key : String) (item : Json) (ledger : Ledger) (k : String) :
    (ledger.set key item).get? k = if k = key then some item else ledger.get? k := by
  induction ledger with
  | nil => rw [set, get?_cons]
  | cons pair rest ih =>
    obtain ⟨k', v⟩ := pair
    by_cases h : k' = key
    · subst h
      rw [set, if_pos rfl, get?_cons, get?_cons]
      split <;> rfl
    · rw [set, if_neg h, get?_cons, ih, get?_cons]
      exact ite_ite_comm _ _ _ _ fun hk => hk ▸ h

theorem keys_change (key : String) (f : Json → Json) (ledger : Ledger) :
    (ledger.change key f).keys = ledger.keys := by
  induction ledger with
  | nil => rfl
  | cons pair rest ih =>
    obtain ⟨k, v⟩ := pair
    rw [change]
    split
    · rfl
    · rw [keys_cons, keys_cons, ih]

theorem get?_change (key : String) (f : Json → Json) (ledger : Ledger) (k : String) :
    (ledger.change key f).get? k =
      if k = key then (ledger.get? key).map f else ledger.get? k := by
  induction ledger with
  | nil => split <;> rfl
  | cons pair rest ih =>
    obtain ⟨k', v⟩ := pair
    by_cases h : k' = key
    · subst h
      rw [change, if_pos rfl, get?_cons, get?_cons, get?_cons, if_pos rfl]
      split <;> rfl
    · rw [change, if_neg h, get?_cons, ih, get?_cons, get?_cons, if_neg (Ne.symm h)]
      exact ite_ite_comm _ _ _ _ fun hk => hk ▸ h

theorem keys_drop (key : String) (ledger : Ledger) :
    (ledger.drop key).keys = ledger.keys.filter (· ≠ key) := by
  rw [keys, drop, keys, List.filter_map]
  rfl

theorem get?_drop (key : String) (ledger : Ledger) (k : String) :
    (ledger.drop key).get? k = if k = key then none else ledger.get? k := by
  induction ledger with
  | nil => split <;> rfl
  | cons pair rest ih =>
    obtain ⟨k', v⟩ := pair
    by_cases h : k' = key
    · subst h
      have hdrop : drop k' ((k', v) :: rest) = drop k' rest :=
        List.filter_cons_of_neg (by simp)
      rw [hdrop, ih, get?_cons]
      split <;> rfl
    · have hdrop : drop key ((k', v) :: rest) = (k', v) :: drop key rest :=
        List.filter_cons_of_pos (by simpa using h)
      rw [hdrop, get?_cons, ih, get?_cons]
      exact ite_ite_comm _ _ _ _ fun hk => hk ▸ h

/-- **Looking up the keys in their order gives the items in their order** — when no key is listed
twice, as otherwise the first item would come twice. -/
theorem filterMap_get?_keys {ledger : Ledger} (h : ledger.keys.Nodup) :
    ledger.keys.filterMap ledger.get? = ledger.map Prod.snd := by
  induction ledger with
  | nil => rfl
  | cons pair rest ih =>
    obtain ⟨k, v⟩ := pair
    obtain ⟨hk, hrest⟩ := List.nodup_cons.1 h
    have htail :
        (keys rest).filterMap (get? ((k, v) :: rest)) = (keys rest).filterMap (get? rest) := by
      refine List.filterMap_congr fun key hkey => ?_
      rw [get?_cons, if_neg (ne_of_mem_of_not_mem hkey hk)]
    have hhead : get? ((k, v) :: rest) k = some v := by rw [get?_cons, if_pos rfl]
    rw [keys_cons, List.filterMap_cons_some hhead, htail, ih hrest, List.map_cons]

end Ledger

namespace Items

/-! ## The store of a ledger -/

/-- **The store stands for the ledger** — its `order` is the list of keys, without repetition, and
its `byKey` has the same look-ups. -/
structure Represents (items : Items) (ledger : Ledger) : Prop where
  order : items.order = ledger.keys
  distinct : ledger.keys.Nodup
  get? : ∀ key, items.get? key = ledger.get? key

theorem represents_empty : Represents {} [] where
  order := rfl
  distinct := List.nodup_nil
  get? := get?_empty

namespace Represents

variable {items : Items} {ledger : Ledger}

/-- `byKey` has a key exactly when the ledger lists it. -/
theorem mem_byKey (h : items.Represents ledger) (key : String) :
    key ∈ items.byKey ↔ key ∈ ledger.keys := by
  rw [← Ledger.isSome_get?, ← h.get?, Items.get?, Std.HashMap.isSome_getElem?_iff_mem]

/-- **Putting an item sets its pair** — the key is pushed to `order` exactly if the map had none. -/
theorem insert (h : items.Represents ledger) (key : String) (item : Json) :
    (items.insert key item).Represents (ledger.set key item) := by
  have horder : (items.insert key item).order = (ledger.set key item).keys := by
    rw [Ledger.keys_set, Items.insert, h.order]
    simp only [Std.HashMap.contains_iff_mem, h.mem_byKey]
  refine ⟨horder, ?_, fun k => ?_⟩
  · rw [Ledger.keys_set]
    split
    · exact h.distinct
    · next hnew => exact List.nodup_append'.2 ⟨h.distinct, List.nodup_singleton key, by simpa⟩
  · rw [get?_insert, Ledger.get?_set, h.get?]

/-- **Updating an item changes its pair where it stands** — `order` is not touched. -/
theorem update (h : items.Represents ledger) (key : String) (data : Json) :
    (items.update key data).Represents (ledger.change key (merge · data)) := by
  have horder : (items.update key data).order = items.order := by
    unfold Items.update
    split <;> rfl
  refine ⟨?_, ?_, fun k => ?_⟩
  · rw [horder, Ledger.keys_change, h.order]
  · rw [Ledger.keys_change]
    exact h.distinct
  · rw [get?_update, Ledger.get?_change, h.get?, h.get?]

/-- **Removing an item drops its pair** — from the map and from `order`, by the same key. -/
theorem remove (h : items.Represents ledger) (key : String) :
    (items.remove key).Represents (ledger.drop key) := by
  have horder : (items.remove key).order = items.order.filter (· ≠ key) := by
    unfold Items.remove
    split
    · rfl
    · next hnew =>
      -- an absent key is not listed, so that filtering it out keeps the list
      have habsent : key ∉ items.order := by
        rwa [h.order, ← h.mem_byKey, ← Std.HashMap.contains_iff_mem]
      refine (List.filter_eq_self.2 fun k hk => ?_).symm
      exact decide_eq_true (ne_of_mem_of_not_mem hk habsent)
  refine ⟨?_, ?_, fun k => ?_⟩
  · rw [horder, Ledger.keys_drop, h.order]
  · rw [Ledger.keys_drop]
    exact h.distinct.filter _
  · rw [get?_remove, Ledger.get?_drop, h.get?]

/-! ## What can be observed -/

/-- **`scan` is the items of the ledger** — every listed key has its item, so no look-up of the scan
fails. -/
theorem scan_eq (h : items.Represents ledger) : items.scan = ledger.map Prod.snd := by
  have hget : items.get? = ledger.get? := funext h.get?
  rw [scan, h.order, hget, Ledger.filterMap_get?_keys h.distinct]

/-- **`size` is the length of the ledger** — the map has the listed keys and no others. -/
theorem size_eq (h : items.Represents ledger) : items.size = ledger.length := by
  have hnodup : items.byKey.keys.Nodup := by
    refine (Std.HashMap.distinct_keys (m := items.byKey)).imp fun hne => ?_
    simpa using hne
  have hperm : items.byKey.keys.Perm ledger.keys := by
    refine (List.perm_ext_iff_of_nodup hnodup h.distinct).2 fun key => ?_
    rw [Std.HashMap.mem_keys, h.mem_byKey]
  calc items.size = items.byKey.keys.length := Std.HashMap.length_keys.symm
    _ = ledger.keys.length := hperm.length_eq
    _ = ledger.length := List.length_map _

end Represents

end Items

end BackendPlan
