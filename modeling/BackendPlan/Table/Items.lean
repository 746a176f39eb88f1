import BackendPlan.Json.Printer
import Std.Data.HashMap

/-!
# Table/Items — the items of a table

Items are stored under the text of their key, so a number, a string and a float never share a slot
however alike they look.  The store remembers the keys in the order in which they came, beside a map
from key to item; `scan` reads the map in that order.

* `insert` — replaces in place, or appends.
* `remove` — forgets the place too, so a key that comes back comes last.
* `update` — overlays fields on a stored object, without moving it to another key.
-/

namespace BackendPlan

/-- **The items of a table** — a map from key to item, and beside it the keys in the order in which
they came. -/
structure Items where
  order : List String := []
  byKey : Std.HashMap String Json := {}

namespace Items

/-- **The text under which a key value stores an item**: its compact JSON text; null stores
nothing. -/
def keyText : Json → Option String
  | .null => none
  | v => some v.text

/-- Put an item under a key: in the place of the one that is there, or in a new place at the end. -/
def insert (items : Items) (key : String) (item : Json) : Items where
  order := if items.byKey.contains key then items.order else items.order ++ [key]
  byKey := items.byKey.insert key item

/-- Remove a key with its place, if it is there. -/
def remove (items : Items) (key : String) : Items :=
  if items.byKey.contains key then
    { order := items.order.filter (· ≠ key), byKey := items.byKey.erase key }
  else items

def get? (items : Items) (key : String) : Option Json := items.byKey[key]?

def size (items : Items) : Nat := items.byKey.size

/-- The items in the order in which their keys came. -/
def scan (items : Items) : List Json := items.order.filterMap items.get?

/-- **What an update makes of an item** — two objects are overlaid by `Members.overlay`, anything
else is replaced. -/
def merge : Json → Json → Json
  | .obj current, .obj patch => .obj (Members.overlay current patch)
  | _, data => data

/-- `merge` data into the item under a key; a key without an item stays without one. -/
def update (items : Items) (key : String) (data : Json) : Items :=
  match items.get? key with
  | some item => { items with byKey := items.byKey.insert key (merge item data) }
  | none => items

/-! ## Look-up -/

@[simp] theorem get?_empty (key : String) : ({} : Items).get? key = none := by simp [get?]

theorem get?_insert (items : Items) (key : String) (item : Json) (k : String) :
    (items.insert key item).get? k = if k = key then some item else items.get? k := by
  by_cases h : k = key
  · simp [insert, get?, h]
  · simp [insert, get?, Std.HashMap.getElem?_insert, h, Ne.symm h]

theorem get?_remove (items : Items) (key k : String) :
    (items.remove key).get? k = if k = key then none else items.get? k := by
  by_cases hc : items.byKey.contains key = true
  · by_cases h : k = key
    · simp [remove, get?, hc, h]
    · simp [remove, get?, hc, Std.HashMap.getElem?_erase, h, Ne.symm h]
  · by_cases h : k = key
    · subst h
      have hk : k ∉ items.byKey := by simpa using hc
      simp [remove, get?, hk]
    · simp [remove, hc, h]

theorem get?_update (items : Items) (key : String) (data : Json) (k : String) :
    (items.update key data).get? k =
      if k = key then (items.get? key).map (merge · data) else items.get? k := by
  unfold update
  split
  · next item hitem =>
    by_cases h : k = key
    · simp [get?, h] at hitem ⊢
      simp [hitem]
    · simp [get?, Std.HashMap.getElem?_insert, h, Ne.symm h]
  · next hnone =>
    by_cases h : k = key
    · subst h
      simp [hnone]
    · simp [h]

end Items

end BackendPlan
