import BackendPlan.Registry.Basic
import Mathlib.Data.List.Nodup

/-!
# Proofs/Registry/Index — the index of names and the list of resources say the same

A registry finds a resource through an index from names to slots.  Index and resources are written
by separate assignments, so that they agree is an invariant and not a definition.

* `Registry.Indexed` — a name is indexed at exactly the slot that holds a resource of the name.
* `Indexed.putResource` — registering keeps the two in step, in an old slot and in a new one.
* `Indexed.resource?_eq_some_iff`, `Indexed.nodup_names` — hence a look-up finds the one resource of
  a name, if there is one.
* `Indexed.resource?_putResource`, `Indexed.names_putResource` — what registering does to look-ups
  and to the order of names.
-/

namespace BackendPlan

namespace Registry

/-- **`index` and `resources` are in step**: a name is indexed at exactly the slot that holds a
resource of that name. -/
def Indexed (r : Registry) : Prop :=
  ∀ name i, r.index[name]? = some i ↔ ∃ h : i < r.resources.size, r.resources[i].name = name

/-- The names of the resources, in the order of their slots. -/
def names (r : Registry) : List String := r.resources.toList.map Resource.name

theorem mem_names {r : Registry} {name : String} :
    name ∈ r.names ↔ ∃ resource ∈ r.resources, resource.name = name := by
  simp [names]

/-- The agreement in terms of what stands in a slot, if anything does. -/
theorem indexed_iff {r : Registry} :
    r.Indexed ↔ ∀ (name : String) (i : Nat),
      r.index[name]? = some i ↔ r.resources[i]?.map Resource.name = some name := by
  refine forall_congr' fun name => forall_congr' fun i => iff_congr Iff.rfl ?_
  rw [Option.map_eq_some_iff]
  constructor
  · rintro ⟨hi, hname⟩
    exact ⟨r.resources[i], Array.getElem?_eq_getElem hi, hname⟩
  · rintro ⟨resource, hresource, hname⟩
    obtain ⟨hi, rfl⟩ := Array.getElem?_eq_some_iff.1 hresource
    exact ⟨hi, hname⟩

theorem indexed_withSettings (settings : Settings) : (withSettings settings).Indexed := by
  intro name i
  simp [withSettings]

theorem indexed_reset (r : Registry) : r.reset.Indexed := by
  intro name i
  simp [reset]

/-! ## Looking up -/

namespace Indexed

variable {r : Registry} {name : String}

theorem getElem?_eq_none_iff (h : r.Indexed) : r.index[name]? = none ↔ name ∉ r.names := by
  rw [mem_names, Option.eq_none_iff_forall_ne_some, not_exists]
  constructor
  · rintro hnone resource ⟨hmem, hname⟩
    obtain ⟨j, hj, rfl⟩ := Array.mem_iff_getElem.1 hmem
    exact hnone j ((h name j).2 ⟨hj, hname⟩)
  · intro hnone j hj
    obtain ⟨hj, hname⟩ := (h name j).1 hj
    exact hnone _ ⟨Array.getElem_mem hj, hname⟩

/-- Two slots of one name are one slot. -/
theorem eq_of_name_eq (h : r.Indexed) {i j : Nat} {a b : Resource} (ha : r.resources[i]? = some a)
    (hb : r.resources[j]? = some b) (hname : a.name = b.name) : i = j := by
  have hi : r.index[b.name]? = some i :=
    (indexed_iff.1 h _ _).2 (Option.map_eq_some_iff.2 ⟨a, ha, hname⟩)
  have hj : r.index[b.name]? = some j :=
    (indexed_iff.1 h _ _).2 (Option.map_eq_some_iff.2 ⟨b, hb, rfl⟩)
  exact Option.some.inj (hi.symm.trans hj)

/-- **No name occurs twice** — the `index` gives one slot for each. -/
theorem nodup_names (h : r.Indexed) : r.names.Nodup := by
  refine List.nodup_iff_getElem?_ne_getElem?.2 fun i j hij hj heq => ?_
  rw [names, List.length_map, Array.length_toList] at hj
  have hi : i < r.resources.size := by omega
  simp only [names, List.getElem?_map, Array.getElem?_toList, Array.getElem?_eq_getElem hi,
    Array.getElem?_eq_getElem hj, Option.map_some, Option.some.injEq] at heq
  have hsame := h.eq_of_name_eq (Array.getElem?_eq_getElem hi) (Array.getElem?_eq_getElem hj) heq
  omega

/-- **A look-up finds the resource of the name** — the index is followed, so that a resource in the
list is found. -/
theorem resource?_eq_some_iff (h : r.Indexed) {resource : Resource} :
    r.resource? name = some resource ↔ resource ∈ r.resources ∧ resource.name = name := by
  rw [resource?, Option.bind_eq_some_iff]
  constructor
  · rintro ⟨j, hj, hresource⟩
    have hname := (indexed_iff.1 h name j).1 hj
    rw [hresource] at hname
    exact ⟨Array.mem_of_getElem? hresource, Option.some.inj hname⟩
  · rintro ⟨hmem, hname⟩
    obtain ⟨j, hj⟩ := Array.mem_iff_getElem?.1 hmem
    exact ⟨j, (indexed_iff.1 h name j).2 (Option.map_eq_some_iff.2 ⟨resource, hj, hname⟩), hj⟩

/-- **It finds nothing exactly when no resource has the name** — and never because a slot were out
of bounds. -/
theorem resource?_eq_none_iff (h : r.Indexed) : r.resource? name = none ↔ name ∉ r.names := by
  rw [mem_names, Option.eq_none_iff_forall_ne_some, not_exists]
  exact forall_congr' fun resource => not_congr h.resource?_eq_some_iff

end Indexed

/-! ## Registering

A name that is there keeps its slot, which changes hands; a new name gets a slot at the end. -/

theorem putResource_of_getElem? {r : Registry} {resource : Resource} {i : Nat}
    (hi : r.index[resource.name]? = some i) :
    r.putResource resource = { r with resources := r.resources.setIfInBounds i resource } := by
  rw [putResource, hi]

theorem putResource_of_getElem?_eq_none {r : Registry} {resource : Resource}
    (hnone : r.index[resource.name]? = none) :
    r.putResource resource =
      { r with
        index := r.index.insert resource.name r.resources.size
        resources := r.resources.push resource } := by
  rw [putResource, hnone]

/-- `putResource` brings in no other resource. -/
theorem mem_or_eq_of_mem_putResource {r : Registry} {resource other : Resource}
    (h : other ∈ (r.putResource resource).resources) : other ∈ r.resources ∨ other = resource := by
  unfold putResource at h
  split at h
  · exact Array.mem_or_eq_of_mem_setIfInBounds h
  · exact Array.mem_push.1 h

/-- Registering changes `resources` and `index` only. -/
@[simp] theorem settings_putResource (r : Registry) (resource : Resource) :
    (r.putResource resource).settings = r.settings := by
  unfold putResource
  split <;> rfl

@[simp] theorem application_putResource (r : Registry) (resource : Resource) :
    (r.putResource resource).application = r.application := by
  unfold putResource
  split <;> rfl

@[simp] theorem middlewares_putResource (r : Registry) (resource : Resource) :
    (r.putResource resource).middlewares = r.middlewares := by
  unfold putResource
  split <;> rfl

@[simp] theorem routes_putResource (r : Registry) (resource : Resource) :
    (r.putResource resource).routes = r.routes := by
  unfold putResource
  split <;> rfl

@[simp] theorem pending_putResource (r : Registry) (resource : Resource) :
    (r.putResource resource).pending = r.pending := by
  unfold putResource
  split <;> rfl

namespace Indexed

variable {r : Registry}

/-- The slot that `index` has for a name that is there. -/
theorem exists_slot (h : r.Indexed) {name : String} (hmem : name ∈ r.names) :
    ∃ i old, r.index[name]? = some i ∧ r.resources[i]? = some old ∧ old.name = name := by
  obtain ⟨i, hi⟩ := Option.ne_none_iff_exists'.1 (mt h.getElem?_eq_none_iff.1 (not_not.2 hmem))
  obtain ⟨old, hold, hname⟩ := Option.map_eq_some_iff.1 ((indexed_iff.1 h name i).1 hi)
  exact ⟨i, old, hi, hold, hname⟩

/-- A name that is there keeps its slot, and every other slot its resource. -/
theorem toList_putResource_of_mem (h : r.Indexed) {resource : Resource}
    (hmem : resource.name ∈ r.names) :
    (r.putResource resource).resources.toList =
      r.resources.toList.map fun old => if old.name = resource.name then resource else old := by
  obtain ⟨i, old, hi, hold, hname⟩ := h.exists_slot hmem
  rw [putResource_of_getElem? hi]
  refine List.ext_getElem? fun j => ?_
  simp only [Array.getElem?_toList, Array.getElem?_setIfInBounds, List.getElem?_map]
  by_cases hij : i = j
  · subst hij
    have hlt : i < r.resources.size := (Array.getElem?_eq_some_iff.1 hold).1
    rw [if_pos rfl, if_pos hlt, hold, Option.map_some, if_pos hname]
  · rw [if_neg hij]
    cases hother : r.resources[j]? with
    | none => rfl
    | some other =>
      have hne : other.name ≠ resource.name := fun hsame =>
        hij (h.eq_of_name_eq hold hother (hname.trans hsame.symm))
      rw [Option.map_some, if_neg hne]

/-- A name that is not there gets a slot at the end. -/
theorem toList_putResource_of_notMem (h : r.Indexed) {resource : Resource}
    (hmem : resource.name ∉ r.names) :
    (r.putResource resource).resources.toList = r.resources.toList ++ [resource] := by
  rw [putResource_of_getElem?_eq_none (h.getElem?_eq_none_iff.2 hmem)]
  exact Array.toList_push

/-- **Registering keeps the names there are**, and adds its own if it is new — the order is that of
first registration. -/
theorem names_putResource (h : r.Indexed) (resource : Resource) :
    (r.putResource resource).names =
      if resource.name ∈ r.names then r.names else r.names ++ [resource.name] := by
  by_cases hmem : resource.name ∈ r.names
  · rw [if_pos hmem, names, h.toList_putResource_of_mem hmem, List.map_map]
    refine List.map_congr_left fun old _ => ?_
    rw [Function.comp_apply]
    split
    · next hname => exact hname.symm
    · rfl
  · rw [if_neg hmem, names, h.toList_putResource_of_notMem hmem, List.map_append]
    rfl

/-- **`putResource` keeps `index` and `resources` in step** — the one step in which both are
written. -/
theorem putResource (h : r.Indexed) (resource : Resource) : (r.putResource resource).Indexed := by
  refine indexed_iff.2 fun name j => ?_
  by_cases hmem : resource.name ∈ r.names
  · obtain ⟨i, old, hi, hold, hname⟩ := h.exists_slot hmem
    rw [putResource_of_getElem? hi, indexed_iff.1 h name j, Array.getElem?_setIfInBounds]
    by_cases hij : i = j
    · subst hij
      have hlt : i < r.resources.size := (Array.getElem?_eq_some_iff.1 hold).1
      rw [if_pos rfl, if_pos hlt, hold, Option.map_some, Option.map_some, hname]
    · rw [if_neg hij]
  · have hnone := h.getElem?_eq_none_iff.2 hmem
    rw [putResource_of_getElem?_eq_none hnone]
    simp only [Std.HashMap.getElem?_insert, beq_iff_eq, Array.getElem?_push]
    by_cases hname : resource.name = name
    · subst hname
      rw [if_pos rfl, Option.some.injEq]
      by_cases hj : j = r.resources.size
      · rw [if_pos hj]
        exact iff_of_true hj.symm rfl
      · rw [if_neg hj, ← indexed_iff.1 h, hnone]
        exact iff_of_false (Ne.symm hj) nofun
    · rw [if_neg hname, indexed_iff.1 h name j]
      by_cases hj : j = r.resources.size
      · have hempty : r.resources[j]? = none := Array.getElem?_eq_none (by omega)
        rw [if_pos hj, hempty]
        exact iff_of_false nofun (hname ∘ Option.some.inj)
      · rw [if_neg hj]

/-- **What `resource?` finds after registering**: the resource under its name, and what was there
under any other. -/
theorem resource?_putResource (h : r.Indexed) (resource : Resource) (name : String) :
    (r.putResource resource).resource? name =
      if name = resource.name then some resource else r.resource? name := by
  by_cases hmem : resource.name ∈ r.names
  · obtain ⟨i, old, hi, hold, -⟩ := h.exists_slot hmem
    have hlt : i < r.resources.size := (Array.getElem?_eq_some_iff.1 hold).1
    rw [putResource_of_getElem? hi, resource?]
    split
    · next hname =>
      rw [hname, hi, Option.bind_some, Array.getElem?_setIfInBounds, if_pos rfl, if_pos hlt]
    · next hname =>
      refine Option.bind_congr fun j hj => ?_
      have hij : i ≠ j := by
        rintro rfl
        have hfound := (indexed_iff.1 h name i).1 hj
        have hslot := (indexed_iff.1 h resource.name i).1 hi
        exact hname (Option.some.inj (hfound.symm.trans hslot))
      rw [Array.getElem?_setIfInBounds, if_neg hij]
  · have hnone := h.getElem?_eq_none_iff.2 hmem
    rw [putResource_of_getElem?_eq_none hnone, resource?]
    simp only [Std.HashMap.getElem?_insert, beq_iff_eq]
    by_cases hname : name = resource.name
    · rw [if_pos hname.symm, if_pos hname, Option.bind_some, Array.getElem?_push_size]
    · rw [if_neg (Ne.symm hname), if_neg hname]
      refine Option.bind_congr fun j hj => ?_
      obtain ⟨hlt, -⟩ := (h name j).1 hj
      rw [Array.getElem?_push_lt hlt, Array.getElem?_eq_getElem hlt]

end Indexed

end Registry

end BackendPlan
