import BackendPlan.Json.Basic
import Mathlib.Data.List.Nodup

/-!
# Proofs/Json/Values — the value of a document

Members in sorted form are determined by their look-ups, so a sorted list is its own sorted form,
and by the same argument at every level a document that is a value is its own value:

  documents   —`canonical`→   values   =   the fixed points of `canonical`.

* `Members.Sorted.ext` — **sorted members with the same look-ups are the same list.**
* `Members.get?_overlay`, `Members.get?_ofList` — a patch is looked up first; with no key twice,
  sorting changes no look-up.
* `Json.isCanonical_canonical`, `Json.IsCanonical.canonical_eq` — values are reached, and kept.
* `Json.get?_canonical_obj` — what is looked up in the value of a document.
-/

namespace BackendPlan

namespace Members

variable {α : Type}

/-- The keys of the members, in their order. -/
def keys (ms : Members α) : List String := ms.map Prod.fst

theorem get?_eq_none_of_notMem {ms : Members α} {key : String} (h : key ∉ ms.keys) :
    get? ms key = none := by
  refine List.lookup_eq_none_iff.2 fun m hm => bne_iff_ne.2 ?_
  rintro rfl
  exact h (List.mem_map_of_mem hm)

theorem exists_get?_of_mem_keys {ms : Members α} {key : String} (h : key ∈ ms.keys) :
    ∃ value, get? ms key = some value := by
  obtain ⟨m, hm, rfl⟩ := List.mem_map.1 h
  exact Option.isSome_iff_exists.1 (List.lookup_isSome_iff.2 ⟨m, hm, beq_self_eq_true m.1⟩)

theorem mem_of_get? {ms : Members α} {key : String} {value : α} (h : get? ms key = some value) :
    (key, value) ∈ ms := by
  obtain ⟨front, back, rfl, -⟩ := List.lookup_eq_some_iff.1 h
  exact List.mem_append_cons_self

/-- With no key twice, `get?` finds every member. -/
theorem get?_of_mem {ms : Members α} (hms : ms.keys.Nodup) {key : String} {value : α}
    (h : (key, value) ∈ ms) : get? ms key = some value := by
  induction ms with
  | nil => exact absurd h List.not_mem_nil
  | cons m rest ih =>
    obtain ⟨hm, hrest⟩ := List.nodup_cons.1 hms
    rcases List.mem_cons.1 h with rfl | h
    · rw [get?_cons, if_pos rfl]
    · have hne : key ≠ m.1 := fun hk => hm (hk ▸ List.mem_map_of_mem h)
      rw [get?_cons, if_neg hne, ih hrest h]

theorem get?_append (ms ns : Members α) (key : String) :
    get? (ms ++ ns) key = (get? ms key).or (get? ns key) := List.lookup_append

/-- A filter that looks at the keys decides each look-up alike. -/
theorem get?_filter (p : String → Bool) (ms : Members α) (key : String) :
    get? (ms.filter fun m => p m.1) key = if p key then get? ms key else none := by
  induction ms with
  | nil => simp
  | cons m rest ih =>
    obtain ⟨k, v⟩ := m
    by_cases hk : key = k
    · subst hk
      cases hp : p key <;> simp [hp, ih, get?_cons]
    · cases hp : p k <;> simp [hp, ih, get?_cons, hk]

/-- Members with the same keys in the same order and the same look-ups are the same list. -/
theorem ext_of_keys {ms ns : Members α} (hkeys : ms.keys = ns.keys) (hms : ms.keys.Nodup)
    (h : ∀ key ∈ ms.keys, get? ms key = get? ns key) : ms = ns := by
  induction ms generalizing ns with
  | nil => exact (List.map_eq_nil_iff.1 hkeys.symm).symm
  | cons m ms ih =>
    obtain ⟨key, value⟩ := m
    obtain ⟨⟨key', value'⟩, ns, rfl⟩ : ∃ n ns', ns = n :: ns' :=
      List.exists_cons_of_ne_nil fun hns => by simp [keys, hns] at hkeys
    obtain ⟨rfl, htail⟩ : key = key' ∧ keys ms = keys ns := List.cons.inj hkeys
    obtain ⟨hnotin, hms⟩ : key ∉ keys ms ∧ (keys ms).Nodup := List.nodup_cons.1 hms
    obtain rfl : value = value' := by simpa [get?_cons] using h key List.mem_cons_self
    congr 1
    refine ih htail hms fun k hk => ?_
    have hne : k ≠ key := fun heq => hnotin (heq ▸ hk)
    simpa [get?_cons, hne] using h k (List.mem_cons_of_mem key hk)

/-! ## Replacing

A typed field of a record keeps its place when its value is set. -/

/-- The members with another value under `key`, if it is there. -/
def replace (key : String) (value : α) (ms : Members α) : Members α :=
  ms.map fun m => if m.1 = key then (key, value) else m

/-- The value of the key is replaced when there is one; the other look-ups stay. -/
theorem get?_replace (key : String) (value : α) (ms : Members α) (k : String) :
    get? (replace key value ms) k =
      if k = key then (get? ms k).map fun _ => value else get? ms k := by
  induction ms with
  | nil => simp [replace]
  | cons m ms ih =>
    obtain ⟨key', value'⟩ := m
    have hcons : replace key value ((key', value') :: ms) =
        (if key' = key then (key, value) else (key', value')) :: replace key value ms := rfl
    rw [hcons, get?_cons key' value']
    by_cases hkey : key' = key
    · subst hkey
      by_cases hk : k = key' <;> simp [get?_cons, hk, ih]
    · by_cases hk : k = key'
      · simp [get?_cons, hk, hkey]
      · simp [get?_cons, hk, hkey, ih]

/-! ## Sorted members -/

theorem Sorted.nodup_keys {ms : Members α} (h : Sorted ms) : ms.keys.Nodup :=
  List.pairwise_map.2 (h.imp fun hlt => Std.ne_of_lt hlt)

theorem Sorted.filter {ms : Members α} (h : Sorted ms) (p : String × α → Bool) :
    Sorted (ms.filter p) := List.Pairwise.filter p h

/-- **Sorted members with the same look-ups are the same list** — the keys are the same set, and a
set is sorted in one way. -/
theorem Sorted.ext {ms ns : Members α} (hms : Sorted ms) (hns : Sorted ns)
    (h : ∀ key, get? ms key = get? ns key) : ms = ns := by
  have hsub : ∀ {ms ns : Members α}, Sorted ms → (∀ key, get? ms key = get? ns key) →
      ∀ m ∈ ms, m ∈ ns := fun hms h m hm =>
    mem_of_get? ((h m.1).symm.trans (get?_of_mem hms.nodup_keys hm))
  refine List.Perm.eq_of_pairwise (fun a b _ _ hab hba => ?_) hms hns ?_
  · exact absurd (Std.lt_trans hab hba) Std.lt_irrefl
  · refine (List.perm_ext_iff_of_nodup ?_ ?_).2 fun m => ⟨hsub hms h m, ?_⟩
    · exact List.Nodup.of_map Prod.fst hms.nodup_keys
    · exact List.Nodup.of_map Prod.fst hns.nodup_keys
    · exact hsub hns (fun key => (h key).symm) m

/-! ## Overlaying

A key of the patch has a value of the patch, any other key the value that it had. -/

theorem get?_overlay_of_notMem {key : String} {patch : Members α} (h : key ∉ patch.keys)
    (base : Members α) : get? (overlay base patch) key = get? base key := by
  induction patch generalizing base with
  | nil => rfl
  | cons m rest ih =>
    obtain ⟨hm, hrest⟩ := List.ne_and_not_mem_of_not_mem_cons h
    calc get? (overlay base (m :: rest)) key
        = get? (overlay (insert m.1 m.2 base) rest) key := rfl
      _ = get? (insert m.1 m.2 base) key := ih hrest _
      _ = get? base key := by rw [get?_insert, if_neg hm]

theorem exists_get?_overlay {key : String} {patch : Members α} (h : key ∈ patch.keys)
    (base : Members α) :
    ∃ value, (key, value) ∈ patch ∧ get? (overlay base patch) key = some value := by
  induction patch generalizing base with
  | nil => exact absurd h List.not_mem_nil
  | cons m rest ih =>
    by_cases hrest : key ∈ keys rest
    · obtain ⟨value, hmem, hget⟩ := ih hrest (insert m.1 m.2 base)
      exact ⟨value, List.mem_cons_of_mem m hmem, hget⟩
    · obtain rfl : key = m.1 := (List.mem_cons.1 h).resolve_right hrest
      refine ⟨m.2, List.mem_cons_self, ?_⟩
      calc get? (overlay base (m :: rest)) m.1
          = get? (insert m.1 m.2 base) m.1 := get?_overlay_of_notMem hrest _
        _ = some m.2 := by rw [get?_insert, if_pos rfl]

theorem mem_overlay {ms base : Members α} {m : String × α}
    (h : m ∈ overlay base ms) : m ∈ base ∨ m ∈ ms := by
  induction ms generalizing base with
  | nil => exact .inl h
  | cons n rest ih =>
    rcases ih h with h | h
    · rcases mem_insert h with rfl | h
      · exact .inr List.mem_cons_self
      · exact .inl h
    · exact .inr (List.mem_cons_of_mem n h)

/-- **The patch is looked up first** — its keys being distinct, else the last value of one would win
and not the first. -/
theorem get?_overlay {patch : Members α} (h : patch.keys.Nodup) (base : Members α) (key : String) :
    get? (overlay base patch) key = (get? patch key).or (get? base key) := by
  by_cases hkey : key ∈ patch.keys
  · obtain ⟨value, hmem, hget⟩ := exists_get?_overlay hkey base
    rw [hget, get?_of_mem h hmem, Option.some_or]
  · rw [get?_overlay_of_notMem hkey, get?_eq_none_of_notMem hkey, Option.none_or]

/-- With no key twice, `ofList` changes no look-up. -/
theorem get?_ofList {ms : Members α} (hms : ms.keys.Nodup) (key : String) :
    get? (ofList ms) key = get? ms key := by
  rw [ofList, get?_overlay hms, get?_nil, Option.or_none]

/-- `ofList` loses no key. -/
theorem mem_keys_ofList {ms : Members α} {key : String} :
    key ∈ (ofList ms).keys ↔ key ∈ ms.keys := by
  constructor
  · intro h
    obtain ⟨m, hm, rfl⟩ := List.mem_map.1 h
    exact List.mem_map_of_mem ((mem_overlay hm).resolve_left List.not_mem_nil)
  · intro h
    obtain ⟨value, -, hget⟩ := exists_get?_overlay h []
    exact List.mem_map_of_mem (mem_of_get? hget)

/-- **A sorted list is its own sorted form** — by `Sorted.ext`, both having the same look-ups. -/
theorem Sorted.ofList_eq {ms : Members α} (hms : Sorted ms) : ofList ms = ms :=
  (sorted_ofList ms).ext hms (get?_ofList hms.nodup_keys)

end Members

namespace Json

/-! ## Values -/

theorem areCanonicalMembers_iff {ms : Members Json} :
    AreCanonicalMembers ms ↔ ∀ m ∈ ms, m.2.IsCanonical := by
  induction ms with
  | nil => simp [AreCanonicalMembers]
  | cons m rest ih => simp [AreCanonicalMembers, ih]

theorem areCanonical_iff {vs : List Json} : AreCanonical vs ↔ ∀ v ∈ vs, v.IsCanonical := by
  induction vs with
  | nil => simp [AreCanonical]
  | cons v rest ih => simp [AreCanonical, ih]

theorem AreCanonicalMembers.ofList {ms : Members Json} (h : AreCanonicalMembers ms) :
    AreCanonicalMembers (Members.ofList ms) :=
  areCanonicalMembers_iff.2 fun m hm =>
    areCanonicalMembers_iff.1 h m ((Members.mem_overlay hm).resolve_left List.not_mem_nil)

mutual
/-- **The value of a document is a value** — its members are sorted at every level. -/
theorem isCanonical_canonical : ∀ v : Json, v.canonical.IsCanonical
  | .null | .bool _ | .whole _ | .float _ | .str _ => trivial
  | .arr items => areCanonical_canonicalItems items
  | .obj members => ⟨Members.sorted_ofList _, (areCanonicalMembers_canonicalMembers members).ofList⟩

/-- So `canonicalItems` are values. -/
theorem areCanonical_canonicalItems : ∀ vs : List Json, AreCanonical (canonicalItems vs)
  | [] => trivial
  | v :: vs => ⟨isCanonical_canonical v, areCanonical_canonicalItems vs⟩

/-- So are the values of `canonicalMembers`. -/
theorem areCanonicalMembers_canonicalMembers :
    ∀ ms : List (String × Json), AreCanonicalMembers (canonicalMembers ms)
  | [] => trivial
  | (_, v) :: ms => ⟨isCanonical_canonical v, areCanonicalMembers_canonicalMembers ms⟩
end

mutual
/-- **A value is its own value** — `Sorted.ofList_eq` at every level. -/
theorem IsCanonical.canonical_eq : ∀ {v : Json}, v.IsCanonical → v.canonical = v
  | .null, _ | .bool _, _ | .whole _, _ | .float _, _ | .str _, _ => rfl
  | .arr _, h => by rw [canonical, AreCanonical.canonicalItems_eq h]
  | .obj _, h => by
    rw [canonical, AreCanonicalMembers.canonicalMembers_eq h.2, h.1.ofList_eq]

/-- Items that are values are their own `canonicalItems`. -/
theorem AreCanonical.canonicalItems_eq :
    ∀ {vs : List Json}, AreCanonical vs → canonicalItems vs = vs
  | [], _ => rfl
  | _ :: _, h => by
    rw [canonicalItems, IsCanonical.canonical_eq h.1, AreCanonical.canonicalItems_eq h.2]

/-- Members that hold values are their own `canonicalMembers`, in their written order. -/
theorem AreCanonicalMembers.canonicalMembers_eq :
    ∀ {ms : List (String × Json)}, AreCanonicalMembers ms → canonicalMembers ms = ms
  | [], _ => rfl
  | (_, _) :: _, h => by
    rw [canonicalMembers, IsCanonical.canonical_eq h.1, AreCanonicalMembers.canonicalMembers_eq h.2]
end

/-! ## Reading the value of a document -/

theorem canonicalItems_eq_map (vs : List Json) : canonicalItems vs = vs.map canonical := by
  induction vs with
  | nil => rfl
  | cons v vs ih => rw [canonicalItems, ih, List.map_cons]

theorem keys_canonicalMembers (ms : Members Json) :
    Members.keys (canonicalMembers ms) = Members.keys ms := by
  induction ms with
  | nil => rfl
  | cons m ms ih => exact congrArg (m.1 :: ·) ih

theorem get?_canonicalMembers (ms : Members Json) (key : String) :
    Members.get? (canonicalMembers ms) key = (Members.get? ms key).map canonical := by
  induction ms with
  | nil => rfl
  | cons m ms ih =>
    obtain ⟨k, v⟩ := m
    rw [canonicalMembers, Members.get?_cons, Members.get?_cons, ih]
    split <;> rfl

/-- **A member of a document is a member of its value**, where no key occurs twice. -/
theorem get?_canonical_obj {ms : Members Json} (h : ms.keys.Nodup) (key : String) :
    (obj ms).canonical.get? key = (Members.get? ms key).map canonical := by
  have hkeys : (Members.keys (canonicalMembers ms)).Nodup := by rwa [keys_canonicalMembers]
  rw [canonical, get?, Members.get?_ofList hkeys, get?_canonicalMembers]

end Json

end BackendPlan
