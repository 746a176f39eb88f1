import BackendPlan.Proofs.Json.RoundTrip
import BackendPlan.Proofs.Json.Values

/-!
# Proofs/Json/Same — one value written in many ways, and one text for each value

The members of an object are inserted one after another, in whatever order; two documents are the
**same value** if they are of one type and agree part by part, objects key by key:

  documents   —`Same`→   values   —`text`→   texts.

The first arrow forgets the order of insertion and nothing else, the second forgets nothing.

* `Members.last?` — the value that inserting leaves under a key.
* `Json.Same` — the same value, told without any normal form.
* `same_iff_canonical_eq` — **documents are the same value exactly if their normal forms are
  equal.**
* `text_canonical_eq_iff` — **values with one text are the same.**
-/

namespace BackendPlan

namespace Members

variable {α : Type}

/-! ## Insertion -/

/-- **The value that was inserted last under a key**, members being inserted in their order — where
`get?` finds the first. -/
def last? : Members α → String → Option α
  | [], _ => none
  | (k, v) :: rest, key => (last? rest key).or (if key = k then some v else none)

/-- **What was inserted last is found**, over whatever was there before — with `get?_overlay`, no
key need be single. -/
theorem get?_overlay_eq_last? (base patch : Members α) (key : String) :
    get? (overlay base patch) key = (last? patch key).or (get? base key) := by
  induction patch generalizing base with
  | nil => rfl
  | cons m rest ih =>
    obtain ⟨k, v⟩ := m
    calc get? (overlay base ((k, v) :: rest)) key
        = get? (overlay (insert k v base) rest) key := rfl
      _ = (last? rest key).or (get? (insert k v base) key) := ih _
      _ = (last? ((k, v) :: rest) key).or (get? base key) := by
        rw [get?_insert, last?, Option.or_assoc]
        split <;> rfl

theorem get?_ofList_eq_last? (ms : Members α) (key : String) :
    get? (ofList ms) key = last? ms key := by
  rw [ofList, get?_overlay_eq_last?, get?_nil, Option.or_none]

/-- With no key twice, the last value of a key is its only one: `last?` is `get?`. -/
theorem last?_eq_get? {ms : Members α} (h : ms.keys.Nodup) (key : String) :
    last? ms key = get? ms key := by
  rw [← get?_ofList_eq_last?, get?_ofList h]

theorem mem_of_last? {ms : Members α} {key : String} {value : α} (h : last? ms key = some value) :
    (key, value) ∈ ms := by
  rw [← get?_ofList_eq_last?] at h
  exact (mem_overlay (mem_of_get? h)).resolve_left List.not_mem_nil

end Members

namespace Json

/-! ## The same value -/

/-- **Two documents are the same value**: of one type, with the same content; lists item by item,
and objects key by key (`last?`), whatever the order in which their members were inserted. -/
inductive Same : Json → Json → Prop
  | null : Same .null .null
  | bool (b : Bool) : Same (.bool b) (.bool b)
  | whole (n : Whole) : Same (.whole n) (.whole n)
  | float (x : Binary64) : Same (.float x) (.float x)
  | str (s : String) : Same (.str s) (.str s)
  | arr {vs ws : List Json} (length : vs.length = ws.length)
      (items : ∀ (i : Nat) (v w : Json), vs[i]? = some v → ws[i]? = some w → Same v w) :
      Same (.arr vs) (.arr ws)
  | obj {ms ns : Members Json}
      (keys : ∀ key, (Members.last? ms key).isSome = (Members.last? ns key).isSome)
      (values : ∀ (key : String) (v w : Json), Members.last? ms key = some v →
        Members.last? ns key = some w → Same v w) :
      Same (.obj ms) (.obj ns)

/-! ## Normal forms

Both directions follow the document: a relation between documents of one shape is an equation
between their normal forms, part by part. -/

theorem last?_canonicalMembers (ms : Members Json) (key : String) :
    Members.last? (canonicalMembers ms) key = (Members.last? ms key).map canonical := by
  induction ms with
  | nil => rfl
  | cons m rest ih =>
    obtain ⟨k, v⟩ := m
    rw [canonicalMembers, Members.last?, Members.last?, ih]
    cases Members.last? rest key with
    | some value => rfl
    | none => split <;> rfl

/-- The look-ups of the normal form of an object. -/
theorem get?_ofList_canonicalMembers (ms : Members Json) (key : String) :
    Members.get? (Members.ofList (canonicalMembers ms)) key =
      (Members.last? ms key).map canonical := by
  rw [Members.get?_ofList_eq_last?, last?_canonicalMembers]

/-- Documents that are the same value have one `canonical` form. -/
theorem Same.canonical_eq {v w : Json} (h : v.Same w) : v.canonical = w.canonical := by
  induction h with
  | null | bool _ | whole _ | float _ | str _ => rfl
  | @arr vs ws length _ ih =>
    rw [canonical, canonical, canonicalItems_eq_map, canonicalItems_eq_map]
    refine congrArg Json.arr (List.ext_getElem (by simpa using length) fun i hv hw => ?_)
    simp only [List.length_map] at hv hw
    simpa using ih i vs[i] ws[i] (List.getElem?_eq_getElem hv) (List.getElem?_eq_getElem hw)
  | @obj ms ns keys _ ih =>
    refine congrArg Json.obj ((Members.sorted_ofList _).ext (Members.sorted_ofList _) fun key => ?_)
    rw [get?_ofList_canonicalMembers, get?_ofList_canonicalMembers]
    have hsome := keys key
    cases hv : Members.last? ms key with
    | none =>
      cases hw : Members.last? ns key with
      | none => rfl
      | some w => exact absurd (hv ▸ hw ▸ hsome) nofun
    | some v =>
      cases hw : Members.last? ns key with
      | none => exact absurd (hv ▸ hw ▸ hsome) nofun
      | some w => exact congrArg some (ih key v w hv hw)

/-- `canonicalItems` of lists are equal item by item. -/
theorem items_of_canonicalItems_eq {vs ws : List Json} (h : canonicalItems vs = canonicalItems ws) :
    vs.length = ws.length ∧
      ∀ (i : Nat) (v w : Json), vs[i]? = some v → ws[i]? = some w → v.canonical = w.canonical := by
  rw [canonicalItems_eq_map, canonicalItems_eq_map] at h
  refine ⟨by simpa using congrArg List.length h, fun i v w hv hw => ?_⟩
  have hi : (vs.map canonical)[i]? = (ws.map canonical)[i]? := by rw [h]
  rw [List.getElem?_map, List.getElem?_map, hv, hw] at hi
  exact Option.some.inj hi

/-- `canonical` forms of objects are equal key by key. -/
theorem members_of_canonical_eq {ms ns : Members Json}
    (h : (Json.obj ms).canonical = (Json.obj ns).canonical) (key : String) :
    (Members.last? ms key).map canonical = (Members.last? ns key).map canonical := by
  rw [← get?_ofList_canonicalMembers, ← get?_ofList_canonicalMembers, obj.inj h]

mutual
/-- Documents with one `canonical` form are the same value. -/
theorem same_of_canonical_eq : ∀ {v w : Json}, v.canonical = w.canonical → v.Same w
  | .null, w, h => by
    cases w with
    | null => exact .null
    | _ => exact absurd h nofun
  | .bool b, w, h => by
    cases w with
    | bool b' => exact bool.inj h ▸ .bool b
    | _ => exact absurd h nofun
  | .whole n, w, h => by
    cases w with
    | whole n' => exact whole.inj h ▸ .whole n
    | _ => exact absurd h nofun
  | .float x, w, h => by
    cases w with
    | float x' => exact float.inj h ▸ .float x
    | _ => exact absurd h nofun
  | .str s, w, h => by
    cases w with
    | str s' => exact str.inj h ▸ .str s
    | _ => exact absurd h nofun
  | .arr vs, w, h => by
    cases w with
    | arr ws =>
      obtain ⟨hlength, hitems⟩ := items_of_canonicalItems_eq (arr.inj h)
      exact .arr hlength fun i v w hv hw =>
        same_of_mem_items vs v (List.mem_of_getElem? hv) (hitems i v w hv hw)
    | _ => exact absurd h nofun
  | .obj ms, w, h => by
    cases w with
    | obj ns =>
      have hmembers := members_of_canonical_eq h
      refine .obj (fun key => ?_) fun key v w hv hw => ?_
      · simpa using congrArg Option.isSome (hmembers key)
      · have hkey := hmembers key
        rw [hv, hw] at hkey
        exact same_of_mem_members ms (key, v) (Members.mem_of_last? hv) (Option.some.inj hkey)
    | _ => exact absurd h nofun

/-- So are the items of a list. -/
theorem same_of_mem_items : ∀ (vs : List Json), ∀ v ∈ vs, ∀ {w : Json},
    v.canonical = w.canonical → v.Same w
  | first :: rest, v, hv, w, h => by
    rcases List.mem_cons.1 hv with hv | hv
    · rw [hv] at h ⊢
      exact same_of_canonical_eq h
    · exact same_of_mem_items rest v hv h

/-- So are the members of an object. -/
theorem same_of_mem_members : ∀ (ms : List (String × Json)), ∀ m ∈ ms, ∀ {w : Json},
    m.2.canonical = w.canonical → m.2.Same w
  | (key, first) :: rest, m, hm, w, h => by
    rcases List.mem_cons.1 hm with hm | hm
    · rw [hm] at h ⊢
      exact same_of_canonical_eq h
    · exact same_of_mem_members rest m hm h
end

/-- **Documents are the same value exactly if their normal forms are equal** — so `Same` is
decidable, and an equivalence. -/
theorem same_iff_canonical_eq {v w : Json} : v.Same w ↔ v.canonical = w.canonical :=
  ⟨Same.canonical_eq, same_of_canonical_eq⟩

theorem canonical_eq_null_iff {v : Json} : v.canonical = .null ↔ v = .null := by
  cases v <;> simp [canonical]

theorem same_comm {v w : Json} : v.Same w ↔ w.Same v := by
  rw [same_iff_canonical_eq, same_iff_canonical_eq, eq_comm]

instance (v w : Json) : Decidable (v.Same w) :=
  decidable_of_iff (v.canonical = w.canonical) same_iff_canonical_eq.symm

/-! ## Texts -/

/-- **Documents with one `text` are the same value** — the text can be read, and gives both normal
forms. -/
theorem same_of_text_eq {v w : Json} (h : v.text = w.text) : v.Same w := by
  have hread : some v.canonical = some w.canonical := by rw [← ofText?_text, ← ofText?_text, h]
  exact same_of_canonical_eq (Option.some.inj hread)

/-- **Values have one `text` exactly if they are the same**, however their documents were put
together. -/
theorem text_canonical_eq_iff {v w : Json} : v.canonical.text = w.canonical.text ↔ v.Same w := by
  constructor
  · intro h
    have hsame := (same_of_text_eq h).canonical_eq
    rw [(isCanonical_canonical v).canonical_eq, (isCanonical_canonical w).canonical_eq] at hsame
    exact same_of_canonical_eq hsame
  · intro h
    rw [h.canonical_eq]

end Json

end BackendPlan
