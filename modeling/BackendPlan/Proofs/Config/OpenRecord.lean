import BackendPlan.Config
import BackendPlan.Proofs.Json.RoundTrip
import BackendPlan.Proofs.Json.Values

/-!
# Proofs/Config/OpenRecord — open records lose nothing

An open record is known by its fields: each has a name, a type and a default.  Reading an object
puts every member in exactly one place, and writing puts both places together again:

  members   —`set`→   typed fields  +  extra keys   —`written`→   members and defaults.

That a member of a typed field reaches this field only, and every other member the extra keys, is
all there is to know about `set`; an `OpenRecord` carries it, and the rest is proved once for all of
them.

* `Lossless` — what it means that nothing is lost.
* `OpenRecord.fold_fits` — **the run of `set` over the members**, by look-ups.
* `OpenRecord.lossless` — open records are lossless.
-/

namespace BackendPlan.Config

/-! ## Fields -/

/-- The types of typed fields — no configuration has a field of any other. -/
inductive FieldType where
  | text
  | flag
  | optionalText
deriving DecidableEq, Repr

/-- The value has the type — a text, a truth value, or a text or `null`. -/
def FieldType.Accepts : FieldType → Json → Prop
  | .text, .str _ => True
  | .flag, .bool _ => True
  | .optionalText, .str _ => True
  | .optionalText, .null => True
  | _, _ => False

@[simp] theorem FieldType.accepts_text (s : String) : FieldType.text.Accepts (.str s) := trivial

@[simp] theorem FieldType.accepts_flag (b : Bool) : FieldType.flag.Accepts (.bool b) := trivial

@[simp] theorem FieldType.accepts_optionalText (s : Option String) :
    FieldType.optionalText.Accepts (Config.optionalText s) := by
  cases s <;> trivial

theorem optionalText_injective : Function.Injective optionalText := by
  rintro (_ | s) (_ | t) h <;> simp_all [optionalText]

/-- **A typed field**, with the value that it has when it is absent. -/
structure Field where
  name : String
  type : FieldType
  default : Json
deriving DecidableEq, Repr

/-- The names of the fields. -/
def fieldNames (fields : List Field) : List String := fields.map Field.name

/-- The fields at their defaults, as members. -/
def defaults (fields : List Field) : Members Json := fields.map fun f => (f.name, f.default)

/-- Every typed field that is present has its type — one that is absent gets its `default`. -/
def Fits (fields : List Field) (members : Members Json) : Prop :=
  ∀ f ∈ fields, ∀ value, (f.name, value) ∈ members → f.type.Accepts value

/-- The members of other names than those of the `fields`: what becomes of the extra keys. -/
def others (fields : List Field) (members : Members Json) : Members Json :=
  members.filter fun m => m.1 ∉ fieldNames fields

theorem get?_defaults_of_notMem {fields : List Field} {key : String}
    (h : key ∉ fieldNames fields) : Members.get? (defaults fields) key = none :=
  Members.get?_eq_none_of_notMem (by simpa [Members.keys, defaults, fieldNames] using h)

theorem get?_others (fields : List Field) (members : Members Json) (key : String) :
    Members.get? (others fields members) key =
      if key ∈ fieldNames fields then none else Members.get? members key := by
  rw [others, Members.get?_filter fun k => decide (k ∉ fieldNames fields)]
  by_cases h : key ∈ fieldNames fields <;> simp [h]

theorem FieldType.isCanonical_of_accepts {t : FieldType} {v : Json} (h : t.Accepts v) :
    v.IsCanonical := by
  cases t <;> cases v <;> trivial

/-- **Nothing of `v` is lost** by a configuration with the given typed fields that is read by
`ofJson`, keeps its other keys in `extra`, and is written by `toJson` and `text`. -/
structure Lossless {α : Type} (fields : List Field) (ofJson : Json → Except DeclareError α)
    (extra : α → Members Json) (toJson : α → Json) (text : α → String) (v : Json) : Prop where
  /-- The objects that fit are read, and nothing else is. -/
  reads_iff : (∃ c, ofJson v = .ok c) ↔ ∃ members, v = .obj members ∧ Fits fields members
  /-- The extra keys are the members that are no typed field. -/
  extra_eq : ∀ {members c}, v = .obj members → ofJson v = .ok c → extra c = others fields members
  /-- What is written has every member, and the default of each typed field that is absent. -/
  toJson_eq : ∀ {members c}, v = .obj members → ofJson v = .ok c →
    (toJson c).IsCanonical ∧ ∃ out, toJson c = .obj out ∧
      ∀ key, Members.get? out key =
        (Members.get? members key).or (Members.get? (defaults fields) key)
  /-- The text has no key twice, at any level, and denotes the value that is written. -/
  text_eq : ∀ {c}, ofJson v = .ok c → ∃ doc : Members Json, text c = (Json.obj doc).text ∧
    doc.keys.Nodup ∧ Json.AreCanonicalMembers doc ∧ Json.ofText? (text c) = some (toJson c)
  /-- What is written is read as the same configuration. -/
  ofJson_toJson : ∀ {c}, ofJson v = .ok c → ofJson (toJson c) = .ok c

/-! ## Taking in a typed field

A field is set through the reader of its type, and this reader accepts what the type does. -/

section Takes

variable {α : Type} (typed extra : α → Members Json)

/-- **What becomes of a record with a `value` for a field**: a value of the type is put in the place
of the old one and nothing else changes, any other value is refused. -/
def Takes (f : Field) (value : Json) (c : α) : Except Record.Error α → Prop
  | .ok c' => f.type.Accepts value ∧ extra c' = extra c ∧
      typed c' = Members.replace f.name value (typed c)
  | .error _ => ¬ f.type.Accepts value

variable {typed extra} {c : α} {name : String} {value default : Json}

theorem takes_text {put : String → α} (hextra : ∀ s, extra (put s) = extra c)
    (htyped : ∀ s, typed (put s) = Members.replace name (.str s) (typed c)) :
    Takes typed extra ⟨name, .text, default⟩ value c (do return put (← Record.text value)) := by
  cases value with
  | str s => exact ⟨trivial, hextra s, htyped s⟩
  | _ => exact id

theorem takes_flag {put : Bool → α} (hextra : ∀ b, extra (put b) = extra c)
    (htyped : ∀ b, typed (put b) = Members.replace name (.bool b) (typed c)) :
    Takes typed extra ⟨name, .flag, default⟩ value c (do return put (← Record.flag value)) := by
  cases value with
  | bool b => exact ⟨trivial, hextra b, htyped b⟩
  | _ => exact id

theorem takes_optionalText {put : Option String → α} (hextra : ∀ s, extra (put s) = extra c)
    (htyped : ∀ s, typed (put s) = Members.replace name (optionalText s) (typed c)) :
    Takes typed extra ⟨name, .optionalText, default⟩ value c
      (do return put (← Record.optional Record.text value)) := by
  cases value with
  | null => exact ⟨trivial, hextra none, htyped none⟩
  | str s => exact ⟨trivial, hextra (some s), htyped (some s)⟩
  | _ => exact id

end Takes

/-! ## Open records -/

/-- **An open record**: how a member is taken in (`set`), where it is kept (`typed`, `extra`), and
that it is kept there. -/
structure OpenRecord (α : Type) where
  name : String
  fields : List Field
  start : α
  set : α → String → Json → Except Record.Error α
  typed : α → Members Json
  extra : α → Members Json
  nodup_names : (fieldNames fields).Nodup
  keys_typed : ∀ c, (typed c).keys = fieldNames fields
  accepts_typed : ∀ c, ∀ f ∈ fields, ∀ value, (f.name, value) ∈ typed c → f.type.Accepts value
  typed_start : typed start = defaults fields
  extra_start : extra start = []
  /-- A member of a typed field goes to that field and nowhere else. -/
  set_field : ∀ c value, ∀ f ∈ fields, Takes typed extra f value c (set c f.name value)
  /-- A member of another name goes to the extra keys as it is. -/
  set_other : ∀ key ∉ fieldNames fields, ∀ c value, ∃ c', set c key value = .ok c' ∧
    extra c' = Members.insert key value (extra c) ∧ typed c' = typed c
  /-- Typed fields and extra keys are all there is to a record. -/
  ext : ∀ c c', typed c = typed c' → extra c = extra c' → c = c'

namespace OpenRecord

variable {α : Type} (R : OpenRecord α)

/-- Read a record: start from the defaults, and `set` member by member. -/
def ofJson (v : Json) : Except DeclareError α := read R.name R.set R.start v

/-- The members as written, those of the typed fields first. -/
def written (c : α) : Members Json := R.typed c ++ R.extra c

/-- The value of the written form — `canonical`, so that an extra key replaces a typed field of its
name. -/
def toJson (c : α) : Json := (Json.obj (R.written c)).canonical

/-- The text of the written form. -/
def text (c : α) : String := (Json.obj (R.written c)).text

/-! ## Taking in members -/

/-- Records that look up the same values in their `typed` fields and have the same `extra` members
are equal. -/
theorem ext_get? {c c' : α} (htyped : ∀ f ∈ R.fields,
      Members.get? (R.typed c) f.name = Members.get? (R.typed c') f.name)
    (hextra : R.extra c = R.extra c') : c = c' := by
  have hkeys := R.keys_typed c
  refine R.ext c c' (Members.ext_of_keys (hkeys.trans (R.keys_typed c').symm) ?_ ?_) hextra
  · exact hkeys ▸ R.nodup_names
  · rw [hkeys]
    intro key hkey
    obtain ⟨f, hf, rfl⟩ := List.mem_map.1 hkey
    exact htyped f hf

/-- A value that the field `Accepts` is found under it from then on. -/
theorem exists_set_of_accepts {c : α} {f : Field} (hf : f ∈ R.fields) {value : Json}
    (h : f.type.Accepts value) : ∃ c', R.set c f.name value = .ok c' ∧ R.extra c' = R.extra c ∧
      ∀ key, Members.get? (R.typed c') key =
        if key = f.name then some value else Members.get? (R.typed c) key := by
  have htakes := R.set_field c value f hf
  cases hset : R.set c f.name value with
  | error e =>
    rw [hset] at htakes
    exact absurd h htakes
  | ok c' =>
    rw [hset] at htakes
    obtain ⟨-, hextra, htyped⟩ := htakes
    refine ⟨c', rfl, hextra, fun key => ?_⟩
    have hmem : f.name ∈ (R.typed c).keys := R.keys_typed c ▸ List.mem_map_of_mem hf
    obtain ⟨old, hold⟩ := Members.exists_get?_of_mem_keys hmem
    rw [htyped, Members.get?_replace]
    by_cases hkey : key = f.name
    · rw [if_pos hkey, if_pos hkey, hkey, hold]
      rfl
    · rw [if_neg hkey, if_neg hkey]

theorem accepts_of_set {c c' : α} {f : Field} (hf : f ∈ R.fields) {value : Json}
    (h : R.set c f.name value = .ok c') : f.type.Accepts value := by
  have htakes := R.set_field c value f hf
  rw [h] at htakes
  exact htakes.1

/-- Take in one member after another, by `set`. -/
def fold (c : α) (members : Members Json) : Except Record.Error α :=
  members.foldlM (fun config (key, value) => R.set config key value) c

theorem ofJson_eq_ok_iff {v : Json} {c : α} :
    R.ofJson v = .ok c ↔ ∃ members, v = .obj members ∧ R.fold R.start members = .ok c := by
  cases v with
  | obj members =>
    simp only [ofJson, read, Json.obj.injEq, exists_eq_left', fold]
    cases members.foldlM (fun config (key, value) => R.set config key value) R.start <;>
      simp [Except.mapError]
  | _ => simp [ofJson, read]

theorem fold_cons {c c' : α} {key : String} {value : Json} (members : Members Json)
    (h : R.set c key value = .ok c') : R.fold c ((key, value) :: members) = R.fold c' members := by
  simp only [fold, List.foldlM_cons, h]
  rfl

theorem exists_set_of_fold_cons {c c' : α} {key : String} {value : Json} {members : Members Json}
    (h : R.fold c ((key, value) :: members) = .ok c') :
    ∃ c₁, R.set c key value = .ok c₁ ∧ R.fold c₁ members = .ok c' := by
  cases hset : R.set c key value with
  | error e =>
    simp only [fold, List.foldlM_cons, hset] at h
    exact absurd h nofun
  | ok c₁ => exact ⟨c₁, rfl, (R.fold_cons members hset).symm.trans h⟩

/-- Members that fit are taken in — the typed fields look up what the members have, and else keep
what they had; the others are put to the extra keys. -/
theorem fold_fits {members : Members Json} (hkeys : members.keys.Nodup)
    (hfits : Fits R.fields members) (c : α) : ∃ c', R.fold c members = .ok c' ∧
      R.extra c' = Members.overlay (R.extra c) (others R.fields members) ∧
      ∀ f ∈ R.fields, Members.get? (R.typed c') f.name =
        (Members.get? members f.name).or (Members.get? (R.typed c) f.name) := by
  induction members generalizing c with
  | nil => exact ⟨c, rfl, rfl, fun f _ => rfl⟩
  | cons m rest ih =>
    obtain ⟨key, value⟩ := m
    obtain ⟨hkey, hrest⟩ := List.nodup_cons.1 hkeys
    have hnone : Members.get? rest key = none := Members.get?_eq_none_of_notMem hkey
    have ih := ih hrest fun f hf v hv => hfits f hf v (List.mem_cons_of_mem _ hv)
    by_cases hname : key ∈ fieldNames R.fields
    · obtain ⟨f, hf, rfl⟩ := List.mem_map.1 hname
      obtain ⟨c₁, hset, hextra, htyped⟩ :=
        R.exists_set_of_accepts (c := c) hf (hfits f hf value List.mem_cons_self)
      obtain ⟨c', hfold, hextra', htyped'⟩ := ih c₁
      refine ⟨c', by rw [R.fold_cons rest hset, hfold], ?_, fun g hg => ?_⟩
      · rw [hextra', hextra]
        simp [others, hname]
      · rw [htyped' g hg, htyped, Members.get?_cons]
        by_cases hg' : g.name = f.name
        · simp [hg', hnone]
        · simp [hg']
    · obtain ⟨c₁, hset, hextra, htyped⟩ := R.set_other key hname c value
      obtain ⟨c', hfold, hextra', htyped'⟩ := ih c₁
      refine ⟨c', by rw [R.fold_cons rest hset, hfold], ?_, fun g hg => ?_⟩
      · rw [hextra', hextra]
        simp [others, hname, Members.overlay]
      · have hne : g.name ≠ key := fun h => hname (h ▸ List.mem_map_of_mem hg)
        rw [htyped' g hg, htyped, Members.get?_cons, if_neg hne]

/-- Only members that fit are taken in by `fold`. -/
theorem fits_of_fold {members : Members Json} {c c' : α} (h : R.fold c members = .ok c') :
    Fits R.fields members := by
  induction members generalizing c with
  | nil => exact fun _ _ _ hv => absurd hv List.not_mem_nil
  | cons m rest ih =>
    obtain ⟨key, value⟩ := m
    obtain ⟨c₁, hset, hrest⟩ := R.exists_set_of_fold_cons h
    intro f hf v hv
    rcases List.mem_cons.1 hv with heq | hv
    · obtain ⟨rfl, rfl⟩ := Prod.mk.inj heq
      exact R.accepts_of_set hf hset
    · exact ih hrest f hf v hv

/-! ## Reading -/

/-- **What a record holds after reading**: each typed field the member of its name or the default,
and `extra` all other members. -/
structure Holds (c : α) (members : Members Json) : Prop where
  extra_eq : R.extra c = others R.fields members
  typed_eq : ∀ f ∈ R.fields, Members.get? (R.typed c) f.name =
    (Members.get? members f.name).or (Members.get? (defaults R.fields) f.name)

theorem exists_ofJson_of_fits {members : Members Json} (hs : Members.Sorted members)
    (hfits : Fits R.fields members) :
    ∃ c, R.ofJson (.obj members) = .ok c ∧ R.Holds c members := by
  obtain ⟨c, hfold, hextra, htyped⟩ := R.fold_fits hs.nodup_keys hfits R.start
  refine ⟨c, R.ofJson_eq_ok_iff.2 ⟨members, rfl, hfold⟩, ?_, fun f hf => ?_⟩
  · rw [hextra, R.extra_start]
    exact (hs.filter _).ofList_eq
  · rw [htyped f hf, R.typed_start]

theorem fits_of_ofJson {members : Members Json} {c : α} (h : R.ofJson (.obj members) = .ok c) :
    Fits R.fields members := by
  obtain ⟨_, ⟨rfl⟩, hfold⟩ := R.ofJson_eq_ok_iff.1 h
  exact R.fits_of_fold hfold

theorem holds_of_ofJson {members : Members Json} {c : α} (hs : Members.Sorted members)
    (h : R.ofJson (.obj members) = .ok c) : R.Holds c members := by
  obtain ⟨c', hc', hholds⟩ := R.exists_ofJson_of_fits hs (R.fits_of_ofJson h)
  rw [h] at hc'
  obtain ⟨rfl⟩ := hc'
  exact hholds

/-! ## Writing -/

section Written

variable {R} {c : α} {members : Members Json}

/-- Typed fields hold scalars, so what is written consists of values if the extra keys do. -/
theorem areCanonicalMembers_written (h : Json.AreCanonicalMembers (R.extra c)) :
    Json.AreCanonicalMembers (R.written c) := by
  rw [Json.areCanonicalMembers_iff] at h ⊢
  intro m hm
  rcases List.mem_append.1 hm with hm | hm
  · have hname : m.1 ∈ fieldNames R.fields := R.keys_typed c ▸ List.mem_map_of_mem hm
    obtain ⟨f, hf, hname⟩ := List.mem_map.1 hname
    exact FieldType.isCanonical_of_accepts (R.accepts_typed c f hf m.2 (by rw [hname]; exact hm))
  · exact h m hm

/-- The value of the written form is its members in sorted form. -/
theorem toJson_eq_ofList (h : Json.AreCanonicalMembers (R.written c)) :
    R.toJson c = .obj (Members.ofList (R.written c)) := by
  rw [toJson, Json.canonical, h.canonicalMembers_eq]

theorem Holds.notMem_extra (h : R.Holds c members) {key : String}
    (hkey : key ∈ fieldNames R.fields) : key ∉ (R.extra c).keys := by
  rw [h.extra_eq]
  intro hmem
  obtain ⟨m, hm, rfl⟩ := List.mem_map.1 hmem
  simpa [hkey] using (List.mem_filter.1 hm).2

/-- No key is written twice — what is held has no extra key with the name of a field. -/
theorem Holds.nodup_written (h : R.Holds c members) (hs : Members.Sorted members) :
    (R.written c).keys.Nodup := by
  have hextra : (R.extra c).keys.Nodup := h.extra_eq ▸ (hs.filter _).nodup_keys
  have hkeys : (R.written c).keys = fieldNames R.fields ++ (R.extra c).keys := by
    rw [← R.keys_typed c]
    exact List.map_append
  rw [hkeys]
  exact R.nodup_names.append hextra fun key hkey => h.notMem_extra hkey

theorem Holds.get?_written (h : R.Holds c members) (key : String) :
    Members.get? (R.written c) key =
      (Members.get? members key).or (Members.get? (defaults R.fields) key) := by
  rw [written, Members.get?_append]
  by_cases hkey : key ∈ fieldNames R.fields
  · have hextra := Members.get?_eq_none_of_notMem (h.notMem_extra hkey)
    obtain ⟨f, hf, rfl⟩ := List.mem_map.1 hkey
    rw [hextra, h.typed_eq f hf, Option.or_none]
  · have htyped : Members.get? (R.typed c) key = none :=
      Members.get?_eq_none_of_notMem (R.keys_typed c ▸ hkey)
    rw [htyped, get?_defaults_of_notMem hkey, h.extra_eq, get?_others, if_neg hkey,
      Option.none_or, Option.or_none]

theorem Holds.areCanonicalMembers_written (h : R.Holds c members)
    (hms : Json.AreCanonicalMembers members) : Json.AreCanonicalMembers (R.written c) := by
  rw [Json.areCanonicalMembers_iff] at hms
  refine OpenRecord.areCanonicalMembers_written (Json.areCanonicalMembers_iff.2 fun m hm => ?_)
  rw [h.extra_eq] at hm
  exact hms m (List.mem_filter.1 hm).1

theorem Holds.toJson_eq (h : R.Holds c members) (hms : Json.AreCanonicalMembers members) :
    R.toJson c = .obj (Members.ofList (R.written c)) :=
  toJson_eq_ofList (h.areCanonicalMembers_written hms)

theorem Holds.get?_toJson (h : R.Holds c members) (hs : Members.Sorted members) (key : String) :
    Members.get? (Members.ofList (R.written c)) key =
      (Members.get? members key).or (Members.get? (defaults R.fields) key) := by
  rw [Members.get?_ofList (h.nodup_written hs), h.get?_written]

end Written

/-! ## Reading what was written -/

/-- What is `written` fits — a typed field is written from a value of its type. -/
theorem fits_written (c : α) {members : Members Json} (h : R.Holds c members) :
    Fits R.fields (R.written c) := by
  intro f hf value hvalue
  rcases List.mem_append.1 hvalue with hvalue | hvalue
  · exact R.accepts_typed c f hf value hvalue
  · exact absurd (List.mem_map_of_mem hvalue) (h.notMem_extra (List.mem_map_of_mem hf))

/-- **What is written is read as the same record**: it fits, and both hold the same members. -/
theorem ofJson_toJson {c : α} {members : Members Json} (h : R.Holds c members)
    (hms : (Json.obj members).IsCanonical) : R.ofJson (R.toJson c) = .ok c := by
  have hs := Members.sorted_ofList (R.written c)
  have hfits : Fits R.fields (Members.ofList (R.written c)) := fun f hf value hvalue =>
    R.fits_written c h f hf value ((Members.mem_overlay hvalue).resolve_left List.not_mem_nil)
  obtain ⟨c', hc', hholds⟩ := R.exists_ofJson_of_fits hs hfits
  rw [h.toJson_eq hms.2, hc']
  congr 1
  refine R.ext_get? (fun f hf => ?_) ?_
  · rw [hholds.typed_eq f hf, h.get?_toJson hms.1, h.typed_eq f hf, Option.or_assoc, Option.or_self]
  · -- both are sorted, and a key that is no field was either kept or never there
    rw [hholds.extra_eq, h.extra_eq]
    refine Members.Sorted.ext (hs.filter _) (hms.1.filter _) fun key => ?_
    rw [get?_others, get?_others, h.get?_toJson hms.1]
    by_cases hkey : key ∈ fieldNames R.fields
    · rw [if_pos hkey, if_pos hkey]
    · rw [if_neg hkey, if_neg hkey, get?_defaults_of_notMem hkey, Option.or_none]

/-- **An open record loses nothing of a value** — the four configurations are cases of it, each with
its own `fields`. -/
theorem lossless {v : Json} (hv : v.IsCanonical) :
    Lossless R.fields R.ofJson R.extra R.toJson R.text v where
  reads_iff := by
    constructor
    · rintro ⟨c, hc⟩
      obtain ⟨members, rfl, hfold⟩ := R.ofJson_eq_ok_iff.1 hc
      exact ⟨members, rfl, R.fits_of_fold hfold⟩
    · rintro ⟨members, rfl, hfits⟩
      obtain ⟨c, hc, -⟩ := R.exists_ofJson_of_fits hv.1 hfits
      exact ⟨c, hc⟩
  extra_eq := by
    rintro members c rfl hc
    exact (R.holds_of_ofJson hv.1 hc).extra_eq
  toJson_eq := by
    rintro members c rfl hc
    have hholds := R.holds_of_ofJson hv.1 hc
    exact ⟨Json.isCanonical_canonical _, _, hholds.toJson_eq hv.2, hholds.get?_toJson hv.1⟩
  text_eq := by
    intro c hc
    obtain ⟨members, rfl, -⟩ := R.ofJson_eq_ok_iff.1 hc
    have hholds := R.holds_of_ofJson hv.1 hc
    exact ⟨R.written c, rfl, hholds.nodup_written hv.1, hholds.areCanonicalMembers_written hv.2,
      Json.ofText?_text _⟩
  ofJson_toJson := by
    intro c hc
    obtain ⟨members, rfl, -⟩ := R.ofJson_eq_ok_iff.1 hc
    exact R.ofJson_toJson (R.holds_of_ofJson hv.1 hc) hv

end OpenRecord

end BackendPlan.Config
