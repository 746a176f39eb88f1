import BackendPlan.Proofs.Record.RoundTrip

/-!
# Proofs/Record/Forms — an object and a list of the fields are read alike

A record is read of an object, in the order of its keys, or of a list, in the order of the fields.
The two differ in where they stop when something is wrong, not in what they read when nothing is:

    list   —`objectForm`→   object   —members that count→   draft   —`finish`→   record

* `Fieldwise.fillFrom_filter` — **members that change nothing may be left out**, and be put in.
* `Fieldwise.readList_ofList` — a list is read as the object is that has its items under the fields.
* `Fieldwise.read_objectForm` — so is a value with lists inside it.
* `Record.Forms`, `Record.forms_alike` — **what it means to read both forms alike, and that every
  record does.**
-/

namespace BackendPlan

open Record.Layout

namespace Members

variable {α β : Type}

/-- The fields of a list of values, as far as it goes. -/
theorem keys_zip_sublist (fields : List String) (items : List α) :
    (keys (fields.zip items)).Sublist fields := by
  induction fields generalizing items with
  | nil => exact List.Sublist.refl []
  | cons field fields ih =>
    cases items with
    | nil => exact List.nil_sublist _
    | cons item items => exact (ih items).cons_cons field

/-- The members with each value changed by `f` of its key. -/
def mapValues (f : String → α → β) (ms : Members α) : Members β := ms.map fun m => (m.1, f m.1 m.2)

/-- **Inserting a member makes no difference to those that are kept**, if neither the new one nor
the one in its place is kept. -/
theorem filter_insert {p : String × α → Bool} {key : String} {value : α}
    (hnew : p (key, value) = false) {ms : Members α} (hold : ∀ m ∈ ms, m.1 = key → p m = false) :
    (insert key value ms).filter p = ms.filter p := by
  have hdrop : ¬p (key, value) = true := by rw [hnew]; exact Bool.false_ne_true
  induction ms with
  | nil => exact List.filter_cons_of_neg hdrop
  | cons m ms ih =>
    obtain ⟨hm, hms⟩ := List.forall_mem_cons.1 hold
    rw [insert]
    split
    · next heq =>
      have hdrop' : ¬p m = true := by rw [hm heq.symm]; exact Bool.false_ne_true
      rw [List.filter_cons_of_neg hdrop, List.filter_cons_of_neg hdrop']
    · split
      · exact List.filter_cons_of_neg hdrop
      · rw [List.filter_cons, List.filter_cons, ih hms]

end Members

namespace Record.Layout

variable {δ α : Type} {l : Layout δ α} {change : String → Json → Except Error (δ → δ)}
  {readers : List (String × (Json → Except Error (δ → δ)))}

/-! ## What counts of an object -/

/-- **The member counts** — its key is a field, and it does not say `null` for a field that may be
`null`. -/
def counts (fields nullable : List String) (m : String × Json) : Bool :=
  fields.contains m.1 && !(nullable.contains m.1 && m.2 = .null)

theorem counts_of_notMem {fields nullable : List String} {m : String × Json} (h : m.1 ∉ fields) :
    counts fields nullable m = false := by
  rw [counts, List.contains_eq_mem, decide_eq_false h, Bool.false_and]

theorem counts_null {fields nullable : List String} {key : String} (h : key ∈ nullable) :
    counts fields nullable (key, .null) = false := by
  simp [counts, h]

theorem of_counts_eq_false {fields nullable : List String} {m : String × Json}
    (h : counts fields nullable m = false) : m.1 ∉ fields ∨ m.1 ∈ nullable ∧ m.2 = .null := by
  simpa [counts, or_iff_not_imp_left] using h

/-- **Members that change nothing may be left out** — such a member changes nothing wherever it
stands: it commutes with the changes before it, as they have other keys. -/
theorem Fieldwise.fillFrom_filter (hl : l.Fieldwise change) (kept : String × Json → Bool)
    {ms : Members Json} (hms : ms.keys.Nodup) {draft : δ}
    (hidle : ∀ m ∈ ms, kept m = false → ∃ g, change m.1 m.2 = .ok g ∧ g draft = draft) :
    l.fillFrom draft (ms.filter kept) = l.fillFrom draft ms := by
  induction ms generalizing draft with
  | nil => rfl
  | cons m ms ih =>
    obtain ⟨key, value⟩ := m
    obtain ⟨hkey, hms⟩ := List.nodup_cons.1 hms
    obtain ⟨hhead, htail⟩ := List.forall_mem_cons.1 hidle
    cases hkept : kept (key, value) with
    | false =>
      obtain ⟨g, hg, hsame⟩ := hhead hkept
      rw [List.filter_cons_of_neg (by rw [hkept]; exact Bool.false_ne_true),
        hl.fillFrom_cons_of_ok hg, hsame, ih hms htail]
    | true =>
      rw [List.filter_cons_of_pos hkept]
      cases hchange : change key value with
      | error cause => rw [hl.fillFrom_cons_of_error hchange, hl.fillFrom_cons_of_error hchange]
      | ok f =>
        rw [hl.fillFrom_cons_of_ok hchange, hl.fillFrom_cons_of_ok hchange]
        refine ih hms fun m hm hdropped => ?_
        obtain ⟨g, hg, hsame⟩ := htail m hm hdropped
        have hne : m.1 ≠ key := fun heq => hkey (List.mem_map.2 ⟨m, hm, heq⟩)
        exact ⟨g, hg, (hl.comm hne hg hchange draft).trans (congrArg f hsame)⟩

/-- **Of an object, only the members that count make a difference**, where `null` is read as what
the draft begins with. -/
theorem Fieldwise.readObject_filter_counts (hl : l.Fieldwise (changeBy readers))
    {nullable : List String}
    (hnull : ∀ key ∈ nullable, ∃ g, changeBy readers key .null = .ok g ∧ g l.start = l.start)
    {members : Members Json} (hmembers : members.keys.Nodup) :
    l.readObject (members.filter (counts (Members.keys readers) nullable)) =
      l.readObject members := by
  have hfill : l.fillFrom l.start (members.filter (counts (Members.keys readers) nullable)) =
      l.fillFrom l.start members := by
    refine hl.fillFrom_filter _ hmembers fun m _ hdropped => ?_
    rcases of_counts_eq_false hdropped with hother | ⟨hnullable, hvalue⟩
    · exact ⟨id, by rw [changeBy, Members.get?_eq_none_of_notMem hother]; rfl, rfl⟩
    · rw [hvalue]
      exact hnull m.1 hnullable
  rw [readObject, readObject, fill, fill, ← fillFrom, ← fillFrom, hfill]

/-- **A member more that does not count makes no difference**, where it replaces none that does. -/
theorem Fieldwise.readObject_insert (hl : l.Fieldwise (changeBy readers)) {nullable : List String}
    (hnull : ∀ key ∈ nullable, ∃ g, changeBy readers key .null = .ok g ∧ g l.start = l.start)
    {members : Members Json} (hsorted : members.Sorted) {key : String} {value : Json}
    (hnew : counts (Members.keys readers) nullable (key, value) = false)
    (hold : ∀ m ∈ members, m.1 = key → counts (Members.keys readers) nullable m = false) :
    l.readObject (members.insert key value) = l.readObject members := by
  have hinserted := (hsorted.insert key value).nodup_keys
  rw [← hl.readObject_filter_counts hnull hinserted, Members.filter_insert hnew hold,
    hl.readObject_filter_counts hnull hsorted.nodup_keys]

/-! ## Lists -/

/-- A list is read as its items are under the fields, unless it is too long. -/
theorem readList_eq_ok_iff {items : List Json} {a : α} :
    l.readList items = .ok a ↔
      items.length ≤ l.fields.length ∧ l.readObject (l.fields.zip items) = .ok a := by
  rw [readObject_eq_ok_iff]
  constructor
  · intro h
    refine ⟨Nat.not_lt.1 fun hlong => ?_, exists_draft_of_readList h⟩
    obtain ⟨draft, hfill, hfinish⟩ := exists_draft_of_readList h
    rw [readList, fill, ← fillFrom, hfill] at h
    dsimp only [bind, Except.bind] at h
    rw [hfinish] at h
    dsimp only at h
    rw [if_pos hlong] at h
    cases h
  · rintro ⟨hshort, draft, hfill, hfinish⟩
    rw [readList, fill, ← fillFrom, hfill]
    dsimp only [bind, Except.bind]
    rw [hfinish]
    dsimp only
    rw [if_neg (Nat.not_lt.2 hshort)]
    rfl

/-- **A list is read as the object is that has its items under the fields** — `zip` and sorting give
one object, by `fillFrom_perm`. -/
theorem Fieldwise.readList_ofList (hl : l.Fieldwise change) (hfields : l.fields.Nodup)
    {items : List Json} (hshort : items.length ≤ l.fields.length) {a : α} :
    l.readList items = .ok a ↔ l.readObject (Members.ofList (l.fields.zip items)) = .ok a := by
  have hkeys := (Members.keys_zip_sublist l.fields items).nodup hfields
  rw [readList_eq_ok_iff, and_iff_right hshort,
    hl.readObject_perm (Members.ofList_perm hkeys) (Members.sorted_ofList _).nodup_keys]

/-- **What is read of a list is read of an object**, a value if the items are. -/
theorem Fieldwise.exists_object (hl : l.Fieldwise change) (hfields : l.fields.Nodup)
    {items : List Json} (hitems : Json.AreCanonical items) {a : α} (h : l.readList items = .ok a) :
    ∃ members, (Json.obj members).IsCanonical ∧ l.readObject members = .ok a := by
  have hshort := (readList_eq_ok_iff.1 h).1
  refine ⟨_, ⟨Members.sorted_ofList _, Json.areCanonicalMembers_iff.2 fun m hm => ?_⟩,
    (hl.readList_ofList hfields hshort).1 h⟩
  have hmem := (Members.mem_overlay hm).resolve_left List.not_mem_nil
  exact Json.areCanonical_iff.1 hitems _ (List.of_mem_zip hmem).2

/-! ## Lists inside of values -/

/-- **The value with objects in the stead of lists** — itself and the values of its fields, which
`nested` is for. -/
def objectForm (l : Layout δ α) (nested : String → Json → Json) : Json → Json
  | .obj members => .obj (Members.mapValues nested members)
  | .arr items =>
    if items.length ≤ l.fields.length then
      .obj (Members.mapValues nested (Members.ofList (l.fields.zip items)))
    else .arr items
  | v => v

/-- What is read alike, is used alike. -/
theorem map_eq_ok_congr {β γ : Type} {x y : Except Error β} (h : ∀ b, x = .ok b ↔ y = .ok b)
    (g : β → γ) {c : γ} : x.map g = .ok c ↔ y.map g = .ok c := by
  cases x with
  | ok b => rw [(h b).1 rfl]
  | error cause =>
    cases y with
    | ok b => exact absurd ((h b).2 rfl) nofun
    | error cause' => exact iff_of_false nofun nofun

/-- Members whose values are read alike make the same draft. -/
theorem Fieldwise.fillFrom_mapValues (hl : l.Fieldwise change) {nested : String → Json → Json}
    (hnested : ∀ key value f, change key (nested key value) = .ok f ↔ change key value = .ok f)
    (ms : Members Json) (draft : δ) {filled : δ} :
    l.fillFrom draft (ms.mapValues nested) = .ok filled ↔ l.fillFrom draft ms = .ok filled := by
  induction ms generalizing draft with
  | nil => rfl
  | cons m ms ih =>
    obtain ⟨key, value⟩ := m
    rw [Members.mapValues, List.map_cons, ← Members.mapValues]
    cases hchange : change key value with
    | ok f =>
      rw [hl.fillFrom_cons_of_ok hchange,
        hl.fillFrom_cons_of_ok ((hnested key value f).2 hchange), ih]
    | error cause =>
      rw [hl.fillFrom_cons_of_error hchange]
      cases hchange' : change key (nested key value) with
      | ok f => exact absurd (hchange.symm.trans ((hnested key value f).1 hchange')) nofun
      | error cause' =>
        rw [hl.fillFrom_cons_of_error hchange']
        exact iff_of_false nofun nofun

/-- **A value and its object form are read alike** — errors apart, which name another place. -/
theorem Fieldwise.read_objectForm (hl : l.Fieldwise change) (hfields : l.fields.Nodup)
    {nested : String → Json → Json}
    (hnested : ∀ key value f, change key (nested key value) = .ok f ↔ change key value = .ok f)
    (v : Json) {a : α} : l.read (l.objectForm nested v) = .ok a ↔ l.read v = .ok a := by
  have hmap : ∀ ms : Members Json,
      l.readObject (ms.mapValues nested) = .ok a ↔ l.readObject ms = .ok a := fun ms => by
    simp only [readObject_eq_ok_iff, hl.fillFrom_mapValues hnested]
  cases v with
  | obj members => exact hmap members
  | arr items =>
    rw [objectForm]
    split
    · next hshort => exact (hmap _).trans (hl.readList_ofList hfields hshort).symm
    · rfl
  | _ => rfl

end Record.Layout

/-! ## Both forms -/

namespace Record

open Layout

/-- **The two forms of a record are read alike**: that of a list of its `fields`, and that of an
object. -/
structure Forms {α : Type} (fields nullable : List String) (objectForm : Json → Json)
    (ofJson : Json → Except Error α) : Prop where
  /-- A list is read if and as the object is that has its items under the fields. -/
  list_iff : ∀ items a, items.length ≤ fields.length →
    (ofJson (.arr items) = .ok a ↔ ofJson (.obj (Members.ofList (fields.zip items))) = .ok a)
  /-- A list with more items than fields is not read. -/
  too_long : ∀ items, fields.length < items.length → ∃ cause, ofJson (.arr items) = .error cause
  /-- A value is read if and as its object form is, where the records inside it are objects too. -/
  objectForm_iff : ∀ v a, ofJson (objectForm v) = .ok a ↔ ofJson v = .ok a
  /-- Of an object, only the members that count make a difference, even to the error. -/
  counting : ∀ members : Members Json, members.keys.Nodup →
    ofJson (.obj (members.filter (counts fields nullable))) = ofJson (.obj members)
  /-- A member more whose key is no field makes none. -/
  insert_other : ∀ (members : Members Json) key value, Members.Sorted members → key ∉ fields →
    ofJson (.obj (Members.insert key value members)) = ofJson (.obj members)
  /-- To say null makes none where a field that may be null is left out. -/
  insert_null : ∀ (members : Members Json) key, Members.Sorted members → key ∈ nullable →
    key ∉ members.keys → ofJson (.obj (Members.insert key .null members)) = ofJson (.obj members)
  /-- The same records are read of objects and of lists. -/
  same_records : ∀ a, (∃ members, (Json.obj members).IsCanonical ∧ ofJson (.obj members) = .ok a) ↔
    ∃ items, Json.AreCanonical items ∧ ofJson (.arr items) = .ok a

variable {δ α : Type} {l : Layout δ α} {readers : List (String × (Json → Except Error (δ → δ)))}

/-- **A layout of fields reads both forms alike**, where `null` is read as what the draft begins
with, and every record that is read is read of a list. -/
theorem Layout.Fieldwise.forms (hl : l.Fieldwise (changeBy readers))
    (hkeys : Members.keys readers = l.fields) (hfields : l.fields.Nodup) {nullable : List String}
    (hnull : ∀ key ∈ nullable, ∃ g, changeBy readers key .null = .ok g ∧ g l.start = l.start)
    {nested : String → Json → Json}
    (hnested : ∀ key value f,
      changeBy readers key (nested key value) = .ok f ↔ changeBy readers key value = .ok f)
    (hlist : ∀ v a, v.IsCanonical → l.read v = .ok a →
      ∃ items, Json.AreCanonical items ∧ l.read (.arr items) = .ok a) :
    Forms l.fields nullable (l.objectForm nested) l.read := by
  rw [← hkeys]
  exact {
    list_iff := fun items a hshort => hkeys ▸ hl.readList_ofList hfields (hkeys ▸ hshort)
    too_long := fun items hlong => by
      cases hread : l.read (.arr items) with
      | error cause => exact ⟨cause, rfl⟩
      | ok a => exact absurd (readList_eq_ok_iff.1 hread).1 (Nat.not_le.2 (hkeys ▸ hlong))
    objectForm_iff := fun v a => hl.read_objectForm hfields hnested v
    counting := fun members hmembers => hl.readObject_filter_counts hnull hmembers
    insert_other := fun members key value hsorted hkey =>
      hl.readObject_insert hnull hsorted (counts_of_notMem hkey) fun m _ heq =>
        counts_of_notMem (heq ▸ hkey)
    insert_null := fun members key hsorted hkey habsent =>
      hl.readObject_insert hnull hsorted (counts_null hkey) fun m hm heq =>
        absurd (List.mem_map.2 ⟨m, hm, heq⟩) habsent
    same_records := fun a =>
      ⟨fun ⟨_, hcanonical, hread⟩ => hlist _ a hcanonical hread,
        fun ⟨_, hcanonical, hread⟩ => hl.exists_object hfields hcanonical hread⟩ }

end Record

/-- A value that is there or `null` is read as it is. -/
theorem Record.optional_getD {α : Type} {read : Json → Except Error α} {written : α → Json}
    (h : ∀ a, optional read (written a) = .ok (some a)) (o : Option α) :
    optional read ((o.map written).getD .null) = .ok o := by
  cases o with
  | none => rfl
  | some a => exact h a

/-! ## Applications -/

namespace Application

/-- No value of an application is a record. -/
def objectForm : Json → Json := layout.objectForm fun _ value => value

theorem forms :
    Record.Forms ["name", "stage", "region", "config"] [] objectForm ofJson := by
  refine fieldwise.forms rfl (by decide) (List.forall_mem_nil _) (fun _ _ _ => Iff.rfl)
    fun v a hv h => ?_
  exact ⟨[.str a.name, .str a.stage, .str a.region, .obj a.config],
    ⟨trivial, trivial, trivial, isCanonical_of_ofJson hv h, trivial⟩, rfl⟩

end Application

/-! ## References -/

namespace ResourceRef

/-- The fields of a reference. -/
def readers : List (String × (Json → Except Record.Error (Draft → Draft))) :=
  [("kind", field ResourceKind.ofJson fun kind draft => { draft with kind := some kind }),
    ("name", field Record.text fun name draft => { draft with name := some name })]

theorem fieldwise : layout.Fieldwise (changeBy readers) := by
  refine fieldwise_of_apart ?_ ?_ ?_
  · simp only [readers, List.forall_mem_cons]
    exact ⟨set_field _ _, set_field _ _, List.forall_mem_nil _⟩
  · intro key hkey draft value
    unfold layout
    dsimp only
    split
    · exact absurd hkey (by decide)
    · exact absurd hkey (by decide)
    · rfl
  · exact List.pairwise_pair.2 (apart_field (by intros; rfl))

/-- No value of a reference is a record. -/
def objectForm : Json → Json := layout.objectForm fun _ value => value

theorem forms : Record.Forms ["kind", "name"] [] objectForm ofJson := by
  refine fieldwise.forms rfl (by decide) (List.forall_mem_nil _) (fun _ _ _ => Iff.rfl)
    fun v ref _ _ => ?_
  obtain ⟨kind, name⟩ := ref
  exact ⟨[kind.written, .str name], ⟨trivial, trivial, trivial⟩, by cases kind <;> rfl⟩

/-- A list of the fields becomes an object, so that only `null` has `null` as its object form. -/
theorem objectForm_eq_null_iff {v : Json} : objectForm v = .null ↔ v = .null := by
  cases v with
  | obj members => exact iff_of_false Json.noConfusion Json.noConfusion
  | arr items =>
    rw [objectForm, Record.Layout.objectForm]
    split <;> exact iff_of_false Json.noConfusion Json.noConfusion
  | _ => rfl

/-- A reference that may be `null` is read alike in both forms. -/
theorem optional_objectForm (v : Json) (o : Option ResourceRef) :
    Record.optional ofJson (objectForm v) = .ok o ↔ Record.optional ofJson v = .ok o := by
  have hoptional : ∀ v, Record.optional ofJson v =
      if v = .null then .ok none else (ofJson v).map some := fun v => by cases v <;> rfl
  simp only [hoptional, objectForm_eq_null_iff]
  split
  · rfl
  · exact map_eq_ok_congr (forms.objectForm_iff v) some

end ResourceRef

/-! ## Authorizations -/

namespace AuthDescriptor

/-- The `resource` of an authorization is a record of its own. -/
def objectForm : Json → Json :=
  layout.objectForm fun key value =>
    if key = "resource" then ResourceRef.objectForm value else value

/-- The fields of an authorization as a list, with `null` for what is absent. -/
def items (a : AuthDescriptor) : List Json :=
  [(a.resource.map ResourceRef.written).getD .null, (a.cognito.map .bool).getD .null,
    .arr (a.scopes.map .str)]

theorem areCanonical_items (a : AuthDescriptor) : Json.AreCanonical a.items := by
  obtain ⟨resource, cognito, scopes⟩ := a
  refine ⟨?_, ?_, Record.areCanonical_texts scopes, trivial⟩
  · cases resource with
    | none => trivial
    | some ref => exact ref.isCanonical_written
  · cases cognito <;> trivial

theorem ofJson_items (a : AuthDescriptor) : ofJson (.arr a.items) = .ok a := by
  have hresource : changeBy readers "resource" ((a.resource.map ResourceRef.written).getD .null) =
      .ok fun b => { b with resource := a.resource } :=
    field_of_ok _ (Record.optional_getD ResourceRef.optional_written a.resource)
  have hcognito : changeBy readers "cognito" ((a.cognito.map .bool).getD .null) =
      .ok fun b => { b with cognito := a.cognito } :=
    field_of_ok _ (Record.optional_getD (fun _ => rfl) a.cognito)
  have hscopes : changeBy readers "scopes" (.arr (a.scopes.map .str)) =
      .ok fun b => { b with scopes := a.scopes } := field_of_ok _ (Record.texts_map a.scopes)
  refine readList_eq_ok_iff.2 ⟨Nat.le_refl _, readObject_eq_ok_iff.2 ⟨a, ?_, rfl⟩⟩
  change layout.fillFrom _ [("resource", _), ("cognito", _), ("scopes", _)] = _
  rw [fieldwise.fillFrom_cons_of_ok hresource, fieldwise.fillFrom_cons_of_ok hcognito,
    fieldwise.fillFrom_cons_of_ok hscopes]
  rfl

theorem forms :
    Record.Forms ["resource", "cognito", "scopes"] ["resource", "cognito"] objectForm ofJson := by
  refine fieldwise.forms rfl (by decide) ?_ (fun key value f => ?_) fun v a _ _ => ?_
  · simp only [List.forall_mem_cons]
    exact ⟨⟨_, rfl, rfl⟩, ⟨_, rfl, rfl⟩, List.forall_mem_nil _⟩
  · split
    · next hkey =>
      subst hkey
      exact map_eq_ok_congr (ResourceRef.optional_objectForm value) _
    · rfl
  · exact ⟨a.items, a.areCanonical_items, a.ofJson_items⟩

end AuthDescriptor

/-! ## Entries -/

namespace LogEntry

/-- No value of an entry is a record. -/
def objectForm : Json → Json := layout.objectForm fun _ value => value

/-- The fields of an entry as a list, with `null` for what is absent. -/
def items (e : LogEntry) : List Json :=
  [e.level.written, (e.message.map .str).getD .null, e.entry.getD .null, .obj e.fields,
    .str e.time.text]

theorem areCanonical_items {e : LogEntry} (h : e.IsCanonical) : Json.AreCanonical e.items := by
  obtain ⟨level, message, entry, fields, time⟩ := e
  refine ⟨trivial, ?_, ?_, h.fields, trivial, trivial⟩
  · cases message <;> trivial
  · cases entry with
    | none => trivial
    | some v => exact h.entry v rfl

theorem ofJson_items (e : LogEntry) : ofJson (.arr e.items) = .ok e.normal := by
  have hlevel : changeBy readers "level" e.level.written =
      .ok fun draft => { draft with level := some e.level } := field_of_ok _ e.level.ofJson_written
  have hmessage : changeBy readers "message" ((e.message.map .str).getD .null) =
      .ok fun draft => { draft with message := e.message } :=
    field_of_ok _ (Record.optional_getD (fun _ => rfl) e.message)
  have hentry : changeBy readers "entry" (e.entry.getD .null) =
      .ok fun draft => { draft with entry := e.normal.entry } := by
    rw [changeBy_entry, normal]
    cases e.entry with
    | none => rfl
    | some v => by_cases hv : v = .null <;> simp [Option.filter, hv]
  have hfields : changeBy readers "fields" (.obj e.fields) =
      .ok fun draft => { draft with fields := e.fields } := rfl
  have htime : changeBy readers "at" (.str e.time.text) =
      .ok fun draft => { draft with time := some e.time } := field_of_ok _ (timeOfJson_text e.time)
  refine readList_eq_ok_iff.2 ⟨Nat.le_refl _, readObject_eq_ok_iff.2
    ⟨⟨some e.level, e.message, e.normal.entry, e.fields, some e.time⟩, ?_, rfl⟩⟩
  change layout.fillFrom _ [("level", _), ("message", _), ("entry", _), ("fields", _),
    ("at", _)] = _
  rw [fieldwise.fillFrom_cons_of_ok hlevel, fieldwise.fillFrom_cons_of_ok hmessage,
    fieldwise.fillFrom_cons_of_ok hentry, fieldwise.fillFrom_cons_of_ok hfields,
    fieldwise.fillFrom_cons_of_ok htime]
  rfl

theorem forms : Record.Forms ["level", "message", "entry", "fields", "at"] ["message", "entry"]
    objectForm ofJson := by
  refine fieldwise.forms rfl (by decide) ?_ (fun _ _ _ => Iff.rfl) fun v e hv h => ?_
  · simp only [List.forall_mem_cons]
    exact ⟨⟨_, rfl, rfl⟩, ⟨_, rfl, rfl⟩, List.forall_mem_nil _⟩
  · obtain ⟨hvalue, hnormal⟩ := isCanonical_of_ofJson hv h
    exact ⟨e.items, areCanonical_items hvalue, e.ofJson_items.trans (congrArg _ hnormal)⟩

end LogEntry

/-- **Both forms of every record are read alike** — an application, a reference, an authorization or
a log entry is read of a list if and as it is read of the object with the items under the fields, in
whichever form the records inside it are, and of no list that is too long; members that are no
field, and `null` for a field that may be `null`, make no difference. -/
theorem Record.forms_alike :
    Forms ["name", "stage", "region", "config"] [] Application.objectForm Application.ofJson ∧
    Forms ["kind", "name"] [] ResourceRef.objectForm ResourceRef.ofJson ∧
    Forms ["resource", "cognito", "scopes"] ["resource", "cognito"] AuthDescriptor.objectForm
      AuthDescriptor.ofJson ∧
    Forms ["level", "message", "entry", "fields", "at"] ["message", "entry"] LogEntry.objectForm
      LogEntry.ofJson :=
  ⟨Application.forms, ResourceRef.forms, AuthDescriptor.forms, LogEntry.forms⟩

/-- A list in a list is an object in an object. -/
theorem Record.forms_alike_of_nested :
    let nested : Json := .arr [.arr [.str "table", .str "users"], .null]
    AuthDescriptor.objectForm nested = .obj [("cognito", .null),
      ("resource", .obj [("kind", .str "table"), ("name", .str "users")])] ∧
      AuthDescriptor.ofJson nested = .ok { resource := some ⟨.table, "users"⟩ } := by
  intro nested
  have hform : AuthDescriptor.objectForm nested = .obj [("cognito", .null),
      ("resource", .obj [("kind", .str "table"), ("name", .str "users")])] := by decide
  obtain ⟨-, -, hforms, -⟩ := forms_alike
  refine ⟨hform, (hforms.objectForm_iff nested _).1 ?_⟩
  rw [hform]
  rfl

end BackendPlan
