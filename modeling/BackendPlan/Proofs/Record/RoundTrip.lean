import BackendPlan.Application
import BackendPlan.Event
import BackendPlan.Handler
import BackendPlan.Proofs.Json.RoundTrip
import BackendPlan.Proofs.Record.Layout
import BackendPlan.Proofs.Time.RoundTrip
import BackendPlan.Proofs.Uuid
import BackendPlan.Route

/-!
# Proofs/Record/RoundTrip — records survive being written and read

What a record leaves out when it is written is what its reader fills in:

    record   —`written`→   document   —`canonical`→   value   —`ofJson`→   record

* `Application.fieldwise`, `AuthDescriptor.fieldwise`, `LogEntry.fieldwise` — the layouts, field by
  field.
* `Application.ofJson_canonical`, `AuthDescriptor.ofJson_canonical`, `LogEntry.ofJson_canonical` —
  **what is written is read back**, whichever members are left out.
* `Record.RoundTrip` — what it means to survive, as a document, as a value and as a text.
* `Record.records_survive` — **every record survives**.
-/

namespace BackendPlan

open Record.Layout

/-! ## Names and texts -/

theorem ResourceKind.ofJson_written (kind : ResourceKind) : ofJson kind.written = .ok kind := by
  cases kind <;> rfl

theorem Level.ofJson_written (level : Level) : ofJson level.written = .ok level := by
  cases level <;> rfl

theorem HandlerId.ofJson_written (id : HandlerId) : ofJson id.written = .ok id := by
  rw [written, ofJson, text, Uuid.ofText?_text]

theorem LogEntry.timeOfJson_text (time : Timestamp) : timeOfJson (.str time.text) = .ok time := by
  rw [timeOfJson, Timestamp.ofText?_text]

theorem Record.texts_map (names : List String) : texts (.arr (names.map .str)) = .ok names := by
  rw [texts]
  induction names with
  | nil => rfl
  | cons name names ih =>
    rw [List.map_cons, List.mapM_cons, ih]
    rfl

theorem Record.areCanonical_texts (names : List String) : Json.AreCanonical (names.map .str) := by
  refine Json.areCanonical_iff.2 fun v hv => ?_
  obtain ⟨name, -, rfl⟩ := List.mem_map.1 hv
  trivial

/-- A map that is read of a value is a value. -/
theorem Record.isCanonical_of_map {v : Json} (hv : v.IsCanonical) {members : Members Json}
    (h : map v = .ok members) : (Json.obj members).IsCanonical := by
  cases v with
  | obj ms =>
    obtain rfl := Except.ok.inj h
    exact hv
  | _ => exact absurd h nofun

/-! ## References -/

namespace ResourceRef

theorem ofJson_written (ref : ResourceRef) : ofJson ref.written = .ok ref := by
  obtain ⟨kind, name⟩ := ref
  cases kind <;> rfl

theorem isCanonical_written (ref : ResourceRef) : ref.written.IsCanonical :=
  ⟨List.pairwise_pair.2 (by decide : "kind" < "name"), trivial, trivial, trivial⟩

theorem ofJson_canonical (ref : ResourceRef) : ofJson ref.written.canonical = .ok ref := by
  rw [ref.isCanonical_written.canonical_eq, ofJson_written]

theorem optional_written (ref : ResourceRef) :
    Record.optional ofJson ref.written = .ok (some ref) :=
  congrArg (Except.map some) ref.ofJson_written

end ResourceRef

namespace Application

/-- The fields of an application, each with its reader and its place in the `Draft`. -/
def readers : List (String × (Json → Except Record.Error (Draft → Draft))) :=
  [("name", field Record.text fun name draft => { draft with name := some name }),
    ("stage", field Record.text fun stage draft => { draft with stage := some stage }),
    ("region", field Record.text fun region draft => { draft with region := some region }),
    ("config", field Record.map fun config draft => { draft with config := config })]

theorem fieldwise : layout.Fieldwise (changeBy readers) := by
  refine fieldwise_of_apart ?_ ?_ ?_
  · simp only [readers, List.forall_mem_cons]
    exact ⟨set_field _ _, set_field _ _, set_field _ _, set_field _ _, List.forall_mem_nil _⟩
  · intro key hkey draft value
    unfold layout
    dsimp only
    split
    · exact absurd hkey (by decide)
    · exact absurd hkey (by decide)
    · exact absurd hkey (by decide)
    · exact absurd hkey (by decide)
    · rfl
  · simp only [readers, List.pairwise_cons, List.forall_mem_cons, List.not_mem_nil,
      IsEmpty.forall_iff, implies_true, List.Pairwise.nil, and_true]
    constructorm* _ ∧ _ <;> exact apart_field (by intros; rfl)

theorem ofJson_written (a : Application) : ofJson a.written = .ok a := by
  obtain ⟨name, stage, region, config⟩ := a
  cases config <;> rfl

theorem nodup_members (a : Application) : a.members.keys.Nodup := by
  obtain ⟨name, stage, region, config⟩ := a
  cases config <;> simp [members, Members.keys]

/-- The configuration of an application is a value. -/
def IsCanonical (a : Application) : Prop := (Json.obj a.config).IsCanonical

theorem areCanonicalMembers_members {a : Application} (h : a.IsCanonical) :
    Json.AreCanonicalMembers a.members := by
  obtain ⟨name, stage, region, config⟩ := a
  cases config with
  | nil => exact ⟨trivial, trivial, trivial, trivial⟩
  | cons m config => exact ⟨trivial, trivial, trivial, h, trivial⟩

theorem ofJson_canonical {a : Application} (h : a.IsCanonical) :
    ofJson a.written.canonical = .ok a :=
  (fieldwise.read_canonical a.nodup_members (areCanonicalMembers_members h)).2 a.ofJson_written

/-- **What is read of a value is made of values** — by `Fieldwise.exists_draft`, field by field. -/
theorem isCanonical_of_ofJson {v : Json} (hv : v.IsCanonical) {a : Application}
    (h : ofJson v = .ok a) : a.IsCanonical := by
  have hfields : ∀ m ∈ readers, Keeps (fun draft : Draft =>
    (Json.obj draft.config).IsCanonical) m.2 := by
    simp only [readers, List.forall_mem_cons]
    refine ⟨keeps_field fun _ _ _ _ _ h => h, keeps_field fun _ _ _ _ _ h => h,
      keeps_field fun _ _ _ _ _ h => h, keeps_field fun value config _ hvalue hconfig _ => ?_,
      List.forall_mem_nil _⟩
    exact Record.isCanonical_of_map hvalue hconfig
  obtain ⟨⟨name, stage, region, config⟩, hdraft, hfinish⟩ :=
    fieldwise.exists_draft ⟨List.Pairwise.nil, trivial⟩ hfields hv h
  cases name with
  | none => cases hfinish
  | some name =>
    cases stage with
    | none => cases hfinish
    | some stage =>
      cases region with
      | none => cases hfinish
      | some region =>
        obtain rfl := Except.ok.inj hfinish
        exact hdraft

end Application

namespace AuthDescriptor

/-- The fields of a descriptor. -/
def readers : List (String × (Json → Except Record.Error (AuthDescriptor → AuthDescriptor))) :=
  [("resource", field (Record.optional ResourceRef.ofJson) fun ref a => { a with resource := ref }),
    ("cognito", field (Record.optional Record.flag) fun on a => { a with cognito := on }),
    ("scopes", field Record.texts fun names a => { a with scopes := names })]

theorem fieldwise : layout.Fieldwise (changeBy readers) := by
  refine fieldwise_of_apart ?_ ?_ ?_
  · simp only [readers, List.forall_mem_cons]
    exact ⟨set_field _ _, set_field _ _, set_field _ _, List.forall_mem_nil _⟩
  · intro key hkey draft value
    unfold layout
    dsimp only
    split
    · exact absurd hkey (by decide)
    · exact absurd hkey (by decide)
    · exact absurd hkey (by decide)
    · rfl
  · simp only [readers, List.pairwise_cons, List.forall_mem_cons, List.not_mem_nil,
      IsEmpty.forall_iff, implies_true, List.Pairwise.nil, and_true]
    constructorm* _ ∧ _ <;> exact apart_field (by intros; rfl)

theorem ofJson_written (a : AuthDescriptor) : ofJson a.written = .ok a := by
  have href : ∀ ref : ResourceRef, changeBy readers "resource" ref.written =
      .ok fun a => { a with resource := some ref } := fun ref =>
    field_of_ok (fun ref (a : AuthDescriptor) => { a with resource := ref }) ref.optional_written
  have hcognito : ∀ on, changeBy readers "cognito" (.bool on) =
      .ok fun a => { a with cognito := some on } := fun on => rfl
  have hscopes : changeBy readers "scopes" (.arr (a.scopes.map .str)) =
      .ok fun b => { b with scopes := a.scopes } := field_of_ok _ (Record.texts_map a.scopes)
  refine readObject_eq_ok_iff.2 ⟨a, ?_, rfl⟩
  rw [members, List.append_assoc, fieldwise.fillFrom_toList_append href,
    fieldwise.fillFrom_toList_append hcognito, fieldwise.fillFrom_cons_of_ok hscopes]
  obtain ⟨resource, cognito, scopes⟩ := a
  cases resource <;> cases cognito <;> rfl

theorem nodup_members (a : AuthDescriptor) : a.members.keys.Nodup := by
  obtain ⟨resource, cognito, scopes⟩ := a
  cases resource <;> cases cognito <;> simp [members, Members.keys]

theorem areCanonicalMembers_members (a : AuthDescriptor) : Json.AreCanonicalMembers a.members := by
  have hscopes := Record.areCanonical_texts a.scopes
  obtain ⟨resource, cognito, scopes⟩ := a
  cases resource with
  | none => cases cognito <;> simpa [members, Json.AreCanonicalMembers,
      Json.IsCanonical] using hscopes
  | some ref =>
    have href := ref.isCanonical_written
    cases cognito <;> simpa [members, Json.AreCanonicalMembers, Json.IsCanonical] using
      ⟨href, hscopes⟩

theorem ofJson_canonical (a : AuthDescriptor) : ofJson a.written.canonical = .ok a :=
  (fieldwise.read_canonical a.nodup_members a.areCanonicalMembers_members).2 a.ofJson_written

end AuthDescriptor

namespace LogEntry

/-- The fields of an entry. -/
def readers : List (String × (Json → Except Record.Error (Draft → Draft))) :=
  [("level", field Level.ofJson fun level draft => { draft with level := some level }),
    ("message", field (Record.optional Record.text) fun message draft =>
      { draft with message := message }),
    ("entry", field (Record.optional .ok) fun entry draft => { draft with entry := entry }),
    ("fields", field Record.map fun fields draft => { draft with fields := fields }),
    ("at", field timeOfJson fun time draft => { draft with time := some time })]

theorem fieldwise : layout.Fieldwise (changeBy readers) := by
  refine fieldwise_of_apart ?_ ?_ ?_
  · simp only [readers, List.forall_mem_cons]
    exact ⟨set_field _ _, set_field _ _, set_field _ _, set_field _ _, set_field _ _,
      List.forall_mem_nil _⟩
  · intro key hkey draft value
    unfold layout
    dsimp only
    split
    · exact absurd hkey (by decide)
    · exact absurd hkey (by decide)
    · exact absurd hkey (by decide)
    · exact absurd hkey (by decide)
    · exact absurd hkey (by decide)
    · rfl
  · simp only [readers, List.pairwise_cons, List.forall_mem_cons, List.not_mem_nil,
      IsEmpty.forall_iff, implies_true, List.Pairwise.nil, and_true]
    constructorm* _ ∧ _ <;> exact apart_field (by intros; rfl)

/-- An entry whose payload is `null` counts as one without payload. -/
def normal (e : LogEntry) : LogEntry := { e with entry := e.entry.filter (· ≠ .null) }

theorem changeBy_entry (v : Json) :
    changeBy readers "entry" v =
      .ok fun draft => { draft with entry := if v = .null then none else some v } := by
  cases v <;> rfl

/-- **What an entry leaves out is filled in** — with the default of its reader, which is why it was
left out. -/
theorem ofJson_written (e : LogEntry) : ofJson e.written = .ok e.normal := by
  have hlevel : changeBy readers "level" e.level.written =
      .ok fun draft => { draft with level := some e.level } := field_of_ok _ e.level.ofJson_written
  have hmessage : ∀ message, changeBy readers "message" (.str message) =
      .ok fun draft => { draft with message := some message } := fun message => rfl
  have hfields : changeBy readers "fields" (.obj e.fields) =
      .ok fun draft => { draft with fields := e.fields } := rfl
  have htime : changeBy readers "at" (.str e.time.text) =
      .ok fun draft => { draft with time := some e.time } := field_of_ok _ (timeOfJson_text e.time)
  refine readObject_eq_ok_iff.2
    ⟨⟨some e.level, e.message, e.normal.entry, e.fields, some e.time⟩, ?_, rfl⟩
  rw [members, timelessMembers]
  simp only [List.append_assoc, List.cons_append, List.nil_append]
  rw [fieldwise.fillFrom_cons_of_ok hlevel, fieldwise.fillFrom_toList_append hmessage,
    fieldwise.fillFrom_toList_append changeBy_entry]
  have hrest : ∀ draft : Draft, draft.fields = [] →
      layout.fillFrom draft ((if e.fields.isEmpty then [] else [("fields", .obj e.fields)]) ++
        [("at", .str e.time.text)]) =
        .ok { draft with fields := e.fields, time := some e.time } := by
    intro draft hdraft
    split
    · next hempty =>
      have hsame : e.fields = draft.fields := (List.isEmpty_iff.1 hempty).trans hdraft.symm
      rw [List.nil_append, fieldwise.fillFrom_cons_of_ok htime, hsame]
      rfl
    · rw [List.singleton_append, fieldwise.fillFrom_cons_of_ok hfields,
        fieldwise.fillFrom_cons_of_ok htime]
      rfl
  obtain ⟨level, message, entry, fields, time⟩ := e
  cases entry with
  | none => cases message <;> exact hrest _ rfl
  | some v =>
    have hentry : (some v).filter (· ≠ .null) = if v = .null then none else some v := by
      by_cases hv : v = .null <;> simp [Option.filter, hv]
    rw [normal, hentry]
    cases message <;> exact hrest _ rfl

theorem nodup_members (e : LogEntry) : e.members.keys.Nodup := by
  obtain ⟨level, message, entry, fields, time⟩ := e
  cases message <;> cases entry <;> cases fields <;>
    simp [members, timelessMembers, Members.keys]

/-- The parts of an entry that may hold anything, `entry` and `fields`, are values. -/
structure IsCanonical (e : LogEntry) : Prop where
  entry : ∀ v ∈ e.entry, v.IsCanonical
  fields : (Json.obj e.fields).IsCanonical

theorem areCanonicalMembers_members {e : LogEntry} (h : e.IsCanonical) :
    Json.AreCanonicalMembers e.members := by
  refine Json.areCanonicalMembers_iff.2 fun m hm => ?_
  simp only [members, timelessMembers, List.mem_append, Option.mem_toList] at hm
  rcases hm with (((hm | hm) | hm) | hm) | hm
  · obtain rfl := List.mem_singleton.1 hm
    trivial
  · obtain ⟨message, -, rfl⟩ := Option.map_eq_some_iff.1 hm
    trivial
  · obtain ⟨v, hv, rfl⟩ := Option.map_eq_some_iff.1 hm
    exact h.entry v hv
  · split at hm
    · exact absurd hm List.not_mem_nil
    · obtain rfl := List.mem_singleton.1 hm
      exact h.fields
  · obtain rfl := List.mem_singleton.1 hm
    trivial

theorem ofJson_canonical {e : LogEntry} (h : e.IsCanonical) :
    ofJson e.written.canonical = .ok e.normal :=
  (fieldwise.read_canonical e.nodup_members (areCanonicalMembers_members h)).2 e.ofJson_written

/-- **What is read of a value is made of values**, and is as it is read again. -/
theorem isCanonical_of_ofJson {v : Json} (hv : v.IsCanonical) {e : LogEntry}
    (h : ofJson v = .ok e) : e.IsCanonical ∧ e.normal = e := by
  let P : Draft → Prop := fun draft =>
    (∀ v ∈ draft.entry, v.IsCanonical ∧ v ≠ .null) ∧ (Json.obj draft.fields).IsCanonical
  have hfields : ∀ m ∈ readers, Keeps P m.2 := by
    simp only [readers, List.forall_mem_cons]
    refine ⟨keeps_field fun _ _ _ _ _ h => h, keeps_field fun _ _ _ _ _ h => h,
      keeps_field fun value entry draft hvalue hentry hdraft => ?_,
      keeps_field fun value config _ hvalue hconfig h =>
        ⟨h.1, Record.isCanonical_of_map hvalue hconfig⟩,
      keeps_field fun _ _ _ _ _ h => h, List.forall_mem_nil _⟩
    refine ⟨?_, hdraft.2⟩
    rintro v rfl
    cases value with
    | null => cases hentry
    | _ =>
      obtain rfl := Option.some.inj (Except.ok.inj hentry)
      exact ⟨hvalue, fun h => by cases h⟩
  have hstart : P layout.start :=
    ⟨fun v hv => absurd hv (Option.not_mem_none v), List.Pairwise.nil, trivial⟩
  obtain ⟨⟨level, message, entry, fields, time⟩, ⟨hentry, hfields⟩, hfinish⟩ :=
    fieldwise.exists_draft hstart hfields hv h
  cases level with
  | none => cases hfinish
  | some level =>
    cases time with
    | none => cases hfinish
    | some time =>
      obtain rfl := Except.ok.inj hfinish
      refine ⟨⟨fun v hv => (hentry v hv).1, hfields⟩, ?_⟩
      cases entry with
      | none => rfl
      | some v =>
        have hsame : (some v).filter (· ≠ .null) = some v :=
          Option.filter_some_pos (decide_eq_true (hentry v rfl).2)
        rw [normal, hsame]

end LogEntry

/-! ## Round trips -/

namespace Record

/-- **A record survives being written and read**, up to what counts as the same — `normal` is the
identity but for log entries. -/
structure RoundTrip {α : Type} (IsValue : α → Prop) (normal : α → α) (written : α → Json)
    (ofJson : Json → Except Error α) : Prop where
  /-- The document is read, with its members in the order in which they are written. -/
  ofJson_written : ∀ x, IsValue x → ofJson (written x) = .ok (normal x)
  /-- So is its value, where the members are sorted. -/
  ofJson_canonical : ∀ x, IsValue x → ofJson (written x).canonical = .ok (normal x)
  /-- So is its text. -/
  ofJson_text : ∀ x, IsValue x →
    (Json.ofText? (written x).text).map ofJson = some (.ok (normal x))
  /-- What was read once is written and read back as it is. -/
  ofJson_of_ofJson : ∀ v x, v.IsCanonical → ofJson v = .ok x →
    IsValue x ∧ normal x = x ∧ ofJson (written x).canonical = .ok x
  /-- Different records are written differently, as values and as texts. -/
  written_ne : ∀ x y, IsValue x → IsValue y → normal x ≠ normal y →
    (written x).canonical ≠ (written y).canonical ∧ (written x).text ≠ (written y).text

variable {α : Type} {IsValue : α → Prop} {normal : α → α} {written : α → Json}
  {ofJson : Json → Except Error α}

/-- Text and difference come with the reading of the value. -/
theorem roundTrip_of_reads (hwritten : ∀ x, IsValue x → ofJson (written x) = .ok (normal x))
    (hcanonical : ∀ x, IsValue x → ofJson (written x).canonical = .ok (normal x))
    (hread : ∀ v x, v.IsCanonical → ofJson v = .ok x → IsValue x ∧ normal x = x) :
    RoundTrip IsValue normal written ofJson where
  ofJson_written := hwritten
  ofJson_canonical := hcanonical
  ofJson_text x hx := by
    rw [Json.ofText?_text, Option.map_some, hcanonical x hx]
  ofJson_of_ofJson v x hv h := by
    obtain ⟨hx, hnormal⟩ := hread v x hv h
    exact ⟨hx, hnormal, (hcanonical x hx).trans (congrArg _ hnormal)⟩
  written_ne x y hx hy hne := by
    have hvalues : (written x).canonical ≠ (written y).canonical := fun heq => by
      have hsame := (hcanonical x hx).symm.trans ((congrArg ofJson heq).trans (hcanonical y hy))
      exact hne (Except.ok.inj hsame)
    refine ⟨hvalues, fun heq => hvalues ?_⟩
    have htexts := congrArg Json.ofText? heq
    rw [Json.ofText?_text, Json.ofText?_text] at htexts
    exact Option.some.inj htexts

/-- **Records survive being written and read** — every application, reference, authorization, log
entry, kind, level and identity is read back from what is written, as a document, as a value and as
a text; what was read once is read back as it is; and different ones are written differently.  Only
a log entry whose payload is `null` comes back without payload. -/
theorem records_survive :
    RoundTrip Application.IsCanonical id Application.written Application.ofJson ∧
    RoundTrip (fun _ => True) id ResourceRef.written ResourceRef.ofJson ∧
    RoundTrip (fun _ => True) id AuthDescriptor.written AuthDescriptor.ofJson ∧
    RoundTrip LogEntry.IsCanonical LogEntry.normal LogEntry.written LogEntry.ofJson ∧
    RoundTrip (fun _ => True) id ResourceKind.written ResourceKind.ofJson ∧
    RoundTrip (fun _ => True) id Level.written Level.ofJson ∧
    RoundTrip (fun _ => True) id HandlerId.written HandlerId.ofJson :=
  ⟨roundTrip_of_reads (fun a _ => a.ofJson_written) (fun _ => Application.ofJson_canonical)
      fun _ _ hv h => ⟨Application.isCanonical_of_ofJson hv h, rfl⟩,
    roundTrip_of_reads (fun ref _ => ref.ofJson_written) (fun ref _ => ref.ofJson_canonical)
      fun _ _ _ _ => ⟨trivial, rfl⟩,
    roundTrip_of_reads (fun a _ => a.ofJson_written) (fun a _ => a.ofJson_canonical)
      fun _ _ _ _ => ⟨trivial, rfl⟩,
    roundTrip_of_reads (fun e _ => e.ofJson_written) (fun _ => LogEntry.ofJson_canonical)
      fun _ _ hv h => LogEntry.isCanonical_of_ofJson hv h,
    roundTrip_of_reads (fun kind _ => kind.ofJson_written) (fun kind _ => kind.ofJson_written)
      fun _ _ _ _ => ⟨trivial, rfl⟩,
    roundTrip_of_reads (fun level _ => level.ofJson_written) (fun level _ => level.ofJson_written)
      fun _ _ _ _ => ⟨trivial, rfl⟩,
    roundTrip_of_reads (fun id _ => id.ofJson_written) (fun id _ => id.ofJson_written)
      fun _ _ _ _ => ⟨trivial, rfl⟩⟩

end Record

end BackendPlan
