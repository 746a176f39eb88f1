import BackendPlan.Proofs.Json.Values
import BackendPlan.Proofs.Registry.Outcome
import BackendPlan.Proofs.Session.Trace
import BackendPlan.Proofs.Table.Ledger

/-!
# Proofs/Table/Refinement — a table answers as a ledger would

A ledger serves the calls of a table by the rules of an ordered list: no map beside the list of
keys, no objects shared with other tables.  Everything a table answers, through any handle and to
handlers too, is what the ledger answers.

* `Ledger.serve` — the rules, one call at a time.
* `Holds.serve_self`, `Holds.serve_of_ne` — **one call keeps table and ledger in step**, and calls
  on other tables leave it alone.
* `Tracks.run` — so does a run of requests.
* `Session.table_refines_ledger` — from its declaration on, a table is a ledger.
-/

namespace BackendPlan

/-! ## The rules -/

namespace Ledger

/-- **Serve one call** — an object with a value other than `null` under the partition key is stored
under the text of that value; `null` is no key. -/
def serve (ledger : Ledger) (partitionKey : String) : Table.Call → Table.Answer × Ledger
  | .put data =>
    match data.encode with
    | .ok (.obj members) =>
      match Members.get? members partitionKey with
      | some value =>
        if value = .null then (.stored false, ledger)
        else (.stored true, ledger.set value.text (.obj members))
      | none => (.stored false, ledger)
    | _ => (.stored false, ledger)
  | .update key data =>
    (.done, if key = .null then ledger else ledger.change key.text (Items.merge · data))
  | .delete key => (.done, if key = .null then ledger else ledger.drop key.text)
  | .get key => (.item (if key = .null then none else ledger.get? key.text), ledger)
  | .scan => (.items (ledger.map Prod.snd), ledger)

/-- Serve the calls of accesses one after another: the answers, and the ledger at the end. -/
def replay (ledger : Ledger) : List Access → List Table.Answer × Ledger
  | [] => ([], ledger)
  | access :: rest =>
    let (answer, next) := ledger.serve access.table.config.partitionKey access.call
    let (answers, last) := replay next rest
    (answer :: answers, last)

theorem replay_append (ledger : Ledger) (front back : List Access) :
    ledger.replay (front ++ back) =
      ((ledger.replay front).1 ++ ((ledger.replay front).2.replay back).1,
        ((ledger.replay front).2.replay back).2) := by
  induction front generalizing ledger with
  | nil => rfl
  | cons access rest ih =>
    rw [List.cons_append, replay, replay]
    dsimp only
    rw [ih]
    rfl

end Ledger

/-! ## Overlaying

What an update makes of an item, told by its fields. -/

/-- **The result is the item with the fields of the data on top** — of two objects, every field of
the data with its value (`null` is a value) and every other field of the item with its own; of
anything else, the data. -/
def Json.Overlaid (item data result : Json) : Prop :=
  match item, data with
  | .obj current, .obj patch =>
    ∃ merged, result = .obj merged ∧ (Members.Sorted current → Members.Sorted merged) ∧
      (∀ field ∈ patch.map Prod.fst,
        ∃ value, (field, value) ∈ patch ∧ Members.get? merged field = some value) ∧
      ∀ field ∉ patch.map Prod.fst, Members.get? merged field = Members.get? current field
  | _, _ => result = data

theorem Items.overlaid_merge (item data : Json) : Json.Overlaid item data (merge item data) := by
  unfold Json.Overlaid
  split
  · next current patch =>
    exact ⟨Members.overlay current patch, rfl, fun hs => hs.overlay patch,
      fun field h => Members.exists_get?_overlay h current,
      fun field h => Members.get?_overlay_of_notMem h current⟩
  · next hne =>
    unfold merge
    split
    · exact absurd rfl (hne _ _ rfl)
    · rfl

theorem Items.keyText_eq (key : Json) :
    keyText key = if key = .null then none else some key.text := by
  cases key <;> rfl

/-! ## One call -/

/-- **The table of a number stands for the ledger** — it is there, and its items represent it
(`Represents`). -/
structure Workspace.Holds (w : Workspace) (id : Nat) (ledger : Ledger) : Prop where
  declared : id < w.contents.tables.size
  represents : (w.contents.items id).Represents ledger

namespace Workspace.Holds

variable {w : Workspace} {id : Nat} {ledger : Ledger}

/-- Only `tables` of the contents counts. -/
theorem of_tables_eq (h : w.Holds id ledger) {w' : Workspace}
    (htables : w'.contents.tables = w.contents.tables) : w'.Holds id ledger := by
  have hitems : w'.contents.items id = w.contents.items id := by
    rw [Contents.items, htables, Contents.items]
  refine ⟨?_, ?_⟩
  · rw [htables]
    exact h.declared
  · rw [hitems]
    exact h.represents

theorem modifyItems (h : w.Holds id ledger) {f : Items → Items} {next : Ledger}
    (hf : (f (w.contents.items id)).Represents next) :
    Holds { w with contents := w.contents.modifyItems id f } id next := by
  refine ⟨?_, ?_⟩
  · exact h.declared.trans_eq Array.size_modify.symm
  · rw [Contents.items_modifyItems, if_pos ⟨rfl, h.declared⟩]
    exact hf

theorem modifyItems_of_ne (h : w.Holds id ledger) {other : Nat} (hne : other ≠ id)
    (f : Items → Items) :
    Holds { w with contents := w.contents.modifyItems other f } id ledger := by
  refine ⟨?_, ?_⟩
  · exact h.declared.trans_eq Array.size_modify.symm
  · rw [Contents.items_modifyItems, if_neg fun hid => hne hid.1.symm]
    exact h.represents

/-- Getting an item looks its key up in the ledger — `null` is never stored under, and never looked
up. -/
theorem get?_eq {t : Table} (h : w.Holds t.id ledger) (key : Json) :
    t.get? key w = if key = .null then none else ledger.get? key.text := by
  rw [Table.get?, Items.keyText_eq]
  split
  · rfl
  · exact h.represents.get? key.text

/-- **`put` sets the pair of its item**, if it is an object with a key — what encodes to anything
else is refused on both sides. -/
theorem serve_put (t : Table) (h : w.Holds t.id ledger) (data : Payload) :
    (t.serve (.put data) w).1 = (ledger.serve t.config.partitionKey (.put data)).1 ∧
      (t.serve (.put data) w).2.Holds t.id
        (ledger.serve t.config.partitionKey (.put data)).2 := by
  simp only [Table.serve, Table.put, Table.keyOf?, Ledger.serve]
  cases data.encode with
  | error cause => exact ⟨rfl, h.of_tables_eq rfl⟩
  | ok item =>
    cases item with
    | obj members =>
      simp only [Json.get?]
      cases Members.get? members t.config.partitionKey with
      | none => exact ⟨rfl, h.of_tables_eq rfl⟩
      | some value =>
        simp only [Option.bind_some, Items.keyText_eq]
        by_cases hvalue : value = .null
        · simp only [if_pos hvalue]
          exact ⟨trivial, h.of_tables_eq rfl⟩
        · simp only [if_neg hvalue]
          exact ⟨trivial, h.modifyItems (h.represents.insert value.text (.obj members))⟩
    | null | bool _ | whole _ | float _ | str _ | arr _ => exact ⟨rfl, h.of_tables_eq rfl⟩

/-- **One call keeps its table and the ledger in step**, and the ledger gives the same answer — call
by call, through `modifyItems`. -/
theorem serve_self {t : Table} (h : w.Holds t.id ledger) (call : Table.Call) :
    (t.serve call w).1 = (ledger.serve t.config.partitionKey call).1 ∧
      (t.serve call w).2.Holds t.id (ledger.serve t.config.partitionKey call).2 := by
  have hitems : t.items w = w.contents.items t.id := rfl
  cases call with
  | put data =>
    exact h.serve_put t data
  | update key data =>
    refine ⟨rfl, ?_⟩
    simp only [Table.serve, Table.update, Ledger.serve, Items.keyText_eq]
    by_cases hkey : key = .null
    · simpa only [if_pos hkey] using h
    · simp only [if_neg hkey]
      exact h.modifyItems (h.represents.update key.text data)
  | delete key =>
    refine ⟨rfl, ?_⟩
    simp only [Table.serve, Table.delete, Ledger.serve, Items.keyText_eq]
    by_cases hkey : key = .null
    · simpa only [if_pos hkey] using h
    · simp only [if_neg hkey]
      exact h.modifyItems (h.represents.remove key.text)
  | get key =>
    exact ⟨congrArg Table.Answer.item (h.get?_eq key), h⟩
  | scan => exact ⟨congrArg Table.Answer.items h.represents.scan_eq, h⟩

/-- A call on another table changes nothing here. -/
theorem serve_of_ne {t : Table} (h : w.Holds id ledger) (hne : t.id ≠ id) (call : Table.Call) :
    (t.serve call w).2.Holds id ledger := by
  cases call with
  | put data =>
    simp only [Table.serve, Table.put]
    split
    · exact h.of_tables_eq rfl
    · split
      · exact h.of_tables_eq rfl
      · exact h.modifyItems_of_ne hne _
  | update key data =>
    simp only [Table.serve, Table.update]
    split
    · exact h.modifyItems_of_ne hne _
    · exact h
  | delete key =>
    simp only [Table.serve, Table.delete]
    split
    · exact h.modifyItems_of_ne hne _
    · exact h
  | get key => exact h
  | scan => exact h

/-- **Operations on a registry leave it alone** — at most they make an object, which comes after the
table. -/
theorem registry_run {b : Workbench} (h : b.workspace.Holds id ledger) (op : RegistryOp) :
    (op.run b).2.workspace.Holds id ledger := by
  rcases op.contents_run b with hc | ⟨kind, hc⟩
  · exact h.of_tables_eq (congrArg Contents.tables hc)
  · refine ⟨?_, ?_⟩
    · have hcount := b.workspace.contents.count_make kind .table
      have hdeclared := h.declared
      rw [hc]
      simp only [Contents.count] at hcount
      split at hcount <;> omega
    · rw [hc, Contents.items_make]
      exact h.represents

end Workspace.Holds

/-! ## Runs

The accesses of a run are replayed on a ledger.  Runs are put together from calls, so the statement
is shown for one call and for two runs in a row. -/

/-- **Between two workspaces a table went the way of the ledger**: whatever ledger it stood for
(`Holds`), it gave that ledger's answers, and stands for what became of it. -/
def Workspace.Tracks (id : Nat) (w : Workspace) (accesses : List Access) (w' : Workspace) : Prop :=
  ∀ ledger, w.Holds id ledger →
    (Access.ofTable id accesses).map Access.answer =
        (ledger.replay (Access.ofTable id accesses)).1 ∧
      w'.Holds id (ledger.replay (Access.ofTable id accesses)).2

namespace Workspace.Tracks

variable {id : Nat} {w w' w'' : Workspace}

/-- Without an access nothing happens to the table. -/
theorem of_holds (h : ∀ ledger, w.Holds id ledger → w'.Holds id ledger) :
    Workspace.Tracks id w [] w' := fun ledger hw => ⟨rfl, h ledger hw⟩

theorem append {front back : List Access} (hf : Workspace.Tracks id w front w')
    (hb : Workspace.Tracks id w' back w'') : Workspace.Tracks id w (front ++ back) w'' := by
  intro ledger hw
  obtain ⟨hanswers, hw'⟩ := hf ledger hw
  obtain ⟨hanswers', hw''⟩ := hb _ hw'
  rw [Access.ofTable_append, Ledger.replay_append, List.map_append]
  exact ⟨congrArg₂ (· ++ ·) hanswers hanswers', hw''⟩

theorem serve (id : Nat) (t : Table) (call : Table.Call) (w : Workspace) :
    Workspace.Tracks id w [t.access call w] (t.serve call w).2 := by
  intro ledger hw
  by_cases hid : t.id = id
  · subst hid
    obtain ⟨hanswer, hnext⟩ := hw.serve_self call
    have hown : Access.ofTable t.id [t.access call w] = [t.access call w] :=
      Access.ofTable_cons_self rfl []
    rw [hown]
    exact ⟨congrArg (fun answer => [answer]) hanswer, hnext⟩
  · have hother : Access.ofTable id [t.access call w] = [] :=
      Access.ofTable_cons_of_ne hid []
    rw [hother]
    exact ⟨rfl, hw.serve_of_ne hid call⟩

/-- What is written to a log is nothing to a table. -/
theorem serve_stream (id : Nat) (l : LogStream) (call : LogStream.Call) (w : Workspace) :
    Workspace.Tracks id w [] (l.serve call w).2 := by
  refine of_holds fun _ hw => hw.of_tables_eq ?_
  cases call with
  | write time data =>
    simp only [LogStream.serve, LogStream.write]
    split <;> rfl
  | info time message fields | audit time message fields | entries => rfl

/-- **Every call keeps every table in step with its ledger** — `Course.run` makes of it the
statement about runs. -/
theorem course (id : Nat) :
    Course fun w trace w' => Workspace.Tracks id w (trace.filterMap Deed.access?) w' where
  nil _ := of_holds fun _ hw => hw
  append hfront hback := List.filterMap_append ▸ hfront.append hback
  table t call w := serve id t call w
  stream l call w := serve_stream id l call w

/-- **So does a run** — operations on registries leave the items of tables alone. -/
theorem run (id : Nat) (s : Session) (requests : List Request) :
    Workspace.Tracks id s.workspace (s.accesses requests) (s.run requests).2.workspace :=
  (course id).run (I := fun _ => True) (fun _ _ _ => trivial)
    (fun _ op _ => of_holds fun _ hw => hw.registry_run op) (fun _ _ _ => trivial) requests

end Workspace.Tracks

/-! ## From the declaration on -/

/-- **What can be seen of a table is what the ledger has**: the items in their order, every look-up,
and the number of items, which is that of the scanned ones. -/
structure Table.Shows (t : Table) (w : Workspace) (ledger : Ledger) : Prop where
  distinct : ledger.keys.Nodup
  order : (t.items w).order = ledger.keys
  scan : t.scan w = ledger.map Prod.snd
  get? : ∀ key, t.get? key w = if key = .null then none else ledger.get? key.text
  size : t.size w = ledger.length
  size_scan : t.size w = (t.scan w).length

theorem Workspace.Holds.shows {w : Workspace} {t : Table} {ledger : Ledger}
    (h : w.Holds t.id ledger) : t.Shows w ledger where
  distinct := h.represents.distinct
  order := h.represents.order
  scan := h.represents.scan_eq
  get? := h.get?_eq
  size := h.represents.size_eq
  size_scan := by
    have hscan : t.scan w = ledger.map Prod.snd := h.represents.scan_eq
    rw [hscan, List.length_map]
    exact h.represents.size_eq

namespace Session

/-- **A declared table is empty** — it stands for `[]`, where the replay begins. -/
theorem holds_of_declareTable {s s' : Session} {i : Nat} {config : TableConfig} {t : Table}
    (hdecl : s.step (.on i (.declareTable config)) = (.on (.resource (.table t)), s')) :
    s'.workspace.Holds t.id [] := by
  cases hr : s.registries[i]? with
  | none =>
    rw [step_on_of_getElem?_eq_none hr] at hdecl
    exact absurd (congrArg Prod.fst hdecl) nofun
  | some registry =>
    rw [step_on hr] at hdecl
    obtain ⟨hreply, rfl⟩ := Prod.mk.inj hdecl
    obtain ⟨-, hid, -, hcontents⟩ := RegistryOp.run_of_reply_resource (Reply.on.inj hreply)
    have hid : t.id = s.workspace.contents.tables.size := hid
    refine ⟨?_, ?_⟩
    · rw [hcontents, hid]
      simp [Contents.make, Contents.newTable, Resource.kind]
    · -- nothing was stored under a number that no table had
      have hnone : s.workspace.contents.items t.id = {} := by simp [Contents.items, hid]
      rw [hcontents, Contents.items_make]
      exact hnone ▸ Items.represents_empty

/-- **A table refines an ordered list of keys and items.**  From its declaration on, whatever the
session serves (calls by callers and by handlers, through any handle of the table, among operations
on registries and on other objects), every answer the table gives is the one the ledger gives, and
what can be seen of the table at the end is what the ledger has.  Handles of a table agree on its
number, and the calls go by the partition key of the handle they are made through. -/
theorem table_refines_ledger {s s' : Session} {i : Nat} {config : TableConfig} {t : Table}
    (hdecl : s.step (.on i (.declareTable config)) = (.on (.resource (.table t)), s'))
    (requests : List Request) :
    let own := Access.ofTable t.id (s'.accesses requests)
    let replayed := Ledger.replay [] own
    own.map Access.answer = replayed.1 ∧
      t.Shows (s'.run requests).2.workspace replayed.2 ∧
      ∀ item data, Json.Overlaid item data (Items.merge item data) := by
  intro own replayed
  obtain ⟨hanswers, hholds⟩ :=
    Workspace.Tracks.run t.id s' requests [] (holds_of_declareTable hdecl)
  exact ⟨hanswers, hholds.shows, Items.overlaid_merge⟩

/-- A key that comes back comes last. -/
theorem table_refines_ledger_reinsert :
    let t : Table := ⟨0, { name := "flags" }⟩
    let s := start [{}]
    let s' := (s.step (.on 0 (.declareTable t.config))).2
    let put (key : Bool) : Request := .locally (.put t (.json (.obj [("id", .bool key)])))
    let requests := [put true, put false, .locally (.delete t (.bool true)), put true]
    s.step (.on 0 (.declareTable t.config)) = (.on (.resource (.table t)), s') ∧
      (s'.accesses requests).map Access.answer = [.stored true, .stored true, .done, .stored true] ∧
      t.scan (s'.run requests).2.workspace =
        [.obj [("id", .bool false)], .obj [("id", .bool true)]] := by
  intro t s s' put requests
  have hdecl : s.step (.on 0 (.declareTable t.config)) = (.on (.resource (.table t)), s') := by
    have hname : Config.requireText "table" "name" "flags" = .ok () :=
      Config.requireText_eq_ok_iff.2 (by decide)
    have hkey : Config.requireText "table" "partition_key" "id" = .ok () :=
      Config.requireText_eq_ok_iff.2 (by decide)
    have hvalid : t.config.validate = .ok () := by
      rw [TableConfig.validate, hname, hkey]
      rfl
    refine Prod.ext ?_ rfl
    simp [s, t, start, step, RegistryOp.run, Workbench.declareResource, Workbench.declareTable,
      hvalid, Workbench.putResource, Registry.withSettings, RegistryReply.ofResult]
  obtain ⟨hanswers, hshows, -⟩ := table_refines_ledger hdecl requests
  refine ⟨hdecl, hanswers.trans ?_, hshows.scan.trans ?_⟩
  · rfl
  · rfl

end Session

end BackendPlan
