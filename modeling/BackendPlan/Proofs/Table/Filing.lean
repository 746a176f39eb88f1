import BackendPlan.Proofs.Session.Sharing
import BackendPlan.Proofs.Table.Keys

/-!
# Proofs/Table/Filing — every item is found under the key that it carries

A table lists an item under the text of a key and keeps that text apart from the item, which carries
its key among its fields.  Putting an item files it under the key that it carries.  An update leaves
the item where it is, so it must leave the key of the item alone; nothing else can part the two.

* `Ledger.Filed` — **the invariant**: what is listed under a text is an item that belongs there.
* `Filed.keyOf?_result`, `Filed.replay` — a call keeps it, and so does a run of calls through one
  handle.
* `Session.table_mem_handles` — a genuine run makes its calls through handles that it hands out.
* `Session.items_filed_under_own_key` — so every item of a scan is found and removed by its own key.
-/

namespace BackendPlan

/-! ## Where an item belongs -/

namespace Table

variable {t : Table}

/-- An item belongs under the value other than `null` that it has as its partition key. -/
theorem keyOf?_eq_some_iff {item : Json} {k : String} :
    t.keyOf? item = some k ↔
      ∃ value, item.get? t.config.partitionKey = some value ∧ value ≠ .null ∧ value.text = k := by
  refine Option.bind_eq_some_iff.trans (exists_congr fun value => and_congr_right fun _ => ?_)
  rw [Items.keyText_eq]
  split
  · next hnull => exact iff_of_false nofun fun h => h.1 hnull
  · next hne => rw [Option.some_inj, and_iff_right hne]

/-- **A patch that leaves the key alone leaves the item where it belongs** — the merged object has
the key from the patch or from the item, and both say the same. -/
theorem keyOf?_merge {item key : Json} {patch : Members Json}
    (hitem : t.keyOf? item = some key.text) (hne : key ≠ .null)
    (hpatch : ∀ value, Members.last? patch t.config.partitionKey = some value → value = key) :
    t.keyOf? (Items.merge item (.obj patch)) = some key.text := by
  obtain ⟨value, hvalue, hvaluene, htext⟩ := keyOf?_eq_some_iff.1 hitem
  obtain ⟨members, rfl, hmembers⟩ := Json.exists_obj_of_get? hvalue
  have hget : (Items.merge (.obj members) (.obj patch)).get? t.config.partitionKey =
      (Members.last? patch t.config.partitionKey).or (some value) := by
    rw [← hmembers]
    exact Members.get?_overlay_eq_last? members patch t.config.partitionKey
  cases hlast : Members.last? patch t.config.partitionKey with
  | none =>
    rw [hlast, Option.none_or] at hget
    exact keyOf?_eq_some_iff.2 ⟨value, hget, hvaluene, htext⟩
  | some other =>
    rw [hlast, Option.some_or, hpatch other hlast] at hget
    exact keyOf?_eq_some_iff.2 ⟨key, hget, hne, rfl⟩

/-- **The call leaves the key of a stored item alone**: an update finds no item, or it brings an
object in which the partition key, if it is there, has the very value that the item is stored
under. -/
def Call.KeepsKey (partitionKey : String) (ledger : Ledger) : Call → Prop
  | update key data =>
    key = .null ∨ ledger.get? key.text = none ∨
      ∃ patch, data = .obj patch ∧
        ∀ value, Members.last? patch partitionKey = some value → value = key
  | put _ | delete _ | get _ | scan => True

end Table

/-! ## The invariant -/

namespace Ledger

/-- **Every item is listed under the text of the key that it carries** — `Ledger.Each`, so that
`Each.serve` does the work. -/
def Filed (t : Table) (ledger : Ledger) : Prop := ledger.Each fun k item => t.keyOf? item = some k

variable {t : Table} {ledger : Ledger}

/-- **What a call makes of the item under its key belongs under that key**, if it leaves keys alone
— by its kind: put, patched or gone. -/
theorem Filed.keyOf?_result (h : ledger.Filed t) {call : Table.Call}
    (hkeeps : call.KeepsKey t.config.partitionKey ledger) {key item : Json}
    (hkey : call.key? t.config.partitionKey = some key)
    (hitem : call.result (ledger.get? key.text) = some item) : t.keyOf? item = some key.text := by
  cases call with
  | put data =>
    obtain ⟨stored, hdata, hstored, hne⟩ := Table.Call.key?_put_eq_some_iff.1 hkey
    have hencoded := Table.Call.result_put_eq_some_iff.1 hitem
    obtain rfl : stored = item := Except.ok.inj (hdata.symm.trans hencoded)
    exact Table.keyOf?_eq_some_iff.2 ⟨key, hstored, hne, rfl⟩
  | update given data =>
    obtain ⟨⟨⟩, hne⟩ := Table.Call.key?_eq_some_iff.1 hkey
    obtain ⟨old, hold, rfl⟩ := Option.map_eq_some_iff.1 hitem
    obtain hnull | hnone | ⟨patch, rfl, hpatch⟩ := hkeeps
    · exact absurd hnull hne
    · exact absurd (hold.symm.trans hnone) (Option.some_ne_none old)
    · exact Table.keyOf?_merge (h _ _ hold) hne hpatch
  | delete given => exact absurd hitem.symm (Option.some_ne_none item)
  | get _ | scan => exact absurd hkey.symm (Option.some_ne_none key)

/-- **So calls through one handle that leave keys alone keep every item where it belongs** — one
handle, since another may have another partition key. -/
theorem Filed.replay (h : ledger.Filed t) {accesses : List Access}
    (hown : ∀ access ∈ accesses, access.table = t)
    (hkeeps : ∀ past access future, accesses = past ++ access :: future →
      access.call.KeepsKey t.config.partitionKey (ledger.replay past).2) :
    (ledger.replay accesses).2.Filed t := by
  refine Each.replay h fun past access future hsplit hpast key item hkey hitem => ?_
  obtain rfl : access.table = t := hown access (hsplit ▸ List.mem_append_cons_self)
  exact Filed.keyOf?_result hpast (hkeeps past access future hsplit) hkey hitem

/-- `drop` takes the one item of a key out and leaves the others in their order. -/
theorem drop_append_cons {front back : Ledger} {k : String} {item : Json}
    (h : (keys (front ++ (k, item) :: back)).Nodup) :
    drop k (front ++ (k, item) :: back) = front ++ back := by
  have hkeys : keys (front ++ (k, item) :: back) = front.keys ++ k :: back.keys := List.map_append
  rw [hkeys] at h
  have hk : k ∉ (front ++ back).keys := by
    rw [keys, List.map_append]
    exact (List.nodup_cons.1 (List.nodup_middle.1 h)).1
  have hdrop : drop k (front ++ (k, item) :: back) = drop k (front ++ back) := by
    rw [drop, List.filter_append, List.filter_cons_of_neg (by simp), ← List.filter_append, drop]
  rw [hdrop]
  refine List.filter_eq_self.2 fun pair hpair => decide_eq_true ?_
  exact ne_of_mem_of_not_mem (List.mem_map_of_mem hpair) hk

end Ledger

/-! ## What a scan shows -/

/-- **Every item of a scan is found under its own key** — what a caller sees of `Ledger.Filed`. -/
structure Table.Filed (t : Table) (w : Workspace) : Prop where
  /-- It is an object with a key, which finds this item, and deletes this item and no other. -/
  own : ∀ front item back, t.scan w = front ++ item :: back →
    ∃ members key, item = .obj members ∧
      Members.get? members t.config.partitionKey = some key ∧ key ≠ .null ∧
      t.get? key w = some item ∧ t.scan (t.delete key w) = front ++ back
  /-- No two items have one key. -/
  distinct : (t.scan w).Pairwise fun a b =>
    a.get? t.config.partitionKey ≠ b.get? t.config.partitionKey

theorem Workspace.Holds.filed {w : Workspace} {t : Table} {ledger : Ledger}
    (h : w.Holds t.id ledger) (hfiled : ledger.Filed t) : t.Filed w where
  own front item back hscan := by
    rw [h.shows.scan] at hscan
    obtain ⟨before, _, rfl, rfl, hrest⟩ := List.map_eq_append_iff.1 hscan
    obtain ⟨⟨k, item⟩, after, rfl, rfl, rfl⟩ := List.map_eq_cons_iff.1 hrest
    have hget : Ledger.get? (before ++ (k, item) :: after) k = some item :=
      Members.get?_of_mem h.shows.distinct (List.mem_append_right _ List.mem_cons_self)
    obtain ⟨key, hkey, hne, rfl⟩ := Table.keyOf?_eq_some_iff.1 (hfiled k item hget)
    obtain ⟨members, hitem, hmembers⟩ := Json.exists_obj_of_get? hkey
    refine ⟨members, key, hitem, hmembers, hne, ?_, ?_⟩
    · rw [h.get?_eq, if_neg hne, hget]
    · have hdelete := (h.serve_self (.delete key)).2.shows.scan
      rw [Ledger.serve, if_neg hne] at hdelete
      exact hdelete.trans (by rw [Ledger.drop_append_cons h.shows.distinct, List.map_append])
  distinct := by
    rw [h.shows.scan, List.pairwise_map]
    have hkeys : ledger.Pairwise fun a b => a.1 ≠ b.1 := List.pairwise_map.1 h.shows.distinct
    refine hkeys.imp_of_mem fun {a b} ha hb hne hsame => hne ?_
    have hbelongs : ∀ pair ∈ ledger, t.keyOf? pair.2 = some pair.1 := fun pair hpair =>
      hfiled _ _ (Members.get?_of_mem h.shows.distinct hpair)
    have hkeyOf : t.keyOf? a.2 = t.keyOf? b.2 := congrArg (·.bind Items.keyText) hsame
    exact Option.some.inj ((hbelongs a ha).symm.trans (hkeyOf.trans (hbelongs b hb)))

/-! ## Calls go through handles -/

namespace Session

/-- **The calls of a genuine run are through handles that it hands out** — `target_mem_handles`, for
the deeds on tables. -/
theorem table_mem_handles {s : Session} {requests : List Request} (hgenuine : s.Genuine requests) :
    ∀ access ∈ s.accesses requests, .table access.table ∈ s.handles requests := by
  intro access haccess
  obtain ⟨deed, hdeed, hcall⟩ := List.mem_filterMap.1 haccess
  exact Deed.target_of_access? hcall ▸ target_mem_handles hgenuine deed hdeed

/-- **All calls on a table of a genuine run are through its one handle** — by `eq_of_sameAs`, two
handles of one table being one. -/
theorem table_eq_of_mem_ofTable {settings : List Settings} {front back : List Request} {i : Nat}
    {config : TableConfig} {t : Table} {s' : Session}
    (hgenuine : (start settings).Genuine (front ++ .on i (.declareTable config) :: back))
    (hdecl : ((start settings).run front).2.step (.on i (.declareTable config)) =
      (.on (.resource (.table t)), s')) :
    ∀ access ∈ Access.ofTable t.id (s'.accesses back), access.table = t := by
  intro access haccess
  obtain ⟨hmem, hid⟩ := List.mem_filter.1 haccess
  have hheld : .table t ∈ (start settings).handles
    (front ++ .on i (.declareTable config) :: back) :=
    mem_handles_of_handle? (congrArg (Reply.handle? ·.1) hdecl) back
  have hcalled : access ∈ (start settings).accesses
    (front ++ .on i (.declareTable config) :: back) := by
    rw [accesses, trace_append, trace, hdecl, List.filterMap_append, List.filterMap_append]
    exact List.mem_append_right _ (List.mem_append_right _ hmem)
  have hsame : (Resource.table access.table).sameAs (.table t) = true :=
    Resource.sameAs_iff.2 ⟨rfl, of_decide_eq_true hid⟩
  have hone := (Accounted.run_start hgenuine).objects.eq_of_sameAs
    (table_mem_handles hgenuine access hcalled) hheld hsame
  exact Resource.table.inj hone

/-- **Stored items are found under their own partition key** — after a genuine run in which every
update of the table either finds no item at its key, or brings an object in which the partition key,
if it is there, has the value that the item is stored under.  Each item of a scan is then an object
with a key other than `null`; under this key it is found, deleting the key removes it and no other,
and no two items have one key. -/
theorem items_filed_under_own_key {settings : List Settings} {front back : List Request} {i : Nat}
    {config : TableConfig} {t : Table} {s' : Session}
    (hgenuine : (start settings).Genuine (front ++ .on i (.declareTable config) :: back))
    (hdecl : ((start settings).run front).2.step (.on i (.declareTable config)) =
      (.on (.resource (.table t)), s'))
    (hkeeps : ∀ past access future,
      Access.ofTable t.id (s'.accesses back) = past ++ access :: future →
        access.call.KeepsKey t.config.partitionKey (Ledger.replay [] past).2) :
    t.Filed (s'.run back).2.workspace := by
  have hown := table_eq_of_mem_ofTable hgenuine hdecl
  have hfiled : Ledger.Filed t [] := Ledger.Each.nil _
  exact (holds_run hdecl back).filed (hfiled.replay hown hkeeps)

/-- Two items, of which one is patched under its own key and the other deleted. -/
theorem items_filed_under_own_key_of_patch :
    let t : Table := ⟨0, { name := "flags" }⟩
    let declared : Request := .on 0 (.declareTable t.config)
    let put (key : Bool) : Request := .locally (.put t (.json (.obj [("id", .bool key)])))
    let patched : Request :=
      .locally (.update t (.bool true) (.obj [("id", .bool true), ("on", .bool false)]))
    let back := [put true, put false, patched, .locally (.delete t (.bool false))]
    let s := start [{}]
    let s' := (s.step declared).2
    let w := (s'.run back).2.workspace
    s.Genuine (declared :: back) ∧ s.step declared = (.on (.resource (.table t)), s') ∧
      t.Filed w ∧ t.scan w = [.obj [("id", .bool true), ("on", .bool false)]] := by
  intro t declared put patched back s s' w
  have hvalid : t.config.validate = .ok () :=
    TableConfig.validate_eq_ok_iff.2 ⟨by decide, by decide⟩
  have hdecl : s.step declared = (.on (.resource (.table t)), s') :=
    Prod.ext (declareTable_start hvalid) rfl
  have hfirst : (s.run []).2.step declared = (.on (.resource (.table t)), s') := hdecl
  have hheld := mem_handles_of_handle? (congrArg (Reply.handle? ·.1) hfirst)
  have hgenuine : s.Genuine (declared :: back) := by
    have hdeclared : s.Genuine [declared] := s.genuine_nil.concat trivial
    have hone : s.Genuine [declared, put true] := hdeclared.concat (hheld [])
    have htwo : s.Genuine [declared, put true, put false] := hone.concat (hheld [put true])
    have hthree : s.Genuine [declared, put true, put false, patched] :=
      htwo.concat (hheld [put true, put false])
    exact hthree.concat (hheld [put true, put false, patched])
  have hcalls : (Access.ofTable t.id (s'.accesses back)).map Access.call =
      [.put (.json (.obj [("id", .bool true)])), .put (.json (.obj [("id", .bool false)])),
        .update (.bool true) (.obj [("id", .bool true), ("on", .bool false)]),
        .delete (.bool false)] := rfl
  have hkeeps : ∀ access ∈ Access.ofTable t.id (s'.accesses back), ∀ ledger,
      access.call.KeepsKey t.config.partitionKey ledger := by
    intro access hmem
    have hcall := List.mem_map_of_mem (f := Access.call) hmem
    rw [hcalls] at hcall
    simp only [List.mem_cons, List.not_mem_nil, or_false] at hcall
    obtain hput | hput | hupdate | hdelete := hcall
    · exact fun _ => hput ▸ trivial
    · exact fun _ => hput ▸ trivial
    · refine fun _ => hupdate ▸ .inr (.inr ⟨_, rfl, fun value hvalue => ?_⟩)
      exact (Option.some.inj hvalue).symm
    · exact fun _ => hdelete ▸ trivial
  refine ⟨hgenuine, hdecl, ?_, ?_⟩
  · refine items_filed_under_own_key hgenuine hfirst fun past access future hown => ?_
    exact hkeeps access (hown ▸ List.mem_append_cons_self) _
  · exact (holds_run hdecl back).shows.scan

end Session

end BackendPlan
