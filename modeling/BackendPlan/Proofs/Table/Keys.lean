import BackendPlan.Proofs.Json.Same
import BackendPlan.Proofs.Registry.Refusal
import BackendPlan.Proofs.Table.Refinement

/-!
# Proofs/Table/Keys — a call on a table goes by one key, and keys are values

A call that writes does so under one key: the partition key of what is put, or the key that is
given.  It changes what is found under that key and nothing else, and two keys meet only if they are
the same value, since the text of a value gives the value back.

* `Table.Call.key?`, `Table.Call.result` — the key that a call goes by, and what it makes of the
  item there.
* `Ledger.get?_serve` — **a call changes the look-up of its own key only.**
* `Ledger.Each.replay` — what calls put into the items under their keys holds of every item.
* `Session.keys_never_alias` — so in every state an item is reached by its key and by no other.
-/

namespace BackendPlan

/-- Only an object has a value under a key. -/
theorem Json.exists_obj_of_get? {item value : Json} {key : String}
    (h : item.get? key = some value) :
    ∃ members, item = .obj members ∧ Members.get? members key = some value := by
  cases item with
  | obj members => exact ⟨members, rfl, h⟩
  | _ => exact absurd h nofun

namespace Table.Call

/-! ## What a call does to its key -/

/-- The key value that a call names — what is put names it by its partition key, `null` included. -/
def named? (partitionKey : String) : Call → Option Json
  | put data => data.encode.toOption.bind (·.get? partitionKey)
  | update key _ | delete key => some key
  | get _ | scan => none

/-- **The key that a call writes under** — what it names, but `null` is no key. -/
def key? (partitionKey : String) (call : Call) : Option Json :=
  (call.named? partitionKey).filter (· ≠ .null)

/-- **What a call makes of the item under its key** — the rule of `Ledger.serve`, seen at the one
place that it changes. -/
def result : Call → Option Json → Option Json
  | put data, _ => data.encode.toOption
  | update _ data, stored => stored.map (Items.merge · data)
  | delete _, _ => none
  | get _, stored | scan, stored => stored

/-- What a call makes of the keys in their order, when it goes by `key`. -/
def arrange (key : String) : Call → List String → List String
  | put _, keys => if key ∈ keys then keys else keys ++ [key]
  | delete _, keys => keys.filter (· ≠ key)
  | update .., keys | get _, keys | scan, keys => keys

variable {partitionKey : String}

theorem key?_eq_some_iff {call : Call} {key : Json} :
    call.key? partitionKey = some key ↔ call.named? partitionKey = some key ∧ key ≠ .null := by
  simp [key?, Option.filter_eq_some_iff]

theorem eq_null_of_key?_eq_none {call : Call} (h : call.key? partitionKey = none) {key : Json}
    (hnamed : call.named? partitionKey = some key) : key = .null := by
  by_contra hne
  exact absurd (h.symm.trans (key?_eq_some_iff.2 ⟨hnamed, hne⟩)) nofun

theorem named?_put {data : Payload} {item : Json} (h : data.encode = .ok item) :
    (put data).named? partitionKey = item.get? partitionKey := by
  rw [named?, h]
  rfl

theorem key?_put_eq_some_iff {data : Payload} {key : Json} :
    (put data).key? partitionKey = some key ↔
      ∃ item, data.encode = .ok item ∧ item.get? partitionKey = some key ∧ key ≠ .null := by
  rw [key?_eq_some_iff]
  cases hdata : data.encode with
  | error cause =>
    rw [named?, hdata]
    exact iff_of_false nofun nofun
  | ok item => simp [named?_put hdata]

theorem result_put_eq_some_iff {data : Payload} {stored : Option Json} {item : Json} :
    (put data).result stored = some item ↔ data.encode = .ok item := by
  rw [result]
  cases data.encode with
  | error cause => exact iff_of_false nofun nofun
  | ok encoded =>
    exact ⟨fun h => congrArg _ (Option.some.inj h), fun h => congrArg _ (Except.ok.inj h)⟩

end Table.Call

namespace Ledger

variable {partitionKey : String} {call : Table.Call}

theorem serve_put_of_key? {data : Payload} {item key : Json} (ledger : Ledger)
    (hdata : data.encode = .ok item) (hitem : item.get? partitionKey = some key)
    (hkey : key ≠ .null) :
    ledger.serve partitionKey (.put data) = (.stored true, ledger.set key.text item) := by
  obtain ⟨members, rfl, hmembers⟩ := Json.exists_obj_of_get? hitem
  simp only [serve, hdata, hmembers, if_neg hkey]

/-- Without a key nothing happens — a `put` is refused, and no item stands under `null`. -/
theorem serve_of_key?_eq_none (ledger : Ledger) (h : call.key? partitionKey = none) :
    (ledger.serve partitionKey call).2 = ledger := by
  cases call with
  | put data =>
    simp only [serve]
    split
    · next members hdata =>
      split
      · next value hvalue =>
        rw [if_pos (Table.Call.eq_null_of_key?_eq_none h
          ((Table.Call.named?_put hdata).trans hvalue))]
      · rfl
    · rfl
  | update key data | delete key =>
    simp only [serve, if_pos (Table.Call.eq_null_of_key?_eq_none h rfl)]
  | get _ | scan => rfl

/-- **A call changes the look-up of its own key only** — with `keys_serve`, this is all that a call
does. -/
theorem get?_serve (ledger : Ledger) {key : Json} (h : call.key? partitionKey = some key)
    (k : String) :
    (ledger.serve partitionKey call).2.get? k =
      if k = key.text then call.result (ledger.get? key.text) else ledger.get? k := by
  cases call with
  | put data =>
    obtain ⟨item, hdata, hitem, hkey⟩ := Table.Call.key?_put_eq_some_iff.1 h
    rw [serve_put_of_key? ledger hdata hitem hkey, get?_set, Table.Call.result, hdata]
    rfl
  | update given data =>
    obtain ⟨⟨⟩, hne⟩ := Table.Call.key?_eq_some_iff.1 h
    simp only [serve, if_neg hne, get?_change, Table.Call.result]
  | delete given =>
    obtain ⟨⟨⟩, hne⟩ := Table.Call.key?_eq_some_iff.1 h
    simp only [serve, if_neg hne, get?_drop, Table.Call.result]
  | get _ | scan => exact absurd h.symm (Option.some_ne_none key)

/-- **A call arranges the keys by its own key** — `put` lists it, `delete` takes it out. -/
theorem keys_serve (ledger : Ledger) {key : Json} (h : call.key? partitionKey = some key) :
    (ledger.serve partitionKey call).2.keys = call.arrange key.text ledger.keys := by
  cases call with
  | put data =>
    obtain ⟨item, hdata, hitem, hkey⟩ := Table.Call.key?_put_eq_some_iff.1 h
    rw [serve_put_of_key? ledger hdata hitem hkey, keys_set, Table.Call.arrange]
  | update given data =>
    obtain ⟨⟨⟩, hne⟩ := Table.Call.key?_eq_some_iff.1 h
    simp only [serve, if_neg hne, keys_change, Table.Call.arrange]
  | delete given =>
    obtain ⟨⟨⟩, hne⟩ := Table.Call.key?_eq_some_iff.1 h
    simp only [serve, if_neg hne, keys_drop, Table.Call.arrange]
  | get _ | scan => exact absurd h.symm (Option.some_ne_none key)

/-! ### What holds of every item

A property of the items is kept if calls put it into what they make of the item under their key. -/

/-- **The property holds of every key with its item** — told by `get?`, so that `get?_serve` proves
it step by step. -/
def Each (P : String → Json → Prop) (ledger : Ledger) : Prop :=
  ∀ k item, ledger.get? k = some item → P k item

namespace Each

variable {P : String → Json → Prop} {ledger : Ledger}

theorem nil (P : String → Json → Prop) : Each P [] := fun _ _ h => absurd h nofun

theorem serve (h : ledger.Each P)
    (hresult : ∀ key item, call.key? partitionKey = some key →
      call.result (ledger.get? key.text) = some item → P key.text item) :
    (ledger.serve partitionKey call).2.Each P := by
  cases hkey : call.key? partitionKey with
  | none =>
    rw [ledger.serve_of_key?_eq_none hkey]
    exact h
  | some key =>
    intro k item hitem
    rw [ledger.get?_serve hkey] at hitem
    split at hitem
    · next hk =>
      rw [hk]
      exact hresult key item hkey hitem
    · exact h k item hitem

theorem replay (h : ledger.Each P) {accesses : List Access}
    (hresult : ∀ past access future, accesses = past ++ access :: future →
      (ledger.replay past).2.Each P →
        ∀ key item, access.call.key? access.table.config.partitionKey = some key →
          access.call.result ((ledger.replay past).2.get? key.text) = some item → P key.text item) :
    (ledger.replay accesses).2.Each P := by
  induction accesses generalizing ledger with
  | nil => exact h
  | cons access rest ih =>
    refine ih (h.serve (hresult [] access rest rfl h)) fun past later future hsplit => ?_
    exact hresult (access :: past) later future (congrArg (access :: ·) hsplit)

end Each

end Ledger

/-! ## Keys are values -/

/-- **Two keys have one text exactly if they are the same value** — the text is read back, and
`null` has none. -/
theorem Items.keyText_canonical_eq_iff {a b : Json} :
    keyText a.canonical = keyText b.canonical ↔ a.Same b := by
  constructor
  · intro h
    rw [keyText_eq, keyText_eq] at h
    split at h
    · next ha =>
      split at h
      · next hb => exact Json.same_of_canonical_eq (ha.trans hb.symm)
      · exact absurd h nofun
    · split at h
      · exact absurd h nofun
      · exact Json.text_canonical_eq_iff.1 (Option.some.inj h)
  · intro h
    rw [h.canonical_eq]

namespace Workspace.Holds

variable {w : Workspace} {t : Table} {ledger : Ledger}

/-- **A call changes what is found under its key, and under no other** — the workspace seen through
`Holds`. -/
theorem get?_serve (h : w.Holds t.id ledger) {call : Table.Call} {b : Json}
    (hkey : call.key? t.config.partitionKey = some b.canonical) (a : Json) :
    t.get? a.canonical (t.serve call w).2 =
      if a.Same b then call.result (t.get? a.canonical w) else t.get? a.canonical w := by
  have hb : b.canonical ≠ .null := (Table.Call.key?_eq_some_iff.1 hkey).2
  rw [(h.serve_self call).2.get?_eq, h.get?_eq]
  by_cases ha : a.canonical = .null
  · rw [if_pos ha, if_pos ha, if_neg fun hsame => hb (hsame.canonical_eq.symm.trans ha)]
  · rw [if_neg ha, if_neg ha, Ledger.get?_serve ledger hkey]
    by_cases hsame : a.Same b
    · have htext := Json.text_canonical_eq_iff.2 hsame
      rw [if_pos hsame, if_pos htext, htext]
    · rw [if_neg hsame, if_neg fun htext => hsame (Json.text_canonical_eq_iff.1 htext)]

/-- `update` is seen under its key, and under no other. -/
theorem get?_update (h : w.Holds t.id ledger) (a b data : Json) :
    t.get? a.canonical (t.update b.canonical data w) =
      if a.Same b then (t.get? a.canonical w).map (Items.merge · data)
      else t.get? a.canonical w := by
  by_cases hb : b.canonical = .null
  · -- null names no item, so that nothing is updated and nothing was there
    have hsame : t.update b.canonical data w = w := by rw [hb]; rfl
    rw [hsame]
    split
    · next ha => rw [ha.canonical_eq, hb]; rfl
    · rfl
  · have hkey : (Table.Call.update b.canonical data).key? t.config.partitionKey =
        some b.canonical := Table.Call.key?_eq_some_iff.2 ⟨rfl, hb⟩
    exact h.get?_serve hkey a

/-- `delete` is seen under its key, and under no other. -/
theorem get?_delete (h : w.Holds t.id ledger) (a b : Json) :
    t.get? a.canonical (t.delete b.canonical w) =
      if a.Same b then none else t.get? a.canonical w := by
  by_cases hb : b.canonical = .null
  · have hsame : t.delete b.canonical w = w := by rw [hb]; rfl
    rw [hsame]
    split
    · next ha => rw [ha.canonical_eq, hb]; rfl
    · rfl
  · have hkey : (Table.Call.delete b.canonical).key? t.config.partitionKey = some b.canonical :=
      Table.Call.key?_eq_some_iff.2 ⟨rfl, hb⟩
    exact h.get?_serve hkey a

/-- Data with a key is stored by `put`, and seen under its key and under no other. -/
theorem put (h : w.Holds t.id ledger) {data : Payload} {item a : Json}
    (hdata : data.encode = .ok item) (hitem : item.get? t.config.partitionKey = some a.canonical)
    (ha : a.canonical ≠ .null) (b : Json) :
    (t.put data w).1 = true ∧
      t.get? b.canonical (t.put data w).2 =
        if a.Same b then some item else t.get? b.canonical w := by
  have hkey : (Table.Call.put data).key? t.config.partitionKey = some a.canonical :=
    Table.Call.key?_put_eq_some_iff.2 ⟨item, hdata, hitem, ha⟩
  have hget := h.get?_serve hkey b
  have hanswer := (h.serve_self (.put data)).1
  rw [Ledger.serve_put_of_key? ledger hdata hitem ha] at hanswer
  rw [Table.Call.result, hdata] at hget
  exact ⟨Table.Answer.stored.inj hanswer, hget.trans (if_congr Json.same_comm rfl rfl)⟩

end Workspace.Holds

namespace Session

/-- A declared table stands for a ledger after any run — that of the calls on it, replayed from
nothing. -/
theorem holds_run {s s' : Session} {i : Nat} {config : TableConfig} {t : Table}
    (hdecl : s.step (.on i (.declareTable config)) = (.on (.resource (.table t)), s'))
    (requests : List Request) :
    (s'.run requests).2.workspace.Holds t.id
      (Ledger.replay [] (Access.ofTable t.id (s'.accesses requests))).2 :=
  (Workspace.Tracks.run t.id s' requests [] (holds_of_declareTable hdecl)).2

/-- The first table of a session that has one registry. -/
theorem declareTable_start {config : TableConfig} (h : config.validate = .ok ()) :
    ((start [{}]).step (.on 0 (.declareTable config))).1 =
      .on (.resource (.table ⟨0, config⟩)) := by
  simp [start, step, RegistryOp.run, Workbench.declareResource, Workbench.declareTable, h,
    Workbench.putResource, Registry.withSettings, RegistryReply.ofResult]

/-- **Keys never alias.**  Two keys have one text exactly if they are the same value, in whatever
order the members of their objects were inserted.  So after any run an item that is put under a key
is found under exactly the same value, an item is changed by an update of exactly its key, and
removed by a deletion of exactly its key. -/
theorem keys_never_alias {s s' : Session} {i : Nat} {config : TableConfig} {t : Table}
    (hdecl : s.step (.on i (.declareTable config)) = (.on (.resource (.table t)), s'))
    (requests : List Request) (a b : Json) :
    let w := (s'.run requests).2.workspace
    (Items.keyText a.canonical = Items.keyText b.canonical ↔ a.Same b) ∧
      (∀ data item, data.encode = .ok item →
        item.get? t.config.partitionKey = some a.canonical → a ≠ .null →
          (t.put data w).1 = true ∧
            t.get? b.canonical (t.put data w).2 =
              if a.Same b then some item else t.get? b.canonical w) ∧
      ∀ item, t.get? a.canonical w = some item →
        (a.Same b → t.get? b.canonical w = some item) ∧
          (∀ data, t.get? a.canonical (t.update b.canonical data w) =
            if a.Same b then some (Items.merge item data) else some item) ∧
          t.get? a.canonical (t.delete b.canonical w) = if a.Same b then none else some item := by
  intro w
  have hw := holds_run hdecl requests
  refine ⟨Items.keyText_canonical_eq_iff, fun data item hdata hitem ha => ?_, fun item hitem => ?_⟩
  · exact hw.put hdata hitem (mt Json.canonical_eq_null_iff.1 ha) b
  · refine ⟨fun hsame => hsame.canonical_eq ▸ hitem, fun data => ?_, ?_⟩
    · rw [hw.get?_update, hitem]
      rfl
    · rw [hw.get?_delete, hitem]

/-- Members in another order are the same key; a text in the place of a number is another key. -/
theorem keys_never_alias_of_object :
    let t : Table := ⟨0, { name := "carts" }⟩
    let s := start [{}]
    let s' := (s.step (.on 0 (.declareTable t.config))).2
    let seven : Json := .whole ⟨7, by decide, by decide⟩
    let a : Json := .obj [("sku", seven), ("lot", .str "7")]
    let b : Json := .obj [("lot", .str "7"), ("sku", seven)]
    let c : Json := .obj [("lot", .str "7"), ("sku", .str "7")]
    let item : Json := .obj [("id", a.canonical)]
    let w := (t.put (.json item) s'.workspace).2
    s.step (.on 0 (.declareTable t.config)) = (.on (.resource (.table t)), s') ∧
      t.get? b.canonical w = some item ∧ t.get? c.canonical w = none := by
  intro t s s' seven a b c item w
  have hvalid : t.config.validate = .ok () :=
    TableConfig.validate_eq_ok_iff.2 ⟨by decide, by decide⟩
  have hdecl : s.step (.on 0 (.declareTable t.config)) = (.on (.resource (.table t)), s') :=
    Prod.ext (declareTable_start hvalid) rfl
  have hput : ∀ other, t.get? other.canonical w = if a.Same other then some item else none := by
    intro other
    obtain ⟨-, hput, -⟩ := keys_never_alias hdecl [] a other
    obtain ⟨-, hget⟩ := hput (.json item) item (Payload.encode_json item) rfl nofun
    have hempty : t.get? other.canonical s'.workspace = none := by
      rw [(holds_of_declareTable hdecl).get?_eq]
      split <;> rfl
    exact hget.trans (if_congr Iff.rfl rfl hempty)
  refine ⟨hdecl, (hput b).trans (if_pos ?_), (hput c).trans (if_neg ?_)⟩
  · decide
  · decide

end Session

end BackendPlan
