import BackendPlan.Proofs.Config.Shadow
import BackendPlan.Proofs.Registry.Refusal
import BackendPlan.Workspace

/-!
# Proofs/Registry/Exported — what is exported of a declared resource

A resource is exported by its configuration as JSON, alone or in a snapshot.  The export tells the
truth if it shows at each typed field what the resource uses, and if the configuration is read back
from it:

    steps   —`build`→   configuration in use   —`configJson`→   export   —`ofJson`→   configuration

Extra keys may be given the name of a typed field, and then it does not.

* `Resource.get?_configJson` — what is looked up in an export.
* `Resource.told_iff` — **the export tells the truth exactly if nothing is shadowed**.
* `Resource.told_iff_of_built` — so it is for every resource that is built in steps and declared.
-/

namespace BackendPlan

/-! ## Resources built in steps -/

/-- **A resource as an author builds it**: its kind, its name and the steps of its configuration. -/
inductive Blueprint where
  | table (name : String) (settings : List TableConfig.Setting)
  | logStream (name : String) (settings : List LogStreamConfig.Setting)
  | identityPool (name : String) (settings : List IdentityPoolConfig.Setting)

namespace Blueprint

/-- The declaration of the resource. -/
def declaration : Blueprint → RegistryOp
  | table name settings => .declareTable (.build name settings)
  | logStream name settings => .declareLogStream (.build name settings)
  | identityPool name settings => .declareIdentityPool (.build name settings)

/-- The extra keys as they are given, one after another: the `extra?` of each step. -/
def extras : Blueprint → Members Json
  | table _ settings => settings.filterMap TableConfig.Setting.extra?
  | logStream _ settings => settings.filterMap LogStreamConfig.Setting.extra?
  | identityPool _ settings => settings.filterMap IdentityPoolConfig.Setting.extra?

/-- The kind of resource that is built. -/
def kind : Blueprint → ResourceKind
  | table .. => .table
  | logStream .. => .logStream
  | identityPool .. => .identityPool

end Blueprint

/-- The names of the typed fields of a kind. -/
def ResourceKind.typedFields : ResourceKind → List String
  | table => TableConfig.typedFields
  | logStream => LogStreamConfig.typedFields
  | identityPool => IdentityPoolConfig.typedFields

/-! ## The truth about a resource -/

namespace Resource

/-- The typed fields, with the values that are in use. -/
def typed : Resource → Members Json
  | table t => t.config.typed
  | logStream l => l.config.typed
  | identityPool p => p.config.typed

/-- The extra keys. -/
def extra : Resource → Members Json
  | table t => t.config.extra
  | logStream l => l.config.extra
  | identityPool p => p.config.extra

/-- The configuration of the resource is read from `v`, by the `ofJson` of its kind. -/
def IsReadFrom (v : Json) : Resource → Prop
  | table t => TableConfig.ofJson v = .ok t.config
  | logStream l => LogStreamConfig.ofJson v = .ok l.config
  | identityPool p => IdentityPoolConfig.ofJson v = .ok p.config

/-- **The export tells the truth** — `configJson` has the name, the partition key and every typed
field as they are in use, and is read back as the configuration. -/
structure Told (r : Resource) : Prop where
  /-- Each typed field is exported with the value that is in use. -/
  typed_eq : ∀ m ∈ r.typed, r.configJson.get? m.1 = some m.2
  /-- The name is the one under which the resource is found. -/
  name_eq : r.configJson.get? "name" = some (.str r.name)
  /-- The partition key of a table is the one under which items are put. -/
  key_eq : ∀ t, r = .table t → ∃ key, r.configJson.get? "partition_key" = some (.str key) ∧
    ∀ item, t.keyOf? item = (item.get? key).bind Items.keyText
  /-- The configuration is read back, typed fields and extra keys. -/
  isReadFrom : r.IsReadFrom r.configJson

/-- **Extra keys are looked up first** in what is exported — `OpenRecord.get?_toJson`, kind by
kind. -/
theorem get?_configJson {r : Resource} (h : (Json.obj r.extra).IsCanonical) (key : String) :
    r.configJson.get? key = (Members.get? r.extra key).or (Members.get? r.typed key) := by
  cases r with
  | table t => exact TableConfig.record.get?_toJson h key
  | logStream l => exact LogStreamConfig.record.get?_toJson h key
  | identityPool p => exact IdentityPoolConfig.record.get?_toJson h key

/-- `name` and `partition_key` are typed fields like the others. -/
theorem told_iff_typed {r : Resource} : r.Told ↔
    (∀ m ∈ r.typed, r.configJson.get? m.1 = some m.2) ∧ r.IsReadFrom r.configJson := by
  constructor
  · exact fun ht => ⟨ht.typed_eq, ht.isReadFrom⟩
  · intro h
    refine ⟨h.1, h.1 ("name", .str r.name) ?_, ?_, h.2⟩
    · cases r <;> exact List.mem_cons_self
    · rintro t rfl
      have hmem : ("partition_key", Json.str t.config.partitionKey) ∈ t.config.typed :=
        List.mem_cons_of_mem _ List.mem_cons_self
      exact ⟨t.config.partitionKey, h.1 _ hmem, fun item => rfl⟩

/-- **The export tells the truth exactly if no extra key shadows a typed field** — by
`OpenRecord.truthful_iff`. -/
theorem told_iff {r : Resource} (h : (Json.obj r.extra).IsCanonical) :
    r.Told ↔ ∀ key ∈ r.extra.keys, key ∉ r.kind.typedFields := by
  rw [told_iff_typed]
  cases r with
  | table t => exact TableConfig.record.truthful_iff h
  | logStream l => exact LogStreamConfig.record.truthful_iff h
  | identityPool p => exact IdentityPoolConfig.record.truthful_iff h

end Resource

/-! ## Declared resources -/

namespace Blueprint

/-- **What is declared has the `extra` members as they were given**, the later instead of the
earlier — no step and no check removes one. -/
theorem extra_of_declared? {c : Contents} {x : Blueprint} {r : Resource}
    (h : x.declaration.declared? c = some r) :
    r.kind = x.kind ∧ r.extra = Members.ofList x.extras := by
  cases x with
  | table name settings =>
    obtain rfl := Option.some.inj h
    exact ⟨rfl, TableConfig.extra_build name settings⟩
  | logStream name settings =>
    obtain rfl := Option.some.inj h
    exact ⟨rfl, LogStreamConfig.extra_build name settings⟩
  | identityPool name settings =>
    obtain rfl := Option.some.inj h
    exact ⟨rfl, IdentityPoolConfig.extra_build name settings⟩

end Blueprint

/-- A new registry declares what passes its check — no name is taken in it. -/
theorem RegistryOp.run_new_of_declared? {settings : Settings} {w : Workspace} {op : RegistryOp}
    {r : Resource} (h : op.declared? w.contents = some r) (hvalid : r.validate = .ok ()) :
    (op.run (.new settings w)).1 = .resource r := by
  rw [run_of_declared? h]
  simp only [Workbench.declareResource, hvalid, Workbench.putResource, Workbench.new,
    Registry.withSettings, Std.HashMap.getElem?_empty]
  rfl

/-- A declared resource is found in the `snapshot`. -/
theorem RegistryOp.summary_mem_snapshot {b : Workbench} (hb : b.registry.Indexed) {op : RegistryOp}
    {r : Resource} (h : (op.run b).1 = .resource r) :
    r.summary ∈ (op.run b).2.registry.snapshot.resources := by
  obtain ⟨-, -, hregistry, -⟩ := run_of_reply_resource h
  have hfound : (b.registry.putResource r).resource? r.name = some r := by
    rw [hb.resource?_putResource, if_pos rfl]
  have hmem := ((hb.putResource r).resource?_eq_some_iff.1 hfound).1
  rw [hregistry]
  exact List.mem_map_of_mem (Array.mem_toList_iff.2 hmem)

/-- **What is exported of a resource that was built in steps and declared.**  It is in the snapshot;
a key looks up the extra key given last under it, or else the typed field; and it tells the truth
exactly if no step gave an extra key the name of a typed field. -/
theorem Resource.told_iff_of_built (settings : Settings) (w : Workspace) (ops : List RegistryOp)
    {x : Blueprint} (hx : ∀ m ∈ x.extras, m.2.IsCanonical) {r : Resource}
    (hr : (x.declaration.run ((Workbench.new settings w).after ops)).1 = .resource r) :
    r.summary ∈
        (x.declaration.run ((Workbench.new settings w).after ops)).2.registry.snapshot.resources ∧
      (∀ key, r.configJson.get? key =
        (Members.get? (Members.ofList x.extras) key).or (Members.get? r.typed key)) ∧
      (r.Told ↔ ∀ m ∈ x.extras, m.1 ∉ x.kind.typedFields) := by
  have hindexed : ((Workbench.new settings w).after ops).registry.Indexed :=
    Workbench.indexed_after (Registry.indexed_withSettings settings) ops
  obtain ⟨hkind, hextra⟩ :=
    Blueprint.extra_of_declared? (RegistryOp.declared?_of_reply_resource hr)
  have hvalues : (Json.obj r.extra).IsCanonical := by
    rw [hextra]
    exact ⟨Members.sorted_ofList _, (Json.areCanonicalMembers_iff.2 hx).ofList⟩
  refine ⟨RegistryOp.summary_mem_snapshot hindexed hr, fun key => ?_, ?_⟩
  · rw [get?_configJson hvalues, hextra]
  · rw [told_iff hvalues, hkind, hextra]
    constructor
    · intro hkeys m hm
      exact hkeys m.1 (Members.mem_keys_ofList.2 (List.mem_map_of_mem hm))
    · intro hkeys key hkey
      obtain ⟨m, hm, rfl⟩ := List.mem_map.1 (Members.mem_keys_ofList.1 hkey)
      exact hkeys m hm

/-- A table with an `extra` key of its own is exported truthfully. -/
theorem Resource.told_iff_of_built_apart :
    let settings : List TableConfig.Setting := [.extra "billing" (.str "on demand"), .ttl "expires"]
    let orders : Blueprint := .table "orders" settings
    let r : Resource := .table ⟨0, .build "orders" settings⟩
    (∀ m ∈ orders.extras, m.2.IsCanonical) ∧
      (orders.declaration.run ((Workbench.new {} {}).after [])).1 = .resource r ∧ r.Told := by
  intro settings orders r
  have hextras : ∀ m ∈ orders.extras, m.2.IsCanonical := List.forall_mem_singleton.2 trivial
  have hr : (orders.declaration.run ((Workbench.new {} {}).after [])).1 = .resource r :=
    RegistryOp.run_new_of_declared? rfl (by decide)
  obtain ⟨-, -, htold⟩ := told_iff_of_built {} {} [] hextras hr
  exact ⟨hextras, hr, htold.2 (by decide)⟩

/-- A table whose `partition_key` is shadowed: the export names a key, but items with this key are
not stored, and items with the one that is in use are. -/
theorem Resource.not_told_of_shadowed_key :
    let settings : List TableConfig.Setting := [.extra "partition_key" (.str "order_id")]
    let orders : Blueprint := .table "orders" settings
    let t : Table := ⟨0, .build "orders" settings⟩
    (orders.declaration.run (.new {} {})).1 = .resource (.table t) ∧
      (Resource.table t).configJson.get? "partition_key" = some (.str "order_id") ∧
      (∀ w, (t.put (.json (.obj [("order_id", .str "a")])) w).1 = false) ∧
      (∀ w, (t.put (.json (.obj [("id", .str "a")])) w).1 = true) ∧
      ¬ (Resource.table t).Told := by
  intro settings orders t
  have hextra : (Json.obj (Resource.table t).extra).IsCanonical :=
    ⟨List.pairwise_singleton _ _, trivial, trivial⟩
  have hexport : (Resource.table t).configJson.get? "partition_key" = some (.str "order_id") :=
    (get?_configJson hextra "partition_key").trans rfl
  refine ⟨RegistryOp.run_new_of_declared? rfl (by decide), hexport, fun w => rfl, fun w => rfl,
    fun htold => ?_⟩
  obtain ⟨key, hkey, hput⟩ := htold.key_eq t rfl
  obtain rfl := Json.str.inj (Option.some.inj (hexport.symm.trans hkey))
  exact absurd (hput (.obj [("id", .str "a")])) (by decide)

end BackendPlan
