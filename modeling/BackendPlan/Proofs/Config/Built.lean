import BackendPlan.Proofs.Config.Shadow
import BackendPlan.Proofs.Session.Run

/-!
# Proofs/Config/Built — building in steps is reading what the steps give

Each step of building gives a member of the object that could have been read instead.  So the two
ways to a configuration are two runs of `set`: over the members in the order of the steps, with
repetitions, and over the sorted object that is left of them.

    steps  —`member`→  members as given  —`Members.ofList`→  an object  —`ofJson`→  a configuration

* `OpenRecord.Holds.overlay` — the run of `set` over any members, by the object that is left of
  them.
* `OpenRecord.ofJson_ofList` — **neither the order of members nor what a later one replaces
  matters.**
* `configurations_built_alike` — **a configuration built in steps is the one read from what they
  give.**
-/

namespace BackendPlan

namespace Config

/-- **The value given last under `key`**, the one that counts, by steps and by members alike. -/
def lastGiven (given : Members Json) (key : String) : Option Json :=
  (given.filterMap fun m => if key = m.1 then some m.2 else none).getLast?

/-- The object that is left of members has of each key the value that was `lastGiven`. -/
theorem get?_ofList_eq_lastGiven (given : Members Json) (key : String) :
    Members.get? (Members.ofList given) key = lastGiven given key := by
  have hlast := List.get_foldl (fun ms => Members.get? ms key)
    (fun m : String × Json => if key = m.1 then some m.2 else none)
    (fun ms m => Members.insert m.1 m.2 ms)
    (fun ms m => by rw [Members.get?_insert]; split <;> rfl) given []
  rw [Members.ofList, Members.overlay, hlast, Members.get?_nil, Option.or_none, lastGiven]

/-! ## Members in any order -/

namespace OpenRecord

variable {α : Type} {R : OpenRecord α} {c c' : α} {members : Members Json}

theorem holds_start : R.Holds R.start [] :=
  ⟨R.extra_start, fun f _ => by rw [R.typed_start, Members.get?_nil, Option.none_or]⟩

/-- What is held tells records apart — both have the same `typed` members and the same `extra`
ones. -/
theorem Holds.eq (h : R.Holds c members) (h' : R.Holds c' members) : c = c' :=
  R.ext_get? (fun f hf => (h.typed_eq f hf).trans (h'.typed_eq f hf).symm)
    (h.extra_eq.trans h'.extra_eq.symm)

/-- **Taking in a member, a record holds the object with this member in its place** — a typed field
or an extra key, by its name. -/
theorem Holds.insert (h : R.Holds c members) (hs : Members.Sorted members) {key : String}
    {value : Json}
    (hset : R.set c key value = .ok c') : R.Holds c' (Members.insert key value members) := by
  have hothers : ∀ {ms : Members Json}, Members.Sorted ms →
      Members.Sorted (others R.fields ms) := fun hs => hs.filter _
  by_cases hname : key ∈ fieldNames R.fields
  · obtain ⟨f, hf, rfl⟩ := List.mem_map.1 hname
    obtain ⟨_, hset', hextra, htyped⟩ :=
      R.exists_set_of_accepts (c := c) hf (R.accepts_of_set hf hset)
    obtain ⟨rfl⟩ := hset.symm.trans hset'
    refine ⟨?_, fun g hg => ?_⟩
    · rw [hextra, h.extra_eq]
      refine (hothers hs).ext (hothers (hs.insert _ _)) fun k => ?_
      rw [get?_others, get?_others, Members.get?_insert]
      by_cases hk : k ∈ fieldNames R.fields
      · rw [if_pos hk, if_pos hk]
      · have hne : k ≠ f.name := fun heq => hk (heq ▸ hname)
        rw [if_neg hk, if_neg hk, if_neg hne]
    · rw [htyped, Members.get?_insert]
      split
      · rfl
      · exact h.typed_eq g hg
  · obtain ⟨_, hset', hextra, htyped⟩ := R.set_other key hname c value
    obtain ⟨rfl⟩ := hset.symm.trans hset'
    refine ⟨?_, fun g hg => ?_⟩
    · rw [hextra, h.extra_eq]
      refine ((hothers hs).insert _ _).ext (hothers (hs.insert _ _)) fun k => ?_
      rw [get?_others, Members.get?_insert, Members.get?_insert, get?_others]
      by_cases hk : k = key
      · rw [if_pos hk, if_pos hk, if_neg (hk ▸ hname)]
      · rw [if_neg hk, if_neg hk]
    · have hne : g.name ≠ key := fun heq => hname (heq ▸ List.mem_map_of_mem hg)
      rw [htyped, h.typed_eq g hg, Members.get?_insert, if_neg hne]

/-- So after a `fold` it holds what is left of all its members. -/
theorem Holds.overlay {given : Members Json} (h : R.Holds c members) (hs : Members.Sorted members)
    (hfold : R.fold c given = .ok c') : R.Holds c' (Members.overlay members given) := by
  induction given generalizing c members with
  | nil =>
    obtain ⟨rfl⟩ := Except.ok.inj hfold
    exact h
  | cons m given ih =>
    obtain ⟨key, value⟩ := m
    obtain ⟨c₁, hset, hrest⟩ := R.exists_set_of_fold_cons hfold
    exact ih (h.insert hs hset) (hs.insert key value) hrest

/-- **Neither the order of members nor what a later one replaces matters** — what takes them in one
after another is read from the object that is left of them. -/
theorem ofJson_ofList {given : Members Json} (hfold : R.fold R.start given = .ok c) :
    R.ofJson (.obj (Members.ofList given)) = .ok c := by
  have hholds : R.Holds c (Members.ofList given) := holds_start.overlay .nil hfold
  have hfits : Fits R.fields (Members.ofList given) := fun f hf value hvalue =>
    R.fits_of_fold hfold f hf value ((Members.mem_overlay hvalue).resolve_left List.not_mem_nil)
  obtain ⟨c', hread, hholds'⟩ := R.exists_ofJson_of_fits (Members.sorted_ofList given) hfits
  rw [hread, hholds'.eq hholds]

/-- A record with the extra key, and otherwise the same, is the one that takes it in. -/
theorem set_eq_ok_of_notMem {key : String} {value : Json} (hkey : key ∉ fieldNames R.fields)
    (hextra : R.extra c' = Members.insert key value (R.extra c)) (htyped : R.typed c' = R.typed c) :
    R.set c key value = .ok c' := by
  obtain ⟨c₁, hset, hextra₁, htyped₁⟩ := R.set_other key hkey c value
  rw [hset, R.ext c₁ c' (htyped₁.trans htyped.symm) (hextra₁.trans hextra.symm)]

/-- Steps that each take in a member take in all of them, by `fold`. -/
theorem fold_map {σ : Type} {apply : α → σ → α} {member : σ → String × Json} {steps : List σ}
    (hstep : ∀ s ∈ steps, ∀ c, R.set c (member s).1 (member s).2 = .ok (apply c s)) (c : α) :
    R.fold c (steps.map member) = .ok (steps.foldl apply c) := by
  induction steps generalizing c with
  | nil => rfl
  | cons s steps ih =>
    rw [List.map_cons, R.fold_cons _ (hstep s List.mem_cons_self c), List.foldl_cons]
    exact ih (fun t ht => hstep t (List.mem_cons_of_mem _ ht)) _

end OpenRecord

/-! ## Building -/

/-- **A configuration is the one read from the members that are `given`**, and so nothing tells the
two ways to it apart: not what is written, not the check, and not what becomes of a registry where
it is declared. -/
structure BuiltAlike {α : Type} (ofJson : Json → Except DeclareError α) (toJson : α → Json)
    (text : α → String) (validate : α → Except DeclareError Unit) (declare : α → RegistryOp)
    (given : Members Json) (built : α) : Prop where
  sorted : Members.Sorted (Members.ofList given)
  /-- The object has of each key the value that was given last, and no other key. -/
  get?_eq : ∀ key, Members.get? (Members.ofList given) key = lastGiven given key
  ofJson_eq : ofJson (.obj (Members.ofList given)) = .ok built
  toJson_eq : (ofJson (.obj (Members.ofList given))).map toJson = .ok (toJson built)
  text_eq : (ofJson (.obj (Members.ofList given))).map text = .ok (text built)
  validate_eq : ofJson (.obj (Members.ofList given)) >>= validate = validate built
  declare_eq : ∀ b : Workbench,
    (ofJson (.obj (Members.ofList given))).map (fun c => (declare c).run b) =
      .ok ((declare built).run b)

/-- A configuration is built alike if its first step and all others take in a member. -/
theorem OpenRecord.builtAlike {α σ : Type} (R : OpenRecord α) {apply : α → σ → α}
    {member : σ → String × Json} {first : String × Json} {c : α} {steps : List σ}
    (hfirst : R.set R.start first.1 first.2 = .ok c)
    (hstep : ∀ s ∈ steps, ∀ c, R.set c (member s).1 (member s).2 = .ok (apply c s))
    (toJson : α → Json) (text : α → String) (validate : α → Except DeclareError Unit)
    (declare : α → RegistryOp) :
    BuiltAlike R.ofJson toJson text validate declare (first :: steps.map member)
      (steps.foldl apply c) := by
  have hread : R.ofJson (.obj (Members.ofList (first :: steps.map member))) =
      .ok (steps.foldl apply c) :=
    OpenRecord.ofJson_ofList ((R.fold_cons _ hfirst).trans (OpenRecord.fold_map hstep c))
  exact ⟨Members.sorted_ofList _, get?_ofList_eq_lastGiven _, hread, by rw [hread]; rfl,
    by rw [hread]; rfl, by rw [hread]; rfl, fun b => by rw [hread]; rfl⟩

end Config

open Config

/-! ## The members that steps give -/

/-- The extra key that a step gives — only `option` does. -/
def AppConfig.Setting.extra? : AppConfig.Setting → Option (String × Json)
  | option key value => some (key, value)
  | _ => none

/-- The member that a step gives: of a typed field under its written name, of an `option` as it
is. -/
def AppConfig.Setting.member : AppConfig.Setting → String × Json
  | stage value => ("stage", .str value)
  | region value => ("region", .str value)
  | option key value => (key, value)

/-- The member that a step gives. -/
def TableConfig.Setting.member : TableConfig.Setting → String × Json
  | partitionKey value => ("partition_key", .str value)
  | sortKey value => ("sort_key", .str value)
  | encryption value => ("encryption", .bool value)
  | backups value => ("backups", .bool value)
  | ttl value => ("ttl", .str value)
  | extra key value => (key, value)

/-- The member that a step gives. -/
def LogStreamConfig.Setting.member : LogStreamConfig.Setting → String × Json
  | retention value => ("retention", .str value)
  | encryption value => ("encryption", .bool value)
  | extra key value => (key, value)

/-- The member that a step gives. -/
def IdentityPoolConfig.Setting.member : IdentityPoolConfig.Setting → String × Json
  | mfa value => ("mfa", .bool value)
  | passwordPolicy value => ("password_policy", .str value)
  | tokenTtl value => ("token_ttl", .str value)
  | extra key value => (key, value)

/-! A step takes in the member that it gives, unless this is an extra key named like a typed
field. -/

theorem AppConfig.set_member {s : Setting} (h : ∀ m ∈ s.extra?, m.1 ∉ typedFields)
    (config : AppConfig) :
    set config s.member.1 s.member.2 = .ok (apply config s) := by
  cases s with
  | option key value => exact record.set_eq_ok_of_notMem (h _ rfl) rfl rfl
  | _ => rfl

theorem TableConfig.set_member {s : Setting} (h : ∀ m ∈ s.extra?, m.1 ∉ typedFields)
    (config : TableConfig) : set config s.member.1 s.member.2 = .ok (apply config s) := by
  cases s with
  | extra key value => exact record.set_eq_ok_of_notMem (h _ rfl) rfl rfl
  | _ => rfl

theorem LogStreamConfig.set_member {s : Setting} (h : ∀ m ∈ s.extra?, m.1 ∉ typedFields)
    (config : LogStreamConfig) : set config s.member.1 s.member.2 = .ok (apply config s) := by
  cases s with
  | extra key value => exact record.set_eq_ok_of_notMem (h _ rfl) rfl rfl
  | _ => rfl

theorem IdentityPoolConfig.set_member {s : Setting} (h : ∀ m ∈ s.extra?, m.1 ∉ typedFields)
    (config : IdentityPoolConfig) : set config s.member.1 s.member.2 = .ok (apply config s) := by
  cases s with
  | extra key value => exact record.set_eq_ok_of_notMem (h _ rfl) rfl rfl
  | _ => rfl

namespace Config

/-- **A configuration built in steps is the one read from what they give** — from the object with
the name and with the value given last for every other key, as long as no `extra` is named like a
typed field. -/
theorem configurations_built_alike (name : String) :
    (∀ settings : List AppConfig.Setting,
      (∀ s ∈ settings, ∀ m ∈ s.extra?, m.1 ∉ AppConfig.typedFields) →
      BuiltAlike AppConfig.ofJson AppConfig.toJson AppConfig.text AppConfig.validate
        RegistryOp.declareApplication
        (("name", .str name) :: settings.map AppConfig.Setting.member)
          (AppConfig.build name settings)) ∧
    (∀ settings : List TableConfig.Setting,
      (∀ s ∈ settings, ∀ m ∈ s.extra?, m.1 ∉ TableConfig.typedFields) →
      BuiltAlike TableConfig.ofJson TableConfig.toJson TableConfig.text TableConfig.validate
        RegistryOp.declareTable
        (("name", .str name) :: settings.map TableConfig.Setting.member)
        (TableConfig.build name settings)) ∧
    (∀ settings : List LogStreamConfig.Setting,
      (∀ s ∈ settings, ∀ m ∈ s.extra?, m.1 ∉ LogStreamConfig.typedFields) →
      BuiltAlike LogStreamConfig.ofJson LogStreamConfig.toJson LogStreamConfig.text
        LogStreamConfig.validate RegistryOp.declareLogStream
        (("name", .str name) :: settings.map LogStreamConfig.Setting.member)
        (LogStreamConfig.build name settings)) ∧
    ∀ settings : List IdentityPoolConfig.Setting,
      (∀ s ∈ settings, ∀ m ∈ s.extra?, m.1 ∉ IdentityPoolConfig.typedFields) →
      BuiltAlike IdentityPoolConfig.ofJson IdentityPoolConfig.toJson IdentityPoolConfig.text
        IdentityPoolConfig.validate RegistryOp.declareIdentityPool
        (("name", .str name) :: settings.map IdentityPoolConfig.Setting.member)
        (IdentityPoolConfig.build name settings) := by
  refine ⟨fun settings h => ?_, fun settings h => ?_, fun settings h => ?_, fun settings h => ?_⟩
  · exact AppConfig.record.builtAlike (c := { name := name }) rfl
      (fun s hs => AppConfig.set_member (h s hs)) _ _ _ _
  · exact TableConfig.record.builtAlike (c := { name := name }) rfl
      (fun s hs => TableConfig.set_member (h s hs)) _ _ _ _
  · exact LogStreamConfig.record.builtAlike (c := { name := name }) rfl
      (fun s hs => LogStreamConfig.set_member (h s hs)) _ _ _ _
  · exact IdentityPoolConfig.record.builtAlike (c := { name := name }) rfl
      (fun s hs => IdentityPoolConfig.set_member (h s hs)) _ _ _ _

/-- Of steps that repeat themselves, and of `extra` keys between them, an object is left that is
sorted. -/
theorem configurations_built_alike_of_repeated :
    let app : List AppConfig.Setting := [.stage "dev", .option "memory" (.bool true), .stage "prod"]
    let table : List TableConfig.Setting :=
      [.ttl "until", .extra "mode" (.str "slow"), .partitionKey "id", .backups false,
        .extra "mode" (.str "fast"), .partitionKey "order_id"]
    let stream : List LogStreamConfig.Setting :=
      [.encryption false, .encryption true, .extra "" .null]
    let pool : List IdentityPoolConfig.Setting := [.tokenTtl "2h", .mfa true, .tokenTtl "1h"]
    ((∀ s ∈ app, ∀ m ∈ s.extra?, m.1 ∉ AppConfig.typedFields) ∧
      AppConfig.ofJson (.obj [("memory", .bool true), ("name", .str "orders"),
        ("stage", .str "prod")]) = .ok (AppConfig.build "orders" app)) ∧
    ((∀ s ∈ table, ∀ m ∈ s.extra?, m.1 ∉ TableConfig.typedFields) ∧
      TableConfig.ofJson (.obj [("backups", .bool false), ("mode", .str "fast"),
        ("name", .str "orders"), ("partition_key", .str "order_id"), ("ttl", .str "until")]) =
        .ok (TableConfig.build "orders" table)) ∧
    ((∀ s ∈ stream, ∀ m ∈ s.extra?, m.1 ∉ LogStreamConfig.typedFields) ∧
      LogStreamConfig.ofJson (.obj [("", .null), ("encryption", .bool true),
        ("name", .str "orders")]) = .ok (LogStreamConfig.build "orders" stream)) ∧
    (∀ s ∈ pool, ∀ m ∈ s.extra?, m.1 ∉ IdentityPoolConfig.typedFields) ∧
      IdentityPoolConfig.ofJson (.obj [("mfa", .bool true), ("name", .str "orders"),
        ("token_ttl", .str "1h")]) = .ok (IdentityPoolConfig.build "orders" pool) := by
  intro app table stream pool
  obtain ⟨happ, htable, hstream, hpool⟩ := configurations_built_alike "orders"
  have hAppKeys : ∀ s ∈ app, ∀ m ∈ s.extra?, m.1 ∉ AppConfig.typedFields := by decide
  have hTableKeys : ∀ s ∈ table, ∀ m ∈ s.extra?, m.1 ∉ TableConfig.typedFields := by decide
  have hStreamKeys : ∀ s ∈ stream, ∀ m ∈ s.extra?, m.1 ∉ LogStreamConfig.typedFields := by decide
  have hPoolKeys : ∀ s ∈ pool, ∀ m ∈ s.extra?, m.1 ∉ IdentityPoolConfig.typedFields := by decide
  exact ⟨⟨hAppKeys, (happ app hAppKeys).ofJson_eq⟩,
    ⟨hTableKeys, (htable table hTableKeys).ofJson_eq⟩,
    ⟨hStreamKeys, (hstream stream hStreamKeys).ofJson_eq⟩,
    hPoolKeys, (hpool pool hPoolKeys).ofJson_eq⟩

end Config

end BackendPlan
