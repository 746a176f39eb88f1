import BackendPlan.Proofs.Registry.Index
import BackendPlan.Proofs.Registry.Outcome
import BackendPlan.Proofs.Session.Run

/-!
# Proofs/Registry/Refusal — which declarations are refused, and for what reason

A registration claims a **slot**: the place of the application, or that of a name among the
resources, whatever their kinds.  Whether it is refused can be told without performing it, from what
it was given and from what the registry shows:

    blank required text  ──before──▸  slot taken, in a strict registry

* `RegistryOp.refusal?` — the reason, if there is one.
* `RegistryOp.run_of_refusal?` — an operation is refused for that reason exactly, or answered.
* `RegistryOp.run_of_refused` — a refusal leaves everything as it was.
* `Session.refused_by_rule` — both, in every state that a session reaches.
-/

namespace BackendPlan

/-! ## The rule -/

/-- **What a registration claims**: the place of the application, or of a name among the resources,
whatever their kinds. -/
inductive Slot where
  | application
  | resource (name : String)
deriving DecidableEq

/-- What is declared in the slot, in the words of a refusal. -/
def Slot.kind : Slot → String
  | application => "application"
  | resource _ => "resource"

namespace Registry

/-- The name of what stands in a slot, if anything does — read off `resources`, not off the
index. -/
def occupant? (r : Registry) : Slot → Option String
  | .application => r.application.map Application.name
  | .resource name => if name ∈ r.names then some name else none

/-- **A strict registry refuses a slot that is taken**, and names what stands there. -/
def collision? (r : Registry) (slot : Slot) : Option DeclareError :=
  if r.settings.strict then (r.occupant? slot).map (.collision slot.kind) else none

end Registry

/-- The refusal of a declaration with a blank required text: the first one, in their order, is
named. -/
def DeclareError.firstBlank? (kind : String) (required : List (String × String)) :
    Option DeclareError :=
  (required.find? fun field => Text.isBlankText field.2).map fun field => .missingField kind field.1

namespace RegistryOp

/-- **The refusal for what the operation was given** — what is registered as it is (`putResource`,
`setApplication`) is not checked. -/
def missing? : RegistryOp → Option DeclareError
  | declareApplication config => DeclareError.firstBlank? "application" [("name", config.name)]
  | declareTable config =>
    DeclareError.firstBlank? "table" [("name", config.name), ("partition_key", config.partitionKey)]
  | declareLogStream config => DeclareError.firstBlank? "log stream" [("name", config.name)]
  | declareIdentityPool config => DeclareError.firstBlank? "identity pool" [("name", config.name)]
  | _ => none

/-- The slot that the operation claims: a name, or the one place of the application. -/
def slot? : RegistryOp → Option Slot
  | declareApplication _ | setApplication _ => some .application
  | declareTable config => some (.resource config.name)
  | declareLogStream config => some (.resource config.name)
  | declareIdentityPool config => some (.resource config.name)
  | putResource resource => some (.resource resource.name)
  | _ => none

/-- **Why a registry refuses the operation**, if it does: `missing?` first, then `collision?` of its
slot, as the checks come. -/
def refusal? (op : RegistryOp) (r : Registry) : Option DeclareError :=
  op.missing?.or (op.slot?.bind r.collision?)

/-- **The reply is that of the operation when it is served**: an object with the configuration that
was asked for, the handler that was given, or nothing. -/
def IsAnswer : RegistryOp → RegistryReply → Prop
  | declareApplication config, .application app => app.name = config.name
  | declareTable config, .resource (.table t) => t.config = config
  | declareLogStream config, .resource (.logStream l) => l.config = config
  | declareIdentityPool config, .resource (.identityPool p) => p.config = config
  | route h _, .handler given | auth h _, .handler given | middleware h, .handler given => given = h
  | setApplication _, .done | putResource _, .done | appendRoute _, .done | reset, .done => True
  | editRoute .., .edited _ => True
  | _, _ => False

end RegistryOp

/-! ## The rule is followed -/

namespace DeclareError

/-- Refuse for a reason, if there is one. -/
def refuse : Option DeclareError → Except DeclareError Unit
  | some cause => .error cause
  | none => .ok ()

theorem refuse_firstBlank?_nil (kind : String) : refuse (firstBlank? kind []) = .ok () := rfl

/-- Checking the required texts one after another finds the first blank one, `firstBlank?`. -/
theorem refuse_firstBlank?_cons (kind field value : String) (rest : List (String × String)) :
    refuse (firstBlank? kind ((field, value) :: rest)) =
      (Config.requireText kind field value >>= fun _ => refuse (firstBlank? kind rest)) := by
  rw [firstBlank?, List.find?_cons, Config.requireText]
  cases Text.isBlankText value <;> rfl

end DeclareError

open DeclareError

theorem AppConfig.validate_eq (config : AppConfig) :
    config.validate = refuse (RegistryOp.declareApplication config).missing? := by
  rw [RegistryOp.missing?, refuse_firstBlank?_cons, refuse_firstBlank?_nil, validate]
  cases Config.requireText "application" "name" config.name <;> rfl

theorem TableConfig.validate_eq_ok_iff {config : TableConfig} :
    config.validate = .ok () ↔
      Text.isBlankText config.name = false ∧ Text.isBlankText config.partitionKey = false := by
  have hname : Config.requireText "table" "name" config.name = .ok () ↔
      Text.isBlankText config.name = false := Config.requireText_eq_ok_iff
  have hkey : Config.requireText "table" "partition_key" config.partitionKey = .ok () ↔
      Text.isBlankText config.partitionKey = false := Config.requireText_eq_ok_iff
  rw [validate, ← hname, ← hkey]
  cases Config.requireText "table" "name" config.name with
  | error cause => exact iff_of_false nofun fun h => absurd h.1 nofun
  | ok u => exact (and_iff_right rfl).symm

/-- `validate` of a declared resource finds the first blank text of its declaration. -/
theorem Resource.validate_eq {c : Contents} {op : RegistryOp} {r : Resource}
    (h : op.declared? c = some r) : r.validate = refuse op.missing? := by
  cases op with
  | declareTable config =>
    obtain rfl := Option.some.inj h
    rw [RegistryOp.missing?, refuse_firstBlank?_cons, refuse_firstBlank?_cons,
      refuse_firstBlank?_nil, validate, TableConfig.validate]
    cases Config.requireText "table" "partition_key" config.partitionKey <;> rfl
  | declareLogStream config =>
    obtain rfl := Option.some.inj h
    rw [RegistryOp.missing?, refuse_firstBlank?_cons, refuse_firstBlank?_nil, validate,
      LogStreamConfig.validate]
    cases Config.requireText "log stream" "name" config.name <;> rfl
  | declareIdentityPool config =>
    obtain rfl := Option.some.inj h
    rw [RegistryOp.missing?, refuse_firstBlank?_cons, refuse_firstBlank?_nil, validate,
      IdentityPoolConfig.validate]
    cases Config.requireText "identity pool" "name" config.name <;> rfl
  | _ => exact absurd h nofun

namespace Workbench

variable {b : Workbench}

theorem fst_setApplication (b : Workbench) (app : Application) :
    (b.setApplication app).1 = refuse (b.registry.collision? .application) := by
  rw [setApplication, Registry.collision?, Registry.occupant?]
  cases b.registry.application with
  | none => cases b.registry.settings.strict <;> rfl
  | some current => cases b.registry.settings.strict <;> rfl

/-- Registering goes by the index, the rule by the resources that the registry shows — `Indexed`
says that these agree. -/
theorem fst_putResource (hb : b.registry.Indexed) (resource : Resource) :
    (b.putResource resource).1 = refuse (b.registry.collision? (.resource resource.name)) := by
  rw [putResource, Registry.collision?, Registry.occupant?]
  by_cases hmem : resource.name ∈ b.registry.names
  · obtain ⟨i, -, hi, -⟩ := hb.exists_slot hmem
    rw [hi, if_pos hmem]
    cases b.registry.settings.strict <;> rfl
  · rw [hb.getElem?_eq_none_iff.2 hmem, if_neg hmem]
    cases b.registry.settings.strict <;> rfl

/-- **A resource is declared unless its check or its slot refuses** — in this order, so a blank name
is told before a collision. -/
theorem fst_declareResource {α : Type} (hb : b.registry.Indexed) (missing : Option DeclareError)
    (resource : Resource) (handle : α) (make : Contents → Contents) :
    (b.declareResource (refuse missing) resource handle make).1 =
      (refuse (missing.or (b.registry.collision? (.resource resource.name)))).map
        fun _ => handle := by
  cases missing with
  | some cause => rfl
  | none =>
    have hput := fst_putResource hb resource
    rw [Option.none_or, ← hput]
    simp only [declareResource, refuse]
    rcases b.putResource resource with ⟨_ | _, _⟩ <;> rfl

/-- **The application is declared unless its check or its slot refuses** — there being one slot for
all of them. -/
theorem fst_declareApplication (b : Workbench) (config : AppConfig) :
    (b.declareApplication config).1 =
      (refuse ((RegistryOp.declareApplication config).missing?.or
        (b.registry.collision? .application))).map
          fun _ => applicationOf b.registry.settings config := by
  simp only [declareApplication, config.validate_eq]
  cases (RegistryOp.declareApplication config).missing? with
  | some cause => rfl
  | none =>
    have hset := b.fst_setApplication (applicationOf b.registry.settings config)
    rw [Option.none_or, ← hset]
    simp only [refuse]
    rcases b.setApplication (applicationOf b.registry.settings config) with ⟨_ | _, _⟩ <;> rfl

end Workbench

namespace RegistryOp

variable {b : Workbench}

/-- A result that is refused by the rule makes a reply by the rule. -/
theorem run_of_fst {α : Type} (op : RegistryOp) (reply : α → RegistryReply) (a : α)
    {result : Except DeclareError α} (hrun : (op.run b).1 = .ofResult reply result)
    (hresult : result = (refuse (op.refusal? b.registry)).map fun _ => a)
    (ha : op.IsAnswer (reply a)) :
    match op.refusal? b.registry with
    | some cause => (op.run b).1 = .refused cause
    | none => op.IsAnswer (op.run b).1 := by
  rw [hrun, hresult]
  cases op.refusal? b.registry with
  | some cause => rfl
  | none => exact ha

/-- What a declaration of a resource claims, and answers when it is served. -/
theorem claims_of_declared? {c : Contents} {op : RegistryOp} {r : Resource}
    (h : op.declared? c = some r) :
    op.slot? = some (.resource r.name) ∧ op.IsAnswer (.resource r) := by
  cases op with
  | declareTable config | declareLogStream config | declareIdentityPool config =>
    obtain rfl := Option.some.inj h
    exact ⟨rfl, rfl⟩
  | _ => exact absurd h nofun

/-- A declaration of a resource follows the rule, `refusal?`. -/
theorem run_of_refusal?_of_declared? (hb : b.registry.Indexed) {op : RegistryOp} {r : Resource}
    (h : op.declared? b.workspace.contents = some r) :
    match op.refusal? b.registry with
    | some cause => (op.run b).1 = .refused cause
    | none => op.IsAnswer (op.run b).1 := by
  obtain ⟨hslot, hanswer⟩ := claims_of_declared? h
  refine run_of_fst op .resource r (congrArg Prod.fst (run_of_declared? h)) ?_ hanswer
  rw [Resource.validate_eq h, refusal?, hslot]
  exact Workbench.fst_declareResource hb _ r r _

/-- **An operation is refused for the reason that the rule gives, or answered** — one lemma for each
of the functions behind `run`. -/
theorem run_of_refusal? (hb : b.registry.Indexed) (op : RegistryOp) :
    match op.refusal? b.registry with
    | some cause => (op.run b).1 = .refused cause
    | none => op.IsAnswer (op.run b).1 := by
  cases op with
  | declareTable config => exact run_of_refusal?_of_declared? hb rfl
  | declareLogStream config => exact run_of_refusal?_of_declared? hb rfl
  | declareIdentityPool config => exact run_of_refusal?_of_declared? hb rfl
  | declareApplication config =>
    exact run_of_fst _ .application _ rfl (b.fst_declareApplication config) rfl
  | setApplication app =>
    refine run_of_fst _ (fun _ => .done) () rfl ((b.fst_setApplication app).trans ?_) trivial
    exact (id_map _).symm
  | putResource resource =>
    refine run_of_fst _ (fun _ => .done) () rfl ((b.fst_putResource hb resource).trans ?_) trivial
    exact (id_map _).symm
  | route handler spec => exact rfl
  | auth handler spec => exact rfl
  | middleware handler => exact rfl
  | appendRoute record => trivial
  | editRoute handler edit => trivial
  | reset => trivial

/-- **A refusal leaves everything as it was** — the workbench, so registry, contents and journal. -/
theorem run_of_refused {op : RegistryOp} {cause : DeclareError}
    (h : (op.run b).1 = .refused cause) : (op.run b).2 = b := by
  have hout := op.outcome b
  generalize op.run b = out at h hout
  cases hout with
  | refused => rfl
  | onRoutes _ _ hplain =>
    obtain rfl := h
    exact absurd hplain nofun
  | _ => exact absurd h nofun

/-- **An operation keeps index and resources in step** — outcome by outcome, by
`Indexed.putResource`. -/
theorem indexed_run (hb : b.registry.Indexed) (op : RegistryOp) :
    (op.run b).2.registry.Indexed := by
  have hout := op.outcome b
  generalize op.run b = out at hout
  cases hout with
  | refused | layered => exact hb
  | declared | registered => exact hb.putResource _
  | applied reported _ hreported | set reported hreported =>
    obtain rfl | ⟨_, rfl⟩ := hreported <;> exact hb
  | onRoutes _ _ _ hholdings =>
    have hsame := congrArg Registry.Indexed hholdings
    exact hsame.mpr hb
  | reset => exact b.registry.indexed_reset

end RegistryOp

/-! ## In every state -/

/-- A run keeps them in step. -/
theorem Workbench.indexed_after {b : Workbench} (hb : b.registry.Indexed) (ops : List RegistryOp) :
    (b.after ops).registry.Indexed := by
  induction ops using List.reverseRecOn with
  | nil => exact hb
  | append_singleton ops op ih =>
    rw [after_concat]
    exact RegistryOp.indexed_run ih op

namespace Session

/-- Every registry of a session is `Indexed`. -/
theorem indexed_run {settings : List Settings} {requests : List Request} {i : Nat}
    {registry : Registry} (hr : ((start settings).run requests).2.registries[i]? = some registry) :
    registry.Indexed :=
  registry_run_start (P := fun _ r => r.Indexed) (fun own _ => Registry.indexed_withSettings own)
    (fun _ _ op hb => RegistryOp.indexed_run hb op) hr

/-- Putting a registry back where it is changes nothing. -/
theorem setIfInBounds_self {s : Session} {i : Nat} {registry : Registry}
    (hr : s.registries[i]? = some registry) :
    s.registries.setIfInBounds i registry = s.registries := by
  refine Array.ext_getElem? fun j => ?_
  rw [Array.getElem?_setIfInBounds]
  split
  · next hij =>
    subst hij
    rw [if_pos (Array.getElem?_eq_some_iff.1 hr).1, hr]
  · rfl

/-- **Operations are refused exactly by the rule, and a refusal leaves no trace.**  In every state
that a session reaches and for every operation on one of its registries: if the rule gives a reason,
the operation is refused for that reason, and registries, contents and journal are as before; if it
gives none, the operation is answered. -/
theorem refused_by_rule (settings : List Settings) (requests : List Request) (i : Nat)
    (registry : Registry)
    (hr : ((start settings).run requests).2.registries[i]? = some registry) (op : RegistryOp) :
    let s := ((start settings).run requests).2
    match op.refusal? registry with
    | some cause => s.step (.on i op) = (.on (.refused cause), s)
    | none => ∃ reply, (s.step (.on i op)).1 = .on reply ∧ op.IsAnswer reply := by
  intro s
  have hrule := RegistryOp.run_of_refusal? (b := ⟨registry, s.workspace⟩) (indexed_run hr) op
  rw [step_on hr]
  cases hrefusal : op.refusal? registry with
  | some cause =>
    rw [hrefusal] at hrule
    have hsame := RegistryOp.run_of_refused hrule
    rw [hrule, hsame]
    exact congrArg (fun registries => (_, Session.mk registries s.workspace))
      (setIfInBounds_self hr)
  | none =>
    rw [hrefusal] at hrule
    exact ⟨_, rfl, hrule⟩

/-- A log stream under the name of a table is refused by a strict registry. -/
theorem refused_by_rule_of_name_of_table :
    let settings : Settings := { strict := true }
    let requests : List Request := [.on 0 (.declareTable { name := "users" })]
    let registry := (Registry.withSettings settings).putResource (.table ⟨0, { name := "users" }⟩)
    let s := ((start [settings]).run requests).2
    s.registries[0]? = some registry ∧
      s.step (.on 0 (.declareLogStream { name := "users" })) =
        (.on (.refused (.collision "resource" "users")), s) := by
  intro settings requests registry s
  have hvalid : ({ name := "users" } : TableConfig).validate = .ok () :=
    TableConfig.validate_eq_ok_iff.2 ⟨by decide, by decide⟩
  have hr : s.registries[0]? = some registry := by
    simp [s, requests, run, step, start, RegistryOp.run, Workbench.declareResource,
      Workbench.declareTable, hvalid, Workbench.putResource, Registry.withSettings, registry]
  refine ⟨hr, ?_⟩
  have hnames : registry.names = ["users"] :=
    (Registry.indexed_withSettings settings).names_putResource _
  have hrefusal : (RegistryOp.declareLogStream { name := "users" }).refusal? registry =
      some (.collision "resource" "users") := by
    have hstrict : registry.settings.strict = true :=
      congrArg Settings.strict (Registry.settings_putResource _ _)
    have hoccupant : registry.occupant? (.resource "users") = some "users" :=
      if_pos (hnames ▸ List.mem_singleton_self "users")
    rw [RegistryOp.refusal?, RegistryOp.slot?, Option.bind_some, Registry.collision?, hstrict,
      hoccupant]
    rfl
  have hrefused := refused_by_rule [settings] requests 0 registry hr
    (.declareLogStream { name := "users" })
  rw [hrefusal] at hrefused
  exact hrefused

end Session

end BackendPlan
