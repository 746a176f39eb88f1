import BackendPlan.Proofs.Registry.Index
import BackendPlan.Proofs.Registry.Run

/-!
# Proofs/Registry/Outcome — what one operation on a registry can do

Twelve operations have eight outcomes: the three kinds of resources are declared alike, and what is
about routes alone leaves the rest alone.  Everything that statements about runs need of a single
operation is read off its outcome.

* `RegistryOp.Outcome` — the outcomes, each with the reply and the workbench it leads to.
* `RegistryOp.outcome` — an operation ends in one of them.
* `decorations_run`, `contents_run`, `mem_resources_run` — what is read off it: what an operation
  can do to records, to objects and to the resources of its registry.
-/

namespace BackendPlan

/-! ## Resources of any kind -/

/-- Check a resource as its declaration does. -/
def Resource.validate : Resource → Except DeclareError Unit
  | table t => t.config.validate
  | logStream l => l.config.validate
  | identityPool p => p.config.validate

namespace Contents

/-- The number of objects of a kind — the next object gets it as its `id`. -/
def count (c : Contents) : ResourceKind → Nat
  | .table => c.tables.size
  | .logStream => c.logs.size
  | .identityPool => c.pools

/-- Make an object of a kind — by `newTable`, `newLog` or `newPool`. -/
def make (c : Contents) : ResourceKind → Contents
  | .table => c.newTable
  | .logStream => c.newLog
  | .identityPool => c.newPool

/-- **`make` counts the object it makes**, and no other — there is one list for each kind. -/
theorem count_make (c : Contents) (kind other : ResourceKind) :
    (c.make kind).count other = if other = kind then c.count other + 1 else c.count other := by
  cases kind <;> cases other <;> simp [count, make, newTable, newLog, newPool]

/-- `make` changes what no object contains. -/
theorem items_make (c : Contents) (kind : ResourceKind) (id : Nat) :
    (c.make kind).items id = c.items id := by
  cases kind with
  | table => exact c.items_newTable id
  | logStream | identityPool => rfl

theorem entries_make (c : Contents) (kind : ResourceKind) (id : Nat) :
    (c.make kind).entries id = c.entries id := by
  cases kind with
  | logStream => exact c.entries_newLog id
  | table | identityPool => rfl

end Contents

namespace RegistryOp

/-- The resource that a declaration makes: its configuration under the next number of its kind. -/
def declared? (c : Contents) : RegistryOp → Option Resource
  | declareTable config => some (.table ⟨c.tables.size, config⟩)
  | declareLogStream config => some (.logStream ⟨c.logs.size, config⟩)
  | declareIdentityPool config => some (.identityPool ⟨c.pools, config⟩)
  | _ => none

/-- **The object of a declared resource is the next of its kind** — so handles of two declarations
differ. -/
theorem id_of_declared? {c : Contents} {op : RegistryOp} {r : Resource}
    (h : op.declared? c = some r) : r.id = c.count r.kind := by
  cases op with
  | declareTable config | declareLogStream config | declareIdentityPool config =>
    obtain rfl := Option.some.inj h
    rfl
  | _ => exact absurd h nofun

end RegistryOp

namespace Workbench

/-- In what form a declaration hands its handle out makes no difference to what it does. -/
theorem map_declareResource {α β : Type} (b : Workbench) (check : Except DeclareError Unit)
    (resource : Resource) (make : Contents → Contents) {handle : α} {handle' : β}
    {reply : α → RegistryReply} {reply' : β → RegistryReply} (h : reply handle = reply' handle') :
    (b.declareResource check resource handle make).map (RegistryReply.ofResult reply) id =
      (b.declareResource check resource handle' make).map (RegistryReply.ofResult reply') id := by
  cases check with
  | error cause => rfl
  | ok u =>
    rcases b.putResource_cases resource with ⟨cause, hput⟩ | ⟨event, hput⟩
    · simp only [declareResource, hput]
      rfl
    · simp only [declareResource, hput, Prod.map, RegistryReply.ofResult, h]

end Workbench

namespace RegistryOp

/-- **Declaring a resource**, whatever its kind — the three declarations are one `declareResource`,
with the handle as a `Resource`. -/
theorem run_of_declared? {op : RegistryOp} {b : Workbench} {r : Resource}
    (h : op.declared? b.workspace.contents = some r) :
    op.run b =
      (b.declareResource r.validate r r (·.make r.kind)).map
        (RegistryReply.ofResult .resource) id := by
  cases op with
  | declareTable config =>
    obtain rfl := Option.some.inj h
    exact b.map_declareResource _ _ Contents.newTable rfl
  | declareLogStream config =>
    obtain rfl := Option.some.inj h
    exact b.map_declareResource _ _ Contents.newLog rfl
  | declareIdentityPool config =>
    obtain rfl := Option.some.inj h
    exact b.map_declareResource _ _ Contents.newPool rfl
  | _ => exact absurd h nofun

end RegistryOp

/-! ## Outcomes -/

/-- The registry without its records and what is `pending` for them. -/
def Registry.holdings (r : Registry) : Registry := { r with routes := [], pending := fun _ => {} }

/-- The reply to an operation that cannot be refused and declares nothing. -/
def RegistryReply.isPlain : RegistryReply → Bool
  | done | handler _ | edited _ => true
  | application _ | resource _ | refused _ => false

/-- **What one operation can do** — its reply, and the workbench it leads to; later proofs go by
these cases and do not unfold `run`. -/
inductive RegistryOp.Outcome (b : Workbench) : RegistryOp → RegistryReply × Workbench → Prop
  /-- A refusal leaves everything as it was. -/
  | refused {op : RegistryOp} (cause : DeclareError) : Outcome b op (.refused cause, b)
  /-- A declared resource is registered, and its object made. -/
  | declared {op : RegistryOp} {r : Resource} (event : Event)
      (hdeclared : op.declared? b.workspace.contents = some r) (hvalid : r.validate = .ok ()) :
      Outcome b op
        (.resource r,
          ((b.report event).modifyRegistry (·.putResource r)).modifyContents (·.make r.kind))
  /-- A resource that is there already is registered as it is. -/
  | registered {r : Resource} (event : Event) :
      Outcome b (.putResource r) (.done, (b.report event).modifyRegistry (·.putResource r))
  /-- A declared application is made current, with an event more. -/
  | applied {config : AppConfig} {app : Application} (reported : Workbench)
      (happ : app = Workbench.applicationOf b.registry.settings config)
      (hreported : reported = b ∨ ∃ event, reported = b.report event)
      (hvalid : config.validate = .ok ()) :
      Outcome b (.declareApplication config)
        (.application app,
          (reported.modifyRegistry fun r => { r with application := some app }).report
            (.applicationDeclared app.name app.stage app.region))
  /-- An application given as it is is made current. -/
  | set {app : Application} (reported : Workbench)
      (hreported : reported = b ∨ ∃ event, reported = b.report event) :
      Outcome b (.setApplication app)
        (.done, reported.modifyRegistry fun r => { r with application := some app })
  /-- A middleware is added at the end. -/
  | layered {h : Handler} : Outcome b (.middleware h) (.handler h, (b.middleware h).2)
  /-- What is about routes leaves everything else alone. -/
  | onRoutes {op : RegistryOp} {reply : RegistryReply} {next : Workbench}
      (htouch : op.touchesRoutes = true) (hreset : op.isReset = false)
      (hplain : reply.isPlain = true) (hholdings : next.registry.holdings = b.registry.holdings)
      (hcontents : next.workspace.contents = b.workspace.contents) : Outcome b op (reply, next)
  /-- A reset drops every declaration. -/
  | reset : Outcome b .reset (.done, b.modifyRegistry Registry.reset)

namespace Workbench

theorem contents_reconcile (b : Workbench) (h : Handler) :
    (b.reconcile h).workspace.contents = b.workspace.contents := by
  unfold reconcile
  dsimp only
  split
  · rfl
  · split <;> rfl

theorem holdings_reconcile (b : Workbench) (h : Handler) :
    (b.reconcile h).registry.holdings = b.registry.holdings := by
  unfold reconcile
  dsimp only
  split
  · rfl
  · split <;> rfl

/-- A declared application has passed `validate`. -/
theorem validate_of_declareApplication {b : Workbench} {config : AppConfig} {app : Application}
    (h : (b.declareApplication config).1 = .ok app) : config.validate = .ok () := by
  unfold declareApplication at h
  split at h
  · exact absurd h nofun
  · next hvalid => exact hvalid

/-- A declared resource has passed its check. -/
theorem check_of_declareResource {α : Type} {b : Workbench} {check : Except DeclareError Unit}
    {resource : Resource} {handle a : α} {make : Contents → Contents}
    (h : (b.declareResource check resource handle make).1 = .ok a) : check = .ok () := by
  cases check with
  | error cause => exact absurd h nofun
  | ok u => rfl

end Workbench

namespace RegistryOp

/-- A declaration of a resource ends in an outcome. -/
theorem outcome_of_declared? {op : RegistryOp} {b : Workbench} {r : Resource}
    (h : op.declared? b.workspace.contents = some r) : op.Outcome b (op.run b) := by
  rw [run_of_declared? h]
  rcases b.declareResource_cases r.validate r r (·.make r.kind) with ⟨cause, hrun⟩ | ⟨event, hrun⟩
  · rw [hrun]
    exact .refused cause
  · have hvalid := Workbench.check_of_declareResource (congrArg Prod.fst hrun)
    rw [hrun]
    exact .declared event h hvalid

/-- **Every operation ends in one of the outcomes** — the one place where `run` is taken apart. -/
theorem outcome (op : RegistryOp) (b : Workbench) : op.Outcome b (op.run b) := by
  cases op with
  | declareTable config => exact outcome_of_declared? rfl
  | declareLogStream config => exact outcome_of_declared? rfl
  | declareIdentityPool config => exact outcome_of_declared? rfl
  | declareApplication config =>
    rw [run]
    rcases b.declareApplication_cases config with ⟨cause, hrun⟩ | ⟨reported, hreported, hrun⟩
    · rw [hrun]
      exact .refused cause
    · have hvalid := Workbench.validate_of_declareApplication (congrArg Prod.fst hrun)
      rw [hrun]
      exact .applied reported rfl hreported hvalid
  | setApplication app =>
    rw [run]
    rcases b.setApplication_cases app with ⟨cause, hrun⟩ | ⟨reported, hreported, hrun⟩
    · rw [hrun]
      exact .refused cause
    · rw [hrun]
      exact .set reported hreported
  | putResource resource =>
    rw [run]
    rcases b.putResource_cases resource with ⟨cause, hrun⟩ | ⟨event, hrun⟩
    · rw [hrun]
      exact .refused cause
    · rw [hrun]
      exact .registered event
  | middleware handler => exact .layered
  | route handler spec =>
    exact .onRoutes rfl rfl rfl (Workbench.holdings_reconcile _ handler)
      (Workbench.contents_reconcile _ handler)
  | auth handler spec =>
    exact .onRoutes rfl rfl rfl (Workbench.holdings_reconcile _ handler)
      (Workbench.contents_reconcile _ handler)
  | appendRoute record => exact .onRoutes rfl rfl rfl rfl rfl
  | editRoute handler edit => exact .onRoutes rfl rfl rfl rfl rfl
  | reset => exact .reset

end RegistryOp

/-! ## What is read off an outcome -/

/-- The part of a registry that decorations are about: the records, and what is `pending`. -/
def Registry.decorations (r : Registry) : List Route × (HandlerId → Pending) :=
  (r.routes, r.pending)

theorem Registry.decorations_putResource (r : Registry) (resource : Resource) :
    (r.putResource resource).decorations = r.decorations :=
  Prod.ext (r.routes_putResource resource) (r.pending_putResource resource)

namespace RegistryOp

variable {b : Workbench}

/-- **Only operations about routes touch records and pending metadata** — outcome by outcome. -/
theorem decorations_run {op : RegistryOp} (h : op.touchesRoutes = false) (b : Workbench) :
    (op.run b).2.registry.decorations = b.registry.decorations := by
  have hout := op.outcome b
  generalize op.run b = out at hout
  cases hout with
  | declared | registered => exact Registry.decorations_putResource b.registry _
  | applied reported _ hreported | set reported hreported =>
    obtain rfl | ⟨_, rfl⟩ := hreported <;> rfl
  | onRoutes htouch => exact absurd (htouch.symm.trans h) nofun
  | reset => exact absurd h nofun
  | refused | layered => rfl

/-- Only what is declared is handed out. -/
theorem declared?_of_reply_resource {op : RegistryOp} {r : Resource}
    (h : (op.run b).1 = .resource r) : op.declared? b.workspace.contents = some r := by
  have hout := op.outcome b
  generalize op.run b = out at h hout
  cases hout with
  | declared event hdeclared =>
    obtain rfl := RegistryReply.resource.inj h
    exact hdeclared
  | onRoutes _ _ hplain =>
    obtain rfl := h
    exact absurd hplain nofun
  | _ => exact absurd h nofun

/-- **A declaration hands out the next object of its kind**, having checked it — and puts it into
the registry. -/
theorem run_of_reply_resource {op : RegistryOp} {r : Resource} (h : (op.run b).1 = .resource r) :
    r.validate = .ok () ∧ r.id = b.workspace.contents.count r.kind ∧
      (op.run b).2.registry = b.registry.putResource r ∧
      (op.run b).2.workspace.contents = b.workspace.contents.make r.kind := by
  have hout := op.outcome b
  generalize op.run b = out at h hout
  cases hout with
  | declared event hdeclared hvalid =>
    obtain rfl := RegistryReply.resource.inj h
    exact ⟨hvalid, id_of_declared? hdeclared, rfl, rfl⟩
  | onRoutes _ _ hplain =>
    obtain rfl := h
    exact absurd hplain nofun
  | _ => exact absurd h nofun

/-- Nothing else reaches the contents. -/
theorem contents_run_of_reply_ne {op : RegistryOp} (h : ∀ r, (op.run b).1 ≠ .resource r) :
    (op.run b).2.workspace.contents = b.workspace.contents := by
  have hout := op.outcome b
  generalize op.run b = out at h hout
  cases hout with
  | declared => exact absurd rfl (h _)
  | applied reported _ hreported | set reported hreported =>
    obtain rfl | ⟨_, rfl⟩ := hreported <;> rfl
  | onRoutes _ _ _ _ hcontents => exact hcontents
  | refused | registered | layered | reset => rfl

/-- **A registry comes to hold what is declared in it and what is put into it** — and nothing by any
other way. -/
theorem mem_resources_run {op : RegistryOp} {r : Resource}
    (h : r ∈ (op.run b).2.registry.resources) :
    r ∈ b.registry.resources ∨ (op.run b).1 = .resource r ∨ op = .putResource r := by
  have hout := op.outcome b
  generalize op.run b = out at h hout
  cases hout with
  | refused | layered => exact .inl h
  | declared =>
    rcases Registry.mem_or_eq_of_mem_putResource h with hold | rfl
    · exact .inl hold
    · exact .inr (.inl rfl)
  | registered =>
    rcases Registry.mem_or_eq_of_mem_putResource h with hold | rfl
    · exact .inl hold
    · exact .inr (.inr rfl)
  | applied reported _ hreported | set reported hreported =>
    obtain rfl | ⟨_, rfl⟩ := hreported <;> exact .inl h
  | onRoutes _ _ _ hholdings =>
    have hsame := congrArg (r ∈ ·.resources) hholdings
    exact .inl (hsame.mp h)
  | reset => exact absurd h (Array.not_mem_empty r)

/-- **An operation on a registry makes at most one object**, and changes none. -/
theorem contents_run (op : RegistryOp) (b : Workbench) :
    (op.run b).2.workspace.contents = b.workspace.contents ∨
      ∃ kind, (op.run b).2.workspace.contents = b.workspace.contents.make kind := by
  by_cases hreply : ∃ r, (op.run b).1 = .resource r
  · obtain ⟨r, hr⟩ := hreply
    obtain ⟨-, -, -, hcontents⟩ := run_of_reply_resource hr
    exact .inr ⟨r.kind, hcontents⟩
  · exact .inl (contents_run_of_reply_ne (not_exists.1 hreply))

end RegistryOp

end BackendPlan
