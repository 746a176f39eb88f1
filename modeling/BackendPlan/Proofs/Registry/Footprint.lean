import BackendPlan.Proofs.Registry.Holdings
import BackendPlan.Snapshot

/-!
# Proofs/Registry/Footprint — an operation sees the registry and the number of objects, nothing else

An operation runs on a registry beside a workspace that may be full of items, entries and events.
What it reads of the workspace are the numbers that its new objects get; what it leaves there are
events and empty objects.

* `Footprint` — what an operation leaves, told apart from what was there before.
* `RegistryOp.isSteady_run` — **the footprint is settled by the registry and the number of
  objects**.
* `Workbench.Alike.responses` — so workbenches that agree in these two respond alike, call by call.
* `Workbench.responses_reset` — so does a registry that was reset, and a new one.
-/

namespace BackendPlan

/-- Making objects of the same kinds keeps `count` equal. -/
theorem Contents.count_foldl_make {c c' : Contents} (h : c.count = c'.count)
    (kinds : List ResourceKind) :
    (kinds.foldl make c).count = (kinds.foldl make c').count := by
  induction kinds generalizing c c' with
  | nil => exact h
  | cons kind kinds ih =>
    refine ih (funext fun other => ?_)
    rw [count_make, count_make, h]

/-! ## Footprints -/

/-- **What an operation leaves**: its result, the registry, the events, and the kinds of the objects
it makes, in their order. -/
structure Footprint (α : Type) where
  result : α
  registry : Registry
  events : List Event := []
  made : List ResourceKind := []

namespace Footprint

variable {α β : Type}

/-- **The footprint, left on a workspace**: its `events` behind the journal, the objects of `made`
behind those there are. -/
def leave (f : Footprint α) (w : Workspace) : α × Workbench :=
  (f.result, ⟨f.registry, ⟨f.made.foldl Contents.make w.contents, w.journal ++ f.events⟩⟩)

/-- The footprint with another result. -/
def map (f : Footprint α) (g : α → β) : Footprint β := { f with result := g f.result }

/-- A result and a registry leave the workspace as it is. -/
theorem leave_mk (a : α) (r : Registry) (w : Workspace) : leave ⟨a, r, [], []⟩ w = (a, ⟨r, w⟩) := by
  rw [leave, List.append_nil]
  rfl

end Footprint

/-- **What is left is the same on every workspace** that has as many objects — one `Footprint` for
all of them. -/
def IsSteady {α : Type} (r : Registry) (count : ResourceKind → Nat)
    (m : Workbench → α × Workbench) :
    Prop :=
  ∃ f : Footprint α, ∀ w, w.contents.count = count → m ⟨r, w⟩ = f.leave w

namespace IsSteady

variable {α β : Type} {r : Registry} {count : ResourceKind → Nat} {m : Workbench → α × Workbench}

/-- A step that changes the registry alone is `IsSteady`. -/
theorem of_forall (a : α) (next : Registry) (h : ∀ w, m ⟨r, w⟩ = (a, ⟨next, w⟩)) :
    IsSteady r count m :=
  ⟨⟨a, next, [], []⟩, fun w _ => (h w).trans (Footprint.leave_mk a next w).symm⟩

theorem map (h : IsSteady r count m) (g : α → β) : IsSteady r count fun b => (m b).map g id := by
  obtain ⟨f, hf⟩ := h
  exact ⟨f.map g, fun w hw => congrArg (Prod.map g id) (hf w hw)⟩

end IsSteady

/-! ## What operations leave -/

namespace Workbench

variable (count : ResourceKind → Nat)

theorem isSteady_putResource (r : Registry) (resource : Resource) :
    IsSteady r count (·.putResource resource) := by
  cases hi : r.index[resource.name]? with
  | none =>
    refine ⟨⟨.ok (), r.putResource resource, [.resourceDeclared resource.name resource.kind], []⟩,
      fun w _ => ?_⟩
    simp only [putResource, hi]
    rfl
  | some i =>
    cases hstrict : r.settings.strict with
    | false =>
      refine ⟨⟨.ok (), r.putResource resource, [.resourceOverwritten resource.name resource.kind],
        []⟩, fun w _ => ?_⟩
      simp only [putResource, hi, hstrict]
      rfl
    | true =>
      refine .of_forall (.error (.collision "resource" resource.name)) r fun w => ?_
      simp only [putResource, hi, hstrict, if_true]

theorem isSteady_setApplication (r : Registry) (app : Application) :
    IsSteady r count (·.setApplication app) := by
  cases happ : r.application with
  | none =>
    refine .of_forall (.ok ()) (r.apply app) fun w => ?_
    simp only [setApplication, happ]
    rfl
  | some current =>
    cases hstrict : r.settings.strict with
    | false =>
      refine ⟨⟨.ok (), r.apply app, [.applicationReplaced current.name app.name], []⟩,
        fun w _ => ?_⟩
      simp only [setApplication, happ, hstrict]
      rfl
    | true =>
      refine .of_forall (.error (.collision "application" current.name)) r fun w => ?_
      simp only [setApplication, happ, hstrict, if_true]

/-- `declareResource` registers first, and makes the object if that was served. -/
theorem isSteady_declareResource {α : Type} (r : Registry) (check : Except DeclareError Unit)
    (resource : Resource) (handle : α) :
    IsSteady r count (·.declareResource check resource handle (·.make resource.kind)) := by
  cases check with
  | error cause => exact .of_forall (.error cause) r fun _ => rfl
  | ok u =>
    obtain ⟨f, hf⟩ := isSteady_putResource count r resource
    cases hresult : f.result with
    | error cause =>
      refine ⟨f.map fun _ => .error cause, fun w hw => ?_⟩
      simp only [declareResource, hf w hw, Footprint.leave, hresult, Footprint.map]
    | ok u =>
      refine ⟨{ f with result := .ok handle, made := f.made ++ [resource.kind] }, fun w hw => ?_⟩
      simp only [declareResource, hf w hw, Footprint.leave, hresult, List.foldl_append]
      rfl

theorem isSteady_declareApplication (r : Registry) (config : AppConfig) :
    IsSteady r count (·.declareApplication config) := by
  cases hvalid : config.validate with
  | error cause => exact .of_forall (.error cause) r fun w => by rw [declareApplication, hvalid]
  | ok u =>
    obtain ⟨f, hf⟩ := isSteady_setApplication count r (applicationOf r.settings config)
    cases hresult : f.result with
    | error cause =>
      refine ⟨f.map fun _ => .error cause, fun w hw => ?_⟩
      simp only [declareApplication, hvalid, hf w hw, Footprint.leave, hresult, Footprint.map]
    | ok u =>
      let app := applicationOf r.settings config
      refine ⟨{ f with
        result := .ok app
        events := f.events ++ [.applicationDeclared app.name app.stage app.region] },
          fun w hw => ?_⟩
      simp only [declareApplication, hvalid, hf w hw, Footprint.leave, hresult,
        ← List.append_assoc]
      rfl

/-- `reconcile` reports what became of the record, and leaves contents alone. -/
theorem isSteady_reconcile {α : Type} (a : α) (r : Registry) (h : Handler) :
    IsSteady r count fun b => (a, b.reconcile h) := by
  cases hfound : r.findRoute? h.id with
  | some record =>
    refine ⟨⟨a, r.updateRoute h.id (·.absorb (r.pending h.id)),
      [.routeUpdated h.name (record.absorb (r.pending h.id)).path], []⟩, fun w _ => ?_⟩
    simp only [reconcile, hfound]
    rfl
  | none =>
    cases hroute : (r.pending h.id).route with
    | none => exact .of_forall a r fun w => by simp only [reconcile, hfound, hroute]
    | some attrs =>
      refine ⟨⟨a, (reconcile ⟨r, {}⟩ h).registry, [.routeDeclared h.name attrs.path], []⟩,
        fun w _ => ?_⟩
      simp only [reconcile, hfound, hroute]
      rfl

end Workbench

namespace RegistryOp

/-- The numbers of new objects come from the number of objects. -/
theorem declared?_congr {c c' : Contents} (h : c.count = c'.count) (op : RegistryOp) :
    op.declared? c = op.declared? c' := by
  have htables : c.tables.size = c'.tables.size := congrFun h .table
  have hlogs : c.logs.size = c'.logs.size := congrFun h .logStream
  have hpools : c.pools = c'.pools := congrFun h .identityPool
  cases op <;> simp only [declared?, htables, hlogs, hpools]

/-- A declaration of a resource is steady. -/
theorem isSteady_run_of_declared? {op : RegistryOp} {c : Contents} {resource : Resource}
    (h : op.declared? c = some resource) (r : Registry) : IsSteady r c.count op.run := by
  obtain ⟨f, hf⟩ := (Workbench.isSteady_declareResource c.count r resource.validate
    resource resource).map (RegistryReply.ofResult .resource)
  refine ⟨f, fun w hw => ?_⟩
  rw [← hf w hw]
  exact run_of_declared? ((op.declared?_congr hw).trans h)

/-- **What an operation leaves is settled by the registry and the number of objects** — operation by
operation, each by its lemma. -/
theorem isSteady_run (op : RegistryOp) (b : Workbench) :
    IsSteady b.registry b.workspace.contents.count op.run := by
  cases op with
  | declareTable config => exact isSteady_run_of_declared? rfl b.registry
  | declareLogStream config => exact isSteady_run_of_declared? rfl b.registry
  | declareIdentityPool config => exact isSteady_run_of_declared? rfl b.registry
  | declareApplication config =>
    exact (Workbench.isSteady_declareApplication _ b.registry config).map
      (RegistryReply.ofResult .application)
  | setApplication app =>
    exact (Workbench.isSteady_setApplication _ b.registry app).map
      (RegistryReply.ofResult fun () => .done)
  | putResource resource =>
    exact (Workbench.isSteady_putResource _ b.registry resource).map
      (RegistryReply.ofResult fun () => .done)
  | route handler spec =>
    let pending := { b.registry.pending handler.id with route := some spec.attributes }
    exact Workbench.isSteady_reconcile _ (RegistryReply.handler handler)
      (b.registry.setPending handler.id pending) handler
  | auth handler spec =>
    let pending := { b.registry.pending handler.id with auth := some spec.descriptor }
    exact Workbench.isSteady_reconcile _ (RegistryReply.handler handler)
      (b.registry.setPending handler.id pending) handler
  | middleware handler =>
    exact ⟨⟨.handler handler, b.registry.appendMiddleware handler,
      [.middlewareDeclared handler.name], []⟩, fun w _ => rfl⟩
  | appendRoute record => exact .of_forall .done (b.registry.appendRoute record) fun _ => rfl
  | editRoute handler edit =>
    exact .of_forall (.edited (b.registry.findRoute? handler).isSome)
      (b.registry.updateRoute handler (·.edit edit)) fun _ => rfl
  | reset => exact .of_forall .done b.registry.reset fun _ => rfl

/-- **The events that an operation reports**: what the `journal` has after it and had not before. -/
def events (op : RegistryOp) (b : Workbench) : List Event :=
  (op.run b).2.workspace.journal.drop b.workspace.journal.length

end RegistryOp

/-! ## Alike workbenches -/

namespace Workbench

/-- **The same registry beside as many objects**: what the objects contain and what was reported may
differ. -/
structure Alike (b b' : Workbench) : Prop where
  registry : b.registry = b'.registry
  count : b.workspace.contents.count = b'.workspace.contents.count

namespace Alike

variable {b b' : Workbench}

/-- **`Alike` workbenches serve an operation alike**: with the same reply and the same events, and
they stay alike. -/
theorem run (h : b.Alike b') (op : RegistryOp) :
    (op.run b).1 = (op.run b').1 ∧ op.events b = op.events b' ∧
      (op.run b).2.Alike (op.run b').2 := by
  obtain ⟨f, hf⟩ := op.isSteady_run b
  have hrun : op.run b = f.leave b.workspace := hf b.workspace rfl
  have hrun' : op.run b' = f.leave b'.workspace := by
    rw [← hf b'.workspace h.count.symm, h.registry]
  refine ⟨by rw [hrun, hrun']; rfl, ?_, ?_⟩
  · rw [RegistryOp.events, RegistryOp.events, hrun, hrun']
    simp only [Footprint.leave, List.drop_left]
  · rw [hrun, hrun']
    exact ⟨rfl, Contents.count_foldl_make h.count f.made⟩

end Alike

end Workbench

/-! ## Calls

A caller has operations served and asks queries, in any order. -/

namespace Registry

/-- **A call on a registry**: an operation to serve, or a query that changes nothing. -/
inductive Call where
  | serve (op : RegistryOp)
  | ask (query : Query)

/-- **What a caller gets to see of a call**: reply and events of an operation, the answer of a
query. -/
inductive Response where
  | served (reply : RegistryReply) (events : List Event)
  | answered (answer : Answer)

end Registry

namespace Workbench

/-- Respond to one call. -/
def respond (b : Workbench) : Registry.Call → Registry.Response × Workbench
  | .serve op => (.served (op.run b).1 (op.events b), (op.run b).2)
  | .ask query => (.answered (b.registry.answer query), b)

/-- **The responses to calls**, one after another. -/
def responses (b : Workbench) : List Registry.Call → List Registry.Response
  | [] => []
  | call :: calls => (b.respond call).1 :: (b.respond call).2.responses calls

variable {b b' : Workbench}

/-- `Alike` workbenches respond to a call alike — a query reads the registry alone. -/
theorem Alike.respond (h : b.Alike b') (call : Registry.Call) :
    (b.respond call).1 = (b'.respond call).1 ∧ (b.respond call).2.Alike (b'.respond call).2 := by
  cases call with
  | serve op =>
    obtain ⟨hreply, hevents, hnext⟩ := h.run op
    exact ⟨congrArg₂ Registry.Response.served hreply hevents, hnext⟩
  | ask query =>
    refine ⟨?_, h⟩
    rw [Workbench.respond, Workbench.respond, h.registry]

/-- **Alike workbenches are indistinguishable** — whatever calls follow, since `Alike` is kept by
each. -/
theorem Alike.responses (h : b.Alike b') (calls : List Registry.Call) :
    b.responses calls = b'.responses calls := by
  induction calls generalizing b b' with
  | nil => rfl
  | cons call calls ih =>
    obtain ⟨hresponse, hnext⟩ := h.respond call
    exact congrArg₂ List.cons hresponse (ih hnext)

/-! ## A registry begun anew -/

/-- A `reset` leaves a new registry, and everything beside it as it is. -/
theorem reset_alike (b : Workbench) {w : Workspace}
    (hcount : w.contents.count = b.workspace.contents.count) :
    (RegistryOp.reset.run b).2.Alike (new b.registry.settings w) := ⟨rfl, hcount.symm⟩

/-- **A reset registry is indistinguishable from a new one** with its settings — whatever was
declared, decorated and registered before, and whichever of the handlers, names and handles of that
time are used again, every call is responded to alike.  The new registry may stand beside any
workspace with as many objects, so that new objects get the same numbers. -/
theorem responses_reset (b : Workbench) (w : Workspace)
    (hcount : w.contents.count = b.workspace.contents.count) (calls : List Registry.Call) :
    (RegistryOp.reset.run b).2.responses calls = (new b.registry.settings w).responses calls :=
  (b.reset_alike hcount).responses calls

/-- A handler that was given a route and an authorization, and a name that was taken, in a strict
registry: after the reset a new authorization waits for a route, and the name is free. -/
theorem responses_reset_of_reused :
    let h := Handler.echo 0 "list"
    let decorated := (new { strict := true } {}).after
      [.auth h { cognito := some true }, .route h { path := "/list" }]
    let b := decorated.after [.declareTable { name := "users" }]
    (decorated.registry.findRoute? h.id).isSome = true ∧
      b.workspace.contents.count .table = 1 ∧
      (RegistryOp.reset.run b).2.responses
        [.serve (.auth h {}), .ask (.findRoute h.id), .serve (.declareTable { name := "users" })] =
        [.served (.handler h) [], .answered (.route none),
          .served (.resource (.table ⟨1, { name := "users" }⟩))
            [.resourceDeclared "users" .table]] := by
  intro h decorated b
  have hvalid : ({ name := "users" } : TableConfig).validate = .ok () :=
    TableConfig.validate_eq_ok_iff.2 ⟨by decide, by decide⟩
  have hdeclare : ∀ free : Workbench, free.registry.index = {} →
      let table : Resource := .table ⟨free.workspace.contents.tables.size, { name := "users" }⟩
      (RegistryOp.declareTable { name := "users" }).run free =
        (.resource table, ((free.report (.resourceDeclared "users" .table)).modifyRegistry
          (·.putResource table)).modifyContents Contents.newTable) := by
    intro free hindex
    simp only [RegistryOp.run, declareResource, declareTable, hvalid, putResource, hindex,
      Std.HashMap.getElem?_empty]
    rfl
  have hcontents : b.workspace.contents = ({} : Contents).newTable := by
    simp only [b, after, List.foldl, hdeclare decorated rfl]
    rfl
  let w : Workspace := { contents := ({} : Contents).newTable }
  have hcount : w.contents.count = b.workspace.contents.count := congrArg _ hcontents.symm
  refine ⟨rfl, congrArg (·.count .table) hcontents, (responses_reset b w hcount _).trans ?_⟩
  simp only [responses, respond, RegistryOp.events,
    hdeclare ((RegistryOp.auth h {}).run (new b.registry.settings w)).2 rfl]
  rfl

end Workbench

end BackendPlan
