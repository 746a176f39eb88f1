import BackendPlan.Registry.Basic
import BackendPlan.Route
import BackendPlan.Workspace

/-!
# Registry/Workbench — declaring the application, the resources, and routes for handlers

Declaring a resource changes a registry, makes an object and reports events.  A `Workbench` holds
the registry together with the workspace, so that an operation is one function from workbench to
workbench.

A **declaration** checks its configuration, makes what it declares, and registers it.  Registering
is where a strict registry refuses: a second application, or a second resource of one name, of
whatever kind.  Otherwise the later declaration takes the place of the earlier one.  A refusal
leaves the workbench as it was, events included.

A **decoration** writes down what was declared for a handler and then **reconciles**: the first
record of the handler takes over everything pending, or, if there is none, a pending route becomes a
record.  An authorization without a route stays pending, so route and authorization meet in one
record, whichever was declared first.  Each decoration gives back the handler it was given, so that
decorations can be layered.
-/

namespace BackendPlan

/-- **A registry beside the contents of all objects and the journal**: what an operation on the
registry may change. -/
structure Workbench where
  registry : Registry
  workspace : Workspace

namespace Workbench

def report (b : Workbench) (e : Event) : Workbench := { b with workspace := b.workspace.report e }

def modifyRegistry (b : Workbench) (f : Registry → Registry) : Workbench :=
  { b with registry := f b.registry }

def modifyContents (b : Workbench) (f : Contents → Contents) : Workbench :=
  { b with workspace := { b.workspace with contents := f b.workspace.contents } }

@[simp] theorem registry_report (b : Workbench) (e : Event) : (b.report e).registry = b.registry :=
  rfl

@[simp] theorem registry_modifyRegistry (b : Workbench) (f : Registry → Registry) :
    (b.modifyRegistry f).registry = f b.registry := rfl

@[simp] theorem registry_modifyContents (b : Workbench) (f : Contents → Contents) :
    (b.modifyContents f).registry = b.registry := rfl

end Workbench

/-! ## Registering -/

namespace Workbench

/-- **Make the application current**, unless the registry is strict and has one; only a replacement
is an event. -/
def setApplication (b : Workbench) (app : Application) : Except DeclareError Unit × Workbench :=
  match b.registry.application with
  | some current =>
    if b.registry.settings.strict then (.error (.collision "application" current.name), b)
    else
      (.ok (), (b.report (.applicationReplaced current.name app.name)).modifyRegistry
        fun r => { r with application := some app })
  | none => (.ok (), b.modifyRegistry fun r => { r with application := some app })

/-- **Register a resource** under its name, unless the registry is strict and has the name, of
whatever kind. -/
def putResource (b : Workbench) (resource : Resource) : Except DeclareError Unit × Workbench :=
  match b.registry.index[resource.name]? with
  | some _ =>
    if b.registry.settings.strict then (.error (.collision "resource" resource.name), b)
    else
      (.ok (), (b.report (.resourceOverwritten resource.name resource.kind)).modifyRegistry
        (·.putResource resource))
  | none =>
    (.ok (), (b.report (.resourceDeclared resource.name resource.kind)).modifyRegistry
      (·.putResource resource))

/-! ## Declaring -/

/-- The application of a configuration, with stage and region from the `settings` where it has
none. -/
def applicationOf (settings : Settings) (config : AppConfig) : Application where
  name := config.name
  stage := config.stage.getD settings.defaultStage
  region := config.region.getD settings.defaultRegion
  config := config.options

/-- **Declare the application**: `validate` comes before the collision, so a blank name is what a
strict registry complains of first. -/
def declareApplication (b : Workbench) (config : AppConfig) :
    Except DeclareError Application × Workbench :=
  match config.validate with
  | .error e => (.error e, b)
  | .ok () =>
    let app := applicationOf b.registry.settings config
    match b.setApplication app with
    | (.error e, b) => (.error e, b)
    | (.ok (), b) => (.ok app, b.report (.applicationDeclared app.name app.stage app.region))

/-- **Declare a resource of any kind**: `check` its configuration, register it, and `make` its
object; a refusal on the way leaves everything as it was. -/
def declareResource {α : Type} (b : Workbench) (check : Except DeclareError Unit)
    (resource : Resource) (handle : α) (make : Contents → Contents) :
    Except DeclareError α × Workbench :=
  match check with
  | .error e => (.error e, b)
  | .ok () =>
    match b.putResource resource with
    | (.error e, b) => (.error e, b)
    | (.ok (), b) => (.ok handle, b.modifyContents make)

/-- **Declare a table**: an object of its own, empty, under the name in the registry. -/
def declareTable (b : Workbench) (config : TableConfig) : Except DeclareError Table × Workbench :=
  let table : Table := ⟨b.workspace.contents.tables.size, config⟩
  b.declareResource config.validate (.table table) table Contents.newTable

/-- **Declare a log stream**, as `declareTable` does a table. -/
def declareLogStream (b : Workbench) (config : LogStreamConfig) :
    Except DeclareError LogStream × Workbench :=
  let stream : LogStream := ⟨b.workspace.contents.logs.size, config⟩
  b.declareResource config.validate (.logStream stream) stream Contents.newLog

/-- **Declare an identity pool**, as `declareTable` does a table. -/
def declareIdentityPool (b : Workbench) (config : IdentityPoolConfig) :
    Except DeclareError IdentityPool × Workbench :=
  let pool : IdentityPool := ⟨b.workspace.contents.pools, config⟩
  b.declareResource config.validate (.identityPool pool) pool Contents.newPool

end Workbench

/-! ## Decorations -/

/-- **The record with everything pending for its handler taken over**: what is not pending stays. -/
def Route.absorb (r : Route) (pending : Pending) : Route :=
  let r := match pending.route with
    | some attrs =>
      { r with path := attrs.path, methods := attrs.methods, isPublic := attrs.isPublic }
    | none => r
  match pending.auth with
  | some auth => { r with auth := some auth }
  | none => r

@[simp] theorem Route.handler_absorb (r : Route) (pending : Pending) :
    (r.absorb pending).handler = r.handler := by
  unfold Route.absorb
  split <;> split <;> rfl

def RouteSpec.attributes (spec : RouteSpec) : RouteAttributes :=
  ⟨spec.path, spec.resolvedMethods, spec.isPublic⟩

namespace Workbench

/-- **Bring the route list in line with what is pending for a handler**: its first record absorbs
it, or a pending route becomes a record; an authorization alone changes nothing. -/
def reconcile (b : Workbench) (h : Handler) : Workbench :=
  let pending := b.registry.pending h.id
  match b.registry.findRoute? h.id with
  | some record =>
    (b.modifyRegistry fun r => r.updateRoute h.id (·.absorb pending)).report
      (.routeUpdated h.name (record.absorb pending).path)
  | none =>
    match pending.route with
    | some attrs =>
      (b.report (.routeDeclared h.name attrs.path)).modifyRegistry fun r =>
        r.appendRoute
          { path := attrs.path
            methods := attrs.methods
            isPublic := attrs.isPublic
            handler := h.id
            handlerName := h.name
            auth := pending.auth }
    | none => b

/-- **Declare a handler as a route**, and get the handler back, for further decorations. -/
def route (b : Workbench) (h : Handler) (spec : RouteSpec) : Handler × Workbench :=
  let b := b.modifyRegistry fun r =>
    r.setPending h.id { r.pending h.id with route := some spec.attributes }
  (h, b.reconcile h)

/-- **Attach authorization to a handler's route**, now or once the route is declared. -/
def auth (b : Workbench) (h : Handler) (spec : AuthSpec) : Handler × Workbench :=
  let b := b.modifyRegistry fun r =>
    r.setPending h.id { r.pending h.id with auth := some spec.descriptor }
  (h, b.reconcile h)

/-- **Add a handler to the middlewares**, as often as it is declared. -/
def middleware (b : Workbench) (h : Handler) : Handler × Workbench :=
  (h, (b.report (.middlewareDeclared h.name)).modifyRegistry (·.appendMiddleware h))

end Workbench

end BackendPlan
