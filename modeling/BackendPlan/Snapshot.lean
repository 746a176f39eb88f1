import BackendPlan.Registry.Basic

/-!
# Snapshot — what a registry can be asked, and its model for tools downstream

A snapshot is what a registry declares, as plain data: configurations and no contents, routes with
the names of their placeholders, handlers by identity and name.  It is written as JSON with the
fields in declared order; what is absent or empty is left out where the reader can tell.

A `Registry.Query` reads a registry and changes nothing.  Everything a registry shows is an answer
to one; the index of names and what is pending for handlers have no query of their own.
-/

namespace BackendPlan

/-! ## Snapshots -/

/-- A handler as data: without its script. -/
structure HandlerSummary where
  id : HandlerId
  name : String
deriving DecidableEq, Repr

/-- A resource as data: without the number of its object. -/
structure ResourceSummary where
  name : String
  kind : ResourceKind
  config : Json
deriving DecidableEq, Repr

/-- A route as data, with the names of its placeholders. -/
structure RouteSummary where
  path : String
  methods : List String
  isPublic : Bool
  handler : HandlerSummary
  auth : Option AuthDescriptor
  pathParams : List String
deriving DecidableEq, Repr

/-- **The declarations of a registry, as data**: a function of what is declared, and of no
contents. -/
structure Snapshot where
  application : Option Application
  resources : List ResourceSummary
  routes : List RouteSummary
  middlewares : List HandlerSummary
deriving DecidableEq, Repr

/-! ## Taking a snapshot -/

def Handler.summary (h : Handler) : HandlerSummary := ⟨h.id, h.name⟩

def Resource.summary (r : Resource) : ResourceSummary := ⟨r.name, r.kind, r.configJson⟩

def Route.summary (r : Route) : RouteSummary where
  path := r.path
  methods := r.methods
  isPublic := r.isPublic
  handler := ⟨r.handler, r.handlerName⟩
  auth := r.auth
  pathParams := r.params

/-- **The snapshot of a registry** — in the order of its declarations. -/
def Registry.snapshot (r : Registry) : Snapshot where
  application := r.application
  resources := r.resources.toList.map Resource.summary
  routes := r.routes.map Route.summary
  middlewares := r.middlewares.map Handler.summary

/-! ## Writing

The texts of identities are a parameter, for tools that show handlers by labels of their own. -/

def HandlerSummary.written (label : HandlerId → String) (h : HandlerSummary) : Json :=
  .obj [("id", .str (label h.id)), ("name", .str h.name)]

def ResourceSummary.written (r : ResourceSummary) : Json :=
  .obj [("name", .str r.name), ("kind", r.kind.written), ("config", r.config)]

/-- A route as written — no authorization and no placeholders are left out. -/
def RouteSummary.written (label : HandlerId → String) (r : RouteSummary) : Json :=
  .obj ([("path", .str r.path), ("methods", .arr (r.methods.map .str)),
    ("public", .bool r.isPublic),
      ("handler", r.handler.written label)] ++
    (r.auth.map fun auth => ("auth", auth.written)).toList ++
    if r.pathParams.isEmpty then [] else [("path_params", .arr (r.pathParams.map .str))])

namespace Snapshot

/-- The snapshot as written, identities by `label`. -/
def writtenWith (label : HandlerId → String) (s : Snapshot) : Json :=
  .obj
    [("application", (s.application.map Application.written).getD .null),
      ("resources", .arr (s.resources.map ResourceSummary.written)),
      ("routes", .arr (s.routes.map (RouteSummary.written label))),
      ("middlewares", .arr (s.middlewares.map (HandlerSummary.written label)))]

/-- **The snapshot as written**: identities by their text, fields in declared order. -/
def written (s : Snapshot) : Json := s.writtenWith HandlerId.text

def toJson (s : Snapshot) : Json := s.written.canonical

def text (s : Snapshot) : String := s.written.prettyText

/-- The routes that are public, in declared order. -/
def publicRoutes (s : Snapshot) : List RouteSummary := s.routes.filter (·.isPublic)

end Snapshot

/-! ## Queries -/

namespace Registry

/-- **What a registry can be asked.** -/
inductive Query where
  | settings
  | application
  | resource (name : String)
  | resources
  | findRoute (handler : HandlerId)
  | routes
  | middlewares
  | snapshot

inductive Answer where
  | settings (settings : Settings)
  | application (current : Option Application)
  | resource (found : Option Resource)
  | resources (all : List Resource)
  | route (found : Option Route)
  | routes (all : List Route)
  | middlewares (all : List Handler)
  | snapshot (taken : Snapshot)

/-- **The answer of a registry** — asking changes nothing. -/
def answer (r : Registry) : Query → Answer
  | .settings => .settings r.settings
  | .application => .application r.application
  | .resource name => .resource (r.resource? name)
  | .resources => .resources r.resources.toList
  | .findRoute handler => .route (r.findRoute? handler)
  | .routes => .routes r.routes
  | .middlewares => .middlewares r.middlewares
  | .snapshot => .snapshot r.snapshot

end Registry

end BackendPlan
