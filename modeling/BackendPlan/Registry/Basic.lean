import BackendPlan.Application
import BackendPlan.Handler
import BackendPlan.Resource
import BackendPlan.Route
import Std.Data.HashMap

/-!
# Registry/Basic — the store of all declarations

A registry owns the records of what was declared: one application, resources by name in the order of
their first declaration, routes and middlewares in order.  Beside them it keeps, for every handler,
the route and the authorization last declared for it, so that the two may be declared in either
order.

* `putResource` — a name keeps its slot; the index of names and the list of resources move in step.
* `updateRoute` — a change reaches the first record of its handler and no other.
* `reset` — every declaration is dropped, what is pending too.
-/

namespace BackendPlan

structure RouteAttributes where
  path : String
  methods : List String
  isPublic : Bool
deriving DecidableEq, Repr

/-- **What was declared for a handler**: whether or not it has a record yet, and kept when it gets
one. -/
structure Pending where
  route : Option RouteAttributes := none
  auth : Option AuthDescriptor := none
deriving DecidableEq, Repr

/-- **The declarations of a backend** — `index` has the place of each name in `resources`, and moves
in step with it. -/
structure Registry where
  settings : Settings := {}
  application : Option Application := none
  resources : Array Resource := #[]
  /-- The place of each name in `resources`. -/
  index : Std.HashMap String Nat := {}
  routes : List Route := []
  middlewares : List Handler := []
  pending : HandlerId → Pending := fun _ => {}

namespace Registry

def withSettings (settings : Settings) : Registry := { settings := settings }

/-- **Drop every declaration**, what is `pending` for handlers too; the settings stay. -/
def reset (r : Registry) : Registry :=
  { r with
    application := none
    resources := #[]
    index := {}
    routes := []
    middlewares := []
    pending := fun _ => {} }

/-! ## Resources -/

/-- The resource of a name: what the `index` leads to. -/
def resource? (r : Registry) (name : String) : Option Resource :=
  r.index[name]?.bind fun i => r.resources[i]?

/-- **Put a resource in the slot of its name**, or in a new one at the end: a name keeps its
slot. -/
def putResource (r : Registry) (resource : Resource) : Registry :=
  match r.index[resource.name]? with
  | some i => { r with resources := r.resources.setIfInBounds i resource }
  | none =>
    { r with
      index := r.index.insert resource.name r.resources.size
      resources := r.resources.push resource }

/-! ## Routes -/

def findRoute? (r : Registry) (id : HandlerId) : Option Route := Route.findFirst? id r.routes

/-- **Add a record at the end**, whatever records there are, and whatever is `pending` for its
handler. -/
def appendRoute (r : Registry) (route : Route) : Registry :=
  { r with routes := r.routes ++ [route] }

/-- Change the first record of handler `id` by `f`, and no other. -/
def updateRoute (r : Registry) (id : HandlerId) (f : Route → Route) : Registry :=
  { r with routes := Route.updateFirst id f r.routes }

/-- Add a middleware at the end; a handler may be there any number of times. -/
def appendMiddleware (r : Registry) (handler : Handler) : Registry :=
  { r with middlewares := r.middlewares ++ [handler] }

def setPending (r : Registry) (id : HandlerId) (pending : Pending) : Registry :=
  { r with pending := fun other => if other = id then pending else r.pending other }

@[simp] theorem pending_setPending_self (r : Registry) (id : HandlerId) (p : Pending) :
    (r.setPending id p).pending id = p := by
  simp [setPending]

theorem pending_setPending_of_ne (r : Registry) {id other : HandlerId} (p : Pending)
    (h : other ≠ id) : (r.setPending id p).pending other = r.pending other := by
  simp [setPending, h]

end Registry

end BackendPlan
