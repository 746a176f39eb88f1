import BackendPlan.Proofs.Decoration.Settle

/-!
# Proofs/Decoration/Convergence — decorations meet, repeat harmlessly, and stay local

A route and an authorization of one handler may be declared in either order, and either may be
declared again: the registry ends up the same.  None of this asks where the registry comes from — it
may hold several records of the handler, a record whose handler was edited away, or pending values
that no record shows.

* `decorations_converge` — the two orders meet, repetition changes nothing, and the reach is a
  `Frame`.
* `frame_decorate` — one decoration touches the first record of its handler or adds one at the end.
-/

namespace BackendPlan

/-! ## The reach of a decoration -/

/-- **A change of a record list that concerns one handler**: its first record changes in place, or,
if it has none, at most one record is added at the end. -/
inductive Route.LocalChange (id : HandlerId) : List Route → List Route → Prop where
  | inPlace (front : List Route) (old new : Route) (back : List Route)
      (others : ∀ r ∈ front, r.handler ≠ id) (first : old.handler = id)
      (handler : new.handler = old.handler) (handlerName : new.handlerName = old.handlerName) :
      LocalChange id (front ++ old :: back) (front ++ new :: back)
  | atEnd (routes : List Route) (added : Option Route) (others : ∀ r ∈ routes, r.handler ≠ id)
      (handler : ∀ r ∈ added, r.handler = id) :
      LocalChange id routes (routes ++ added.toList)

/-- **Two registries that differ at most in the declarations of one handler** — every other part is
the same, and the records by a `LocalChange`. -/
structure Registry.Frame (id : HandlerId) (r r' : Registry) : Prop where
  settings : r'.settings = r.settings
  application : r'.application = r.application
  resources : r'.resources = r.resources
  index : r'.index = r.index
  middlewares : r'.middlewares = r.middlewares
  pending : ∀ other, other ≠ id → r'.pending other = r.pending other
  routes : Route.LocalChange id r.routes r'.routes

namespace Route

@[simp] theorem handlerName_absorb (r : Route) (p : Pending) :
    (r.absorb p).handlerName = r.handlerName := by
  unfold absorb
  split <;> split <;> rfl

/-- A `LocalChange` behind records of other handlers. -/
theorem LocalChange.cons {id : HandlerId} {rs rs' : List Route} {r : Route} (hr : r.handler ≠ id)
    (h : LocalChange id rs rs') : LocalChange id (r :: rs) (r :: rs') := by
  cases h with
  | inPlace front old new back others first handler handlerName =>
    exact .inPlace (r :: front) old new back (List.forall_mem_cons.mpr ⟨hr, others⟩) first handler
      handlerName
  | atEnd _ added others handler =>
    exact .atEnd (r :: rs) added (List.forall_mem_cons.mpr ⟨hr, others⟩) handler

/-- **Settling is a `LocalChange`** — by induction on the records up to the first of the handler. -/
theorem localChange_settle (h : Handler) (p : Pending) (routes : List Route) :
    LocalChange h.id routes (settle h p routes) := by
  induction routes with
  | nil =>
    rw [settle_of_none rfl]
    exact .atEnd [] (p.record h) nofun fun _ => Pending.handler_of_mem_record
  | cons r rs ih =>
    by_cases hr : r.handler = h.id
    · rw [settle_cons_self p rs hr]
      exact .inPlace [] r (r.absorb p) rs nofun hr (handler_absorb r p) (handlerName_absorb r p)
    · rw [settle_cons_of_ne p rs hr]
      exact ih.cons hr

end Route

/-- **`decorate` reaches only what is declared for its handler** — whatever else is pending stays
pending. -/
theorem Registry.frame_decorate (r : Registry) (h : Handler) (p : Pending) :
    r.Frame h.id (r.decorate h p) where
  settings := rfl
  application := rfl
  resources := rfl
  index := rfl
  middlewares := rfl
  pending := fun _ => r.pending_decorate_of_ne p
  routes := Route.localChange_settle h p r.routes

/-! ## Convergence -/

namespace Workbench

/-- A `route` on top of an `auth`: both are pending. -/
theorem registry_route_auth (b : Workbench) (h : Handler) (spec : RouteSpec) (auth : AuthSpec) :
    ((b.auth h auth).2.route h spec).2.registry =
      b.registry.decorate h ⟨some spec.attributes, some auth.descriptor⟩ := by
  rw [registry_route, registry_auth, Registry.pending_decorate_self]
  exact b.registry.decorate_decorate h ⟨nofun, nofun⟩

/-- An `auth` on top of a `route`: both are pending. -/
theorem registry_auth_route (b : Workbench) (h : Handler) (spec : RouteSpec) (auth : AuthSpec) :
    ((b.route h spec).2.auth h auth).2.registry =
      b.registry.decorate h ⟨some spec.attributes, some auth.descriptor⟩ := by
  rw [registry_auth, registry_route, Registry.pending_decorate_self]
  exact b.registry.decorate_decorate h ⟨nofun, nofun⟩

theorem registry_route_route (b : Workbench) (h : Handler) (spec : RouteSpec) :
    ((b.route h spec).2.route h spec).2.registry = (b.route h spec).2.registry := by
  rw [registry_route (b.route h spec).2, registry_route b, Registry.pending_decorate_self]
  exact b.registry.decorate_decorate h (Pending.Within.refl _)

theorem registry_auth_auth (b : Workbench) (h : Handler) (auth : AuthSpec) :
    ((b.auth h auth).2.auth h auth).2.registry = (b.auth h auth).2.registry := by
  rw [registry_auth (b.auth h auth).2, registry_auth b, Registry.pending_decorate_self]
  exact b.registry.decorate_decorate h (Pending.Within.refl _)

/-- **Decorations converge.**  From any workbench: a route and an authorization of one handler lead
to the same registry in either order, declaring either twice is declaring it once, and neither
reaches beyond what is declared for the handler. -/
theorem decorations_converge (b : Workbench) (h : Handler) (spec : RouteSpec) (auth : AuthSpec) :
    ((b.route h spec).2.auth h auth).2.registry = ((b.auth h auth).2.route h spec).2.registry ∧
      ((b.route h spec).2.route h spec).2.registry = (b.route h spec).2.registry ∧
      ((b.auth h auth).2.auth h auth).2.registry = (b.auth h auth).2.registry ∧
      b.registry.Frame h.id (b.route h spec).2.registry ∧
      b.registry.Frame h.id (b.auth h auth).2.registry := by
  refine ⟨?_, registry_route_route b h spec, registry_auth_auth b h auth, ?_, ?_⟩
  · rw [registry_auth_route, registry_route_auth]
  · rw [registry_route]
    exact b.registry.frame_decorate h _
  · rw [registry_auth]
    exact b.registry.frame_decorate h _

end Workbench

end BackendPlan
