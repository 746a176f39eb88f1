import BackendPlan.Session

/-!
# Proofs/Decoration/Settle — what a decoration makes of a registry

A decoration does two things to a registry: it writes down what is pending for its handler, and it
**settles** the route list by it.  Everything about decorations follows from one law of settling:

* `settle_settle` — settling by more forgets that one has settled by less.
* `decorate_decorate` — hence so does decorating, and decorations meet, whichever came first.
* `registry_route`, `registry_auth` — both declarations decorate.
-/

namespace BackendPlan

/-! ## The record of what is pending -/

namespace Pending

/-- The record that a pending route becomes, carrying the pending authorization. -/
def record (p : Pending) (h : Handler) : Option Route :=
  p.route.map fun attrs =>
    { path := attrs.path
      methods := attrs.methods
      isPublic := attrs.isPublic
      handler := h.id
      handlerName := h.name
      auth := p.auth }

theorem handler_of_mem_record {p : Pending} {h : Handler} {r : Route}
    (hr : r ∈ p.record h) : r.handler = h.id := by
  obtain ⟨attrs, -, rfl⟩ := Option.map_eq_some_iff.mp hr
  rfl

/-- **Whatever is pending in `q` is overridden by `p`** — the order in which pending values grow. -/
structure Within (q p : Pending) : Prop where
  route : p.route = none → q.route = none
  auth : p.auth = none → q.auth = none

theorem Within.refl (p : Pending) : p.Within p := ⟨id, id⟩

end Pending

namespace Route

/-- **What was absorbed is forgotten** by a record that absorbs more — each part is written over, or
was never there. -/
theorem absorb_absorb (r : Route) {p q : Pending} (h : q.Within p) :
    (r.absorb q).absorb p = r.absorb p := by
  obtain ⟨pr, pa⟩ := p
  obtain ⟨qr, qa⟩ := q
  cases pr with
  | none =>
    obtain rfl : qr = none := h.route rfl
    cases pa with
    | none =>
      obtain rfl : qa = none := h.auth rfl
      rfl
    | some auth => cases qa <;> rfl
  | some attrs =>
    cases pa with
    | none =>
      obtain rfl : qa = none := h.auth rfl
      cases qr <;> rfl
    | some auth => cases qr <;> cases qa <;> rfl

/-- A `record` made from less absorbs the rest. -/
theorem record_absorb {h : Handler} {p q : Pending} {r : Route} (hle : q.Within p)
    (hr : q.record h = some r) : p.record h = some (r.absorb p) := by
  obtain ⟨pr, pa⟩ := p
  obtain ⟨attrs, hq, rfl⟩ := Option.map_eq_some_iff.mp hr
  cases pr with
  | none =>
    have hnone : q.route = none := hle.route rfl
    rw [hnone] at hq
    exact absurd hq nofun
  | some new =>
    cases pa with
    | none =>
      have hauth : q.auth = none := hle.auth rfl
      rw [hauth]
      rfl
    | some auth => rfl

/-! ## Settling a list of records -/

/-- **The records settled by what is pending for a handler**: its first record absorbs `p`, or, if
it has none, a pending route is added as one. -/
def settle (h : Handler) (p : Pending) (routes : List Route) : List Route :=
  match findFirst? h.id routes with
  | some _ => updateFirst h.id (·.absorb p) routes
  | none => routes ++ (p.record h).toList

theorem settle_of_some {h : Handler} {p : Pending} {routes : List Route} {r : Route}
    (hr : findFirst? h.id routes = some r) :
    settle h p routes = updateFirst h.id (·.absorb p) routes := by rw [settle, hr]

theorem settle_of_none {h : Handler} {p : Pending} {routes : List Route}
    (hr : findFirst? h.id routes = none) :
    settle h p routes = routes ++ (p.record h).toList := by rw [settle, hr]

theorem findFirst?_cons_self {id : HandlerId} {r : Route} (rs : List Route) (h : r.handler = id) :
    findFirst? id (r :: rs) = some r := by
  rw [findFirst?, List.find?_cons_of_pos (by simpa using h)]

theorem findFirst?_cons_of_ne {id : HandlerId} {r : Route} (rs : List Route) (h : r.handler ≠ id) :
    findFirst? id (r :: rs) = findFirst? id rs := by
  rw [findFirst?, List.find?_cons_of_neg (by simpa using h), findFirst?]

/-- `settle` passes over a record of another handler. -/
theorem settle_cons_of_ne {h : Handler} (p : Pending) {r : Route} (rs : List Route)
    (hr : r.handler ≠ h.id) : settle h p (r :: rs) = r :: settle h p rs := by
  cases hf : findFirst? h.id rs with
  | none =>
    rw [settle_of_none hf, settle_of_none ((findFirst?_cons_of_ne rs hr).trans hf)]
    rfl
  | some first =>
    rw [settle_of_some hf, settle_of_some ((findFirst?_cons_of_ne rs hr).trans hf), updateFirst,
      if_neg hr]

/-- The first record of the handler absorbs, and the rest is not looked at. -/
theorem settle_cons_self {h : Handler} (p : Pending) {r : Route} (rs : List Route)
    (hr : r.handler = h.id) : settle h p (r :: rs) = r.absorb p :: rs := by
  rw [settle_of_some (findFirst?_cons_self rs hr), updateFirst, if_pos hr]

/-- **Settling by more forgets that one has settled by less** — whether the handler had a record,
the first settling made one, or only the second does. -/
theorem settle_settle (h : Handler) {p q : Pending} (hle : q.Within p) (routes : List Route) :
    settle h p (settle h q routes) = settle h p routes := by
  induction routes with
  | nil =>
    cases hq : q.record h with
    | none => rw [show settle h q [] = [] by rw [settle_of_none rfl, hq]; rfl]
    | some r =>
      have hr : r.handler = h.id := Pending.handler_of_mem_record hq
      rw [show settle h q [] = [r] by rw [settle_of_none rfl, hq]; rfl, settle_cons_self p [] hr,
        settle_of_none rfl, record_absorb hle hq]
      rfl
  | cons r rs ih =>
    by_cases hr : r.handler = h.id
    · have hq : (r.absorb q).handler = h.id := (handler_absorb r q).trans hr
      rw [settle_cons_self q rs hr, settle_cons_self p rs hq, settle_cons_self p rs hr,
        absorb_absorb r hle]
    · rw [settle_cons_of_ne q rs hr, settle_cons_of_ne p _ hr, settle_cons_of_ne p rs hr, ih]

end Route

/-! ## Decorating a registry -/

namespace Registry

/-- **The registry once `p` is pending for a handler** — written down, and settled. -/
def decorate (r : Registry) (h : Handler) (p : Pending) : Registry :=
  { r.setPending h.id p with routes := Route.settle h p r.routes }

@[simp] theorem pending_decorate_self (r : Registry) (h : Handler) (p : Pending) :
    (r.decorate h p).pending h.id = p := pending_setPending_self r h.id p

theorem pending_decorate_of_ne (r : Registry) {h : Handler} {other : HandlerId} (p : Pending)
    (hne : other ≠ h.id) : (r.decorate h p).pending other = r.pending other :=
  pending_setPending_of_ne r p hne

theorem pending_setPending_setPending (r : Registry) (id : HandlerId) (p q : Pending) :
    ((r.setPending id q).setPending id p).pending = (r.setPending id p).pending := by
  funext other
  by_cases h : other = id
  · rw [h, pending_setPending_self, pending_setPending_self]
  · rw [pending_setPending_of_ne _ _ h, pending_setPending_of_ne _ _ h,
      pending_setPending_of_ne _ _ h]

/-- **A decoration forgets an earlier one with less** — `settle_settle`, with what is pending
written over. -/
theorem decorate_decorate (r : Registry) (h : Handler) {p q : Pending} (hle : q.Within p) :
    (r.decorate h q).decorate h p = r.decorate h p := by
  have hpending : ((r.decorate h q).setPending h.id p).pending = (r.setPending h.id p).pending :=
    pending_setPending_setPending r h.id p q
  have hroutes : Route.settle h p (r.decorate h q).routes = Route.settle h p r.routes :=
    Route.settle_settle h hle r.routes
  calc (r.decorate h q).decorate h p
      = { r with
          pending := ((r.decorate h q).setPending h.id p).pending
          routes := Route.settle h p (r.decorate h q).routes } := rfl
    _ = { r with
          pending := (r.setPending h.id p).pending
          routes := Route.settle h p r.routes } := by rw [hpending, hroutes]
    _ = r.decorate h p := rfl

end Registry

namespace Workbench

theorem registry_reconcile (b : Workbench) (h : Handler) :
    (b.reconcile h).registry =
      { b.registry with routes := Route.settle h (b.registry.pending h.id) b.registry.routes } := by
  unfold reconcile
  cases hf : b.registry.findRoute? h.id with
  | some record =>
    have hs : Route.settle h (b.registry.pending h.id) b.registry.routes =
        Route.updateFirst h.id (·.absorb (b.registry.pending h.id)) b.registry.routes :=
      Route.settle_of_some hf
    rw [hs]
    rfl
  | none =>
    have hs : Route.settle h (b.registry.pending h.id) b.registry.routes =
        b.registry.routes ++ ((b.registry.pending h.id).record h).toList := Route.settle_of_none hf
    rw [hs]
    cases hp : (b.registry.pending h.id).route with
    | some attrs => simp only [Pending.record, hp]; rfl
    | none => simp only [Pending.record, hp, Option.map_none, Option.toList_none, List.append_nil]

/-- **Declaring a route decorates the registry** by the route and the authorization before it — so
the laws of `decorate` are laws of `route`. -/
theorem registry_route (b : Workbench) (h : Handler) (spec : RouteSpec) :
    (b.route h spec).2.registry =
      b.registry.decorate h { b.registry.pending h.id with route := some spec.attributes } := by
  rw [route, registry_reconcile, registry_modifyRegistry, Registry.pending_setPending_self]
  rfl

/-- **Declaring an authorization decorates the registry** by it and by the route before it. -/
theorem registry_auth (b : Workbench) (h : Handler) (spec : AuthSpec) :
    (b.auth h spec).2.registry =
      b.registry.decorate h { b.registry.pending h.id with auth := some spec.descriptor } := by
  rw [auth, registry_reconcile, registry_modifyRegistry, Registry.pending_setPending_self]
  rfl

end Workbench

end BackendPlan
