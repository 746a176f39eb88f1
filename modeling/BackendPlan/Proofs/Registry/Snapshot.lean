import BackendPlan.Proofs.Record.RoundTrip
import BackendPlan.Proofs.Registry.Outcome
import BackendPlan.Proofs.Session.Run
import Mathlib.Data.List.Forall2

/-!
# Proofs/Registry/Snapshot — the snapshot loses nothing

A snapshot is written with what is absent or empty left out, at three levels.  What was there can
still be told: a value **shows** a registry if it holds each of its declarations, in their order,

    registry   —shown by→   value   ←shown by—   registry

and registries that are shown by one value declare the same.

* `Registry.shown_toJson` — the value of the snapshot shows the registry.
* `HandlerSummary.shown_unique`, `ResourceSummary.shown_unique`, `Route.shown_unique` — a value
  shows one handler, resource or route at most.
* `Registry.Reachable.isCanonical` — what runs leave in a registry are values.
* `Registry.snapshot_lossless` — **registries with the same snapshot declare the same**.
-/

namespace BackendPlan

/-! ## Values that show a registry -/

/-- The value shows the handler. -/
structure HandlerSummary.Shown (h : HandlerSummary) (v : Json) : Prop where
  id : v.get? "id" = some h.id.written
  name : v.get? "name" = some (.str h.name)

/-- The value shows the resource: name, kind and the whole of its configuration. -/
structure ResourceSummary.Shown (x : ResourceSummary) (v : Json) : Prop where
  name : v.get? "name" = some (.str x.name)
  kind : v.get? "kind" = some x.kind.written
  config : v.get? "config" = some x.config

/-- The value shows the route: an absent authorization is left out, and so are placeholders if the
path has none. -/
structure Route.Shown (r : Route) (v : Json) : Prop where
  path : v.get? "path" = some (.str r.path)
  methods : v.get? "methods" = some (.arr (r.methods.map .str))
  isPublic : v.get? "public" = some (.bool r.isPublic)
  handler : ∃ handler, v.get? "handler" = some handler ∧
    HandlerSummary.Shown ⟨r.handler, r.handlerName⟩ handler
  auth : v.get? "auth" = r.auth.map fun auth => auth.written.canonical
  pathParams : v.get? "path_params" =
    if pathParams r.path = [] then none else some (.arr ((pathParams r.path).map .str))

/-- The items under `key` show what is listed, one by one and in order. -/
def Json.Lists {α : Type} (Shown : α → Json → Prop) (v : Json) (key : String) (as : List α) :
    Prop :=
  ∃ items, v.get? key = some (.arr items) ∧ List.Forall₂ Shown as items

/-- **The value shows the registry**: the application, and one item for each resource, route and
middleware, in their order. -/
structure Registry.Shown (r : Registry) (v : Json) : Prop where
  application : v.get? "application" =
    some (r.application.elim .null fun app => app.written.canonical)
  resources : v.Lists ResourceSummary.Shown "resources" (r.resources.toList.map Resource.summary)
  routes : v.Lists Route.Shown "routes" r.routes
  middlewares : v.Lists HandlerSummary.Shown "middlewares" (r.middlewares.map Handler.summary)

/-! ## The snapshot shows the registry -/

theorem HandlerSummary.shown_written (h : HandlerSummary) :
    h.Shown (h.written HandlerId.text).canonical := by
  have hnodup : (Members.keys [("id", Json.str h.id.text), ("name", .str h.name)]).Nodup := by
    simp [Members.keys]
  have hget := Json.get?_canonical_obj hnodup
  exact ⟨hget "id", hget "name"⟩

theorem ResourceSummary.shown_written {x : ResourceSummary} (h : x.config.IsCanonical) :
    x.Shown x.written.canonical := by
  have hnodup : (Members.keys [("name", Json.str x.name), ("kind", x.kind.written),
      ("config", x.config)]).Nodup := by
    simp [Members.keys]
  have hget := Json.get?_canonical_obj hnodup
  exact ⟨hget "name", hget "kind", (hget "config").trans (congrArg some h.canonical_eq)⟩

/-- `configJson` of a resource is a value. -/
theorem Resource.isCanonical_configJson (x : Resource) : x.configJson.IsCanonical := by
  cases x <;> exact Json.isCanonical_canonical _

theorem Json.canonical_arr_str (texts : List String) :
    (arr (texts.map .str)).canonical = arr (texts.map .str) := by
  rw [canonical, canonicalItems_eq_map, List.map_map]
  rfl

theorem Route.shown_written (r : Route) :
    r.Shown (r.summary.written HandlerId.text).canonical := by
  have hmethods := Json.canonical_arr_str r.methods
  have hparams := Json.canonical_arr_str (pathParams r.path)
  have hnodup : (Members.keys ([("path", Json.str r.path), ("methods", .arr (r.methods.map .str)),
      ("public", .bool r.isPublic), ("handler", r.summary.handler.written HandlerId.text)] ++
      (r.auth.map fun auth => ("auth", auth.written)).toList ++
      if (pathParams r.path).isEmpty then [] else
        [("path_params", .arr ((pathParams r.path).map .str))])).Nodup := by
    cases r.auth <;> cases pathParams r.path <;> simp [Members.keys]
  have hget := Json.get?_canonical_obj hnodup
  refine ⟨hget "path", (hget "methods").trans (congrArg some hmethods), hget "public",
    ⟨_, hget "handler", HandlerSummary.shown_written _⟩, (hget "auth").trans ?_,
    (hget "path_params").trans ?_⟩
  · cases r.auth <;> cases pathParams r.path <;> rfl
  · have hskip : Members.get? (r.auth.map fun auth => ("auth", auth.written)).toList "path_params" =
        none := by
      cases r.auth <;> rfl
    rw [Members.get?_append, Members.get?_append, hskip]
    by_cases hempty : pathParams r.path = []
    · rw [if_pos hempty, if_pos (List.isEmpty_iff.2 hempty)]
      rfl
    · rw [if_neg hempty, if_neg (mt List.isEmpty_iff.1 hempty)]
      exact congrArg some hparams

/-- Items shown one by one are shown together. -/
theorem forall₂_canonicalItems {α : Type} {Shown : α → Json → Prop} {written : α → Json}
    {as : List α} (h : ∀ a ∈ as, Shown a (written a).canonical) :
    List.Forall₂ Shown as (Json.canonicalItems (as.map written)) := by
  rw [Json.canonicalItems_eq_map, List.map_map, List.forall₂_map_right_iff, List.forall₂_same]
  exact h

/-- **The value of a snapshot shows the registry**, entry by entry — `shown_written`, for each of
the three lists. -/
theorem Registry.shown_toJson (r : Registry) : r.Shown r.snapshot.toJson := by
  have hnodup : (Members.keys [
      ("application", (r.application.map Application.written).getD .null),
      ("resources", .arr (r.snapshot.resources.map ResourceSummary.written)),
      ("routes", .arr (r.snapshot.routes.map (RouteSummary.written HandlerId.text))),
      ("middlewares",
        .arr (r.snapshot.middlewares.map (HandlerSummary.written HandlerId.text)))]).Nodup := by
    simp [Members.keys]
  have hget := Json.get?_canonical_obj hnodup
  have hresources : ∀ x ∈ r.snapshot.resources, x.Shown x.written.canonical := by
    intro x hx
    obtain ⟨resource, -, rfl⟩ := List.mem_map.1 hx
    exact ResourceSummary.shown_written resource.isCanonical_configJson
  have hroutes : List.Forall₂ Route.Shown r.routes
      (Json.canonicalItems (r.snapshot.routes.map (RouteSummary.written HandlerId.text))) := by
    rw [snapshot, List.map_map]
    exact forall₂_canonicalItems fun route _ => route.shown_written
  refine ⟨?_, ⟨_, hget "resources", forall₂_canonicalItems hresources⟩, ⟨_, hget "routes", hroutes⟩,
    ⟨_, hget "middlewares", forall₂_canonicalItems fun h _ => h.shown_written⟩⟩
  refine (hget "application").trans ?_
  cases r.application <;> rfl

/-! ## One value shows one registry

A handler is told by its identity, an authorization by what its reader makes of it. -/

theorem HandlerId.written_injective : Function.Injective written := fun id id' h =>
  Except.ok.inj (id.ofJson_written.symm.trans ((congrArg ofJson h).trans id'.ofJson_written))

theorem ResourceKind.written_injective : Function.Injective written := fun kind kind' h =>
  Except.ok.inj (kind.ofJson_written.symm.trans ((congrArg ofJson h).trans kind'.ofJson_written))

/-- **A value shows at most one handler** — its `id` is read back from its text. -/
theorem HandlerSummary.shown_unique : Relator.LeftUnique HandlerSummary.Shown := by
  rintro ⟨id, name⟩ ⟨id', name'⟩ v h h'
  obtain rfl := HandlerId.written_injective (Option.some.inj (h.id.symm.trans h'.id))
  obtain rfl := Json.str.inj (Option.some.inj (h.name.symm.trans h'.name))
  rfl

/-- **At most one resource** — kinds are written differently, configurations as they are. -/
theorem ResourceSummary.shown_unique : Relator.LeftUnique ResourceSummary.Shown := by
  rintro ⟨name, kind, config⟩ ⟨name', kind', config'⟩ v h h'
  obtain rfl := Json.str.inj (Option.some.inj (h.name.symm.trans h'.name))
  obtain rfl := ResourceKind.written_injective (Option.some.inj (h.kind.symm.trans h'.kind))
  obtain rfl := Option.some.inj (h.config.symm.trans h'.config)
  rfl

/-- **And at most one route** — an absent `auth` is not an authorization that asks for nothing. -/
theorem Route.shown_unique : Relator.LeftUnique Route.Shown := by
  rintro ⟨path, methods, isPublic, handler, handlerName, auth⟩
    ⟨path', methods', isPublic', handler', handlerName', auth'⟩ v h h'
  obtain rfl := Json.str.inj (Option.some.inj (h.path.symm.trans h'.path))
  have hmethods := Json.arr.inj (Option.some.inj (h.methods.symm.trans h'.methods))
  obtain rfl := List.map_injective_iff.2 (fun _ _ => Json.str.inj) hmethods
  obtain rfl := Json.bool.inj (Option.some.inj (h.isPublic.symm.trans h'.isPublic))
  obtain ⟨w, hw, hhandler⟩ := h.handler
  obtain ⟨w', hw', hhandler'⟩ := h'.handler
  obtain rfl := Option.some.inj (hw.symm.trans hw')
  obtain ⟨rfl, rfl⟩ := HandlerSummary.mk.inj (HandlerSummary.shown_unique hhandler hhandler')
  have hauth : Function.Injective fun auth : AuthDescriptor => auth.written.canonical :=
    fun a b hab =>
    Except.ok.inj (a.ofJson_canonical.symm.trans ((congrArg _ hab).trans b.ofJson_canonical))
  obtain rfl := Option.map_injective hauth (h.auth.symm.trans h'.auth)
  rfl

/-- Items that show one thing each list one list. -/
theorem Json.Lists.unique {α : Type} {Shown : α → Json → Prop} (hunique : Relator.LeftUnique Shown)
    {v : Json} {key : String} {as bs : List α} (has : v.Lists Shown key as)
    (hbs : v.Lists Shown key bs) : as = bs := by
  obtain ⟨items, hitems, hshown⟩ := has
  obtain ⟨items', hitems', hshown'⟩ := hbs
  obtain rfl := arr.inj (Option.some.inj (hitems.symm.trans hitems'))
  exact List.left_unique_forall₂' hunique hshown hshown'

/-! ## Reachable registries

An application is the one part of a registry that may be given as it is, with a configuration that
is written as it is.  What is given holds values; and so does what a registry keeps. -/

/-- **What is given with the operation are values**, with sorted members throughout — `IsCanonical`,
as a JSON map always is. -/
def RegistryOp.GivesValues : RegistryOp → Prop
  | declareApplication config => (Json.obj config.options).IsCanonical
  | setApplication app => app.IsCanonical
  | _ => True

/-- What is given with the request to a registry are values. -/
def Request.GivesValues : Request → Prop
  | on _ op => op.GivesValues
  | locally _ => True

/-- **A registry of a session**, whatever the session has served — as long as what it was given
holds values (`GivesValues`). -/
def Registry.Reachable (r : Registry) : Prop :=
  ∃ (settings : List Settings) (requests : List Request) (i : Nat),
    (∀ request ∈ requests, request.GivesValues) ∧
    ((Session.start settings).run requests).2.registries[i]? = some r

/-- What a registry sees of a run was asked for. -/
theorem Session.mem_exchanges {s : Session} {i : Nat} {requests : List Request} {e : Exchange}
    (h : e ∈ s.exchanges i requests) : .on i e.op ∈ requests := by
  induction requests generalizing s with
  | nil => exact absurd h List.not_mem_nil
  | cons request requests ih =>
    rcases List.mem_append.1 h with h | h
    · refine List.mem_cons.2 (.inl ?_)
      have hsome := Option.mem_toList.1 h
      unfold exchange? at hsome
      split at hsome
      · split at hsome
        · next hj =>
          obtain rfl := hj
          obtain rfl := Option.some.inj hsome
          rfl
        · exact absurd hsome nofun
      · exact absurd hsome nofun
    · exact List.mem_cons_of_mem _ (ih h)

/-- Operations that give values leave an application that holds values. -/
theorem RegistryOp.isCanonical_application_run {op : RegistryOp} {b : Workbench}
    (hop : op.GivesValues) (h : ∀ a ∈ b.registry.application, a.IsCanonical) :
    ∀ a ∈ (op.run b).2.registry.application, a.IsCanonical := by
  have hout := op.outcome b
  generalize op.run b = out at hout ⊢
  cases hout with
  | refused | layered => exact h
  | declared | registered =>
    simpa only [Workbench.registry_modifyContents, Workbench.registry_modifyRegistry,
      Workbench.registry_report, Registry.application_putResource] using h
  | applied reported happ =>
    rintro a ⟨⟩
    rw [happ]
    exact hop
  | set reported =>
    rintro a ⟨⟩
    exact hop
  | onRoutes _ _ _ hholdings =>
    have hsame := congrArg Registry.application hholdings
    exact fun a ha => h a (hsame.symm.trans ha)
  | reset => exact nofun

/-- **The application of a reachable registry holds values** — by `registry_run_start`, operation by
operation. -/
theorem Registry.Reachable.isCanonical {r : Registry} (h : r.Reachable) :
    ∀ a ∈ r.application, a.IsCanonical := by
  obtain ⟨settings, requests, i, hgives, hr⟩ := h
  let P : List Exchange → Registry → Prop := fun history registry =>
    (∀ e ∈ history, e.op.GivesValues) → ∀ a ∈ registry.application, a.IsCanonical
  have hkept : Exchange.Keep P := fun history b op ih hops => by
    obtain ⟨hhistory, hop⟩ := List.forall_mem_append.1 hops
    exact RegistryOp.isCanonical_application_run (hop _ (List.mem_singleton_self _)) (ih hhistory)
  have hP : P ((Session.start settings).exchanges i requests) r :=
    Session.registry_run_start (fun _ _ _ => nofun) hkept hr
  exact hP fun e he => hgives _ (Session.mem_exchanges he)

/-! ## Registries with the same snapshot -/

/-- **The registries declare the same**, in the same order: what they keep beside it, such as the
contents of resources and what is `pending`, may differ. -/
structure Registry.Agrees (r r' : Registry) : Prop where
  application : r.application = r'.application
  resources : r.resources.toList.map Resource.summary = r'.resources.toList.map Resource.summary
  routes : r.routes = r'.routes
  middlewares : r.middlewares.map Handler.summary = r'.middlewares.map Handler.summary

/-- Registries that declare the same have the same `snapshot`. -/
theorem Registry.Agrees.snapshot_eq {r r' : Registry} (h : r.Agrees r') :
    r.snapshot = r'.snapshot := by
  rw [snapshot, snapshot, h.application, h.resources, h.routes, h.middlewares]

/-- Applications that hold values are written differently, and none is as none. -/
theorem Application.eq_of_written {app app' : Option Application} (h : ∀ a ∈ app, a.IsCanonical)
    (h' : ∀ a ∈ app', a.IsCanonical)
    (heq : app.elim .null (fun a => a.written.canonical) =
      app'.elim .null fun a => a.written.canonical) : app = app' := by
  cases app with
  | none =>
    cases app' with
    | none => rfl
    | some a' => exact absurd heq nofun
  | some a =>
    -- `null` stands for an absent application only; two present ones are compared as read back
    cases app' with
    | none => exact absurd heq nofun
    | some a' =>
      have hread := (ofJson_canonical (h a rfl)).symm.trans
        ((congrArg ofJson heq).trans (ofJson_canonical (h' a' rfl)))
      exact congrArg some (Except.ok.inj hread)

/-- **A value shows at most one registry**, as far as registries declare — by the four uniqueness
lemmas, list by list. -/
theorem Registry.Shown.agrees {r r' : Registry} {v : Json} (hv : r.Shown v) (hv' : r'.Shown v)
    (h : ∀ a ∈ r.application, a.IsCanonical) (h' : ∀ a ∈ r'.application, a.IsCanonical) :
    r.Agrees r' where
  application := Application.eq_of_written h h'
    (Option.some.inj (hv.application.symm.trans hv'.application))
  resources := hv.resources.unique ResourceSummary.shown_unique hv'.resources
  routes := hv.routes.unique Route.shown_unique hv'.routes
  middlewares := hv.middlewares.unique HandlerSummary.shown_unique hv'.middlewares

/-- **The snapshot loses nothing.**  Its value shows the registry entry by entry, and two reachable
registries have the same one only if they declare the same: what is left out is told apart from what
is empty. -/
theorem Registry.snapshot_lossless {r r' : Registry} (hr : r.Reachable) (hr' : r'.Reachable) :
    r.Shown r.snapshot.toJson ∧ (r.snapshot.toJson = r'.snapshot.toJson ↔ r.Agrees r') := by
  refine ⟨r.shown_toJson, fun heq => ?_, fun h => congrArg Snapshot.toJson h.snapshot_eq⟩
  have hshown : r'.Shown r.snapshot.toJson := heq ▸ r'.shown_toJson
  exact r.shown_toJson.agrees hshown hr.isCanonical hr'.isCanonical

/-- No authorization is told apart from an authorization that asks for nothing. -/
theorem Registry.snapshot_lossless_no_auth :
    let list := Handler.echo 0 "list"
    let route : RegistryOp := .route list { path := "/x" }
    let r := ((Workbench.new {} {}).after [route]).registry
    let r' := ((Workbench.new {} {}).after [.auth list {}, route]).registry
    r.Reachable ∧ r'.Reachable ∧ r.snapshot.toJson ≠ r'.snapshot.toJson := by
  intro list route r r'
  have hr : r.Reachable := ⟨[{}], [.on 0 route], 0, List.forall_mem_singleton.2 trivial, rfl⟩
  have hr' : r'.Reachable := ⟨[{}], [.on 0 (.auth list {}), .on 0 route], 0,
    List.forall_mem_cons.2 ⟨trivial, List.forall_mem_singleton.2 trivial⟩, rfl⟩
  refine ⟨hr, hr', fun heq => ?_⟩
  have hroutes := ((snapshot_lossless hr hr').2.1 heq).routes
  have hauth := congrArg (fun routes => routes.map Route.auth) hroutes
  exact absurd hauth (by decide)

end BackendPlan
