import BackendPlan.Proofs.Decoration.History
import BackendPlan.Proofs.Session.Run

/-!
# Proofs/Decoration/Attributes — what an authorization does to the route it is attached to

An authorization is written down beside the route last declared for its handler, and the record of
the handler takes over both.  So the record is set back to the declared route, whatever was made of
it since:

    declared route  ──edit──▸  edited record  ──auth──▸  declared route, authorized

* `Session.pending_run_start` — what is pending is what was declared last, whatever was edited.
* `Route.attributes_of_lastRoute?` — without an edit a record shows the route last declared for it.
* `Session.auth_changes_auth_only_iff` — **when an authorization changes nothing but the
  authorization.**
* `Session.auth_reverts_edit` — an edit that it takes back.
-/

namespace BackendPlan

namespace Route

/-! ## Path, methods and access -/

/-- The attributes of a record that a route declares: path, methods and whether it is public. -/
def attributes (r : Route) : RouteAttributes := ⟨r.path, r.methods, r.isPublic⟩

/-- A record with a declared route shows its `attributes`, and without one its own. -/
theorem attributes_declared (r : Route) (route : Option RouteSpec) (auth : Option AuthSpec) :
    (r.declared route auth).attributes = (route.map RouteSpec.attributes).getD r.attributes := by
  cases route <;> rfl

/-- **Declaring changes `auth` only** exactly if the declared route, if there is one, has the
`attributes` that the record has. -/
theorem declared_eq_iff (r : Route) (route : Option RouteSpec) (spec : AuthSpec) :
    r.declared route (some spec) = { r with auth := some spec.descriptor } ↔
      ∀ declared, route = some declared → declared.attributes = r.attributes := by
  constructor
  · rintro h declared rfl
    have hshown := r.attributes_declared (some declared) (some spec)
    rw [h] at hshown
    exact hshown.symm
  · intro h
    cases route with
    | none => rfl
    | some declared =>
      obtain ⟨hpath, hmethods, hpublic⟩ := RouteAttributes.mk.inj (h declared rfl)
      simp [Route.declared, hpath, hmethods, hpublic]

end Route

/-- **An authorization declares the pending route with it** — `auth` and `route` share one
reconciliation, which absorbs both. -/
theorem Workbench.findRoute?_auth {b : Workbench} {h : Handler} {record : Route}
    (hfound : b.registry.findRoute? h.id = some record) (spec : AuthSpec) :
    (b.auth h spec).2.registry.findRoute? h.id =
      some (record.absorb { b.registry.pending h.id with auth := some spec.descriptor }) := by
  rw [registry_auth, Registry.findRoute?, Registry.decorate, Route.settle_of_some hfound,
    Route.findFirst?_updateFirst fun r => Route.handler_absorb r _]
  exact congrArg (Option.map _) hfound

/-! ## What is pending in a session

Edits change records and nothing that is pending, so pending values follow the history with its
edits, and records do while there are none. -/

namespace RegistryOp

/-- **One operation, as pending values see it**: they are `pendingIn` the history, edits
included. -/
theorem pending_run {op : RegistryOp} (hreset : op.isReset = false) {b : Workbench}
    {history : List RegistryOp} (hb : b.registry.pending = pendingIn history) :
    (op.run b).2.registry.pending = pendingIn (history ++ [op]) := by
  cases htouch : op.touchesRoutes with
  | false =>
    rw [pendingIn_concat_of_not_decorated (decorated?_of_not_touchesRoutes htouch), ← hb]
    exact congrArg Prod.snd (decorations_run htouch b)
  | true =>
    cases op with
    | route h spec =>
      have hrun := Workbench.registry_route b h spec
      rw [congrFun hb h.id, ← pendingIn_concat_route] at hrun
      exact (congrArg Registry.pending hrun).trans (pending_decorate rfl hb)
    | auth h spec =>
      have hrun := Workbench.registry_auth b h spec
      rw [congrFun hb h.id, ← pendingIn_concat_auth] at hrun
      exact (congrArg Registry.pending hrun).trans (pending_decorate rfl hb)
    | appendRoute record | editRoute id edit =>
      rw [pendingIn_concat_of_not_decorated rfl, ← hb]
      rfl
    | reset => exact absurd hreset nofun
    | _ => exact absurd htouch nofun

end RegistryOp

namespace Session

/-- **What a registry was asked for since its last `reset`**, refused or not. -/
def history (s : Session) (i : Nat) (requests : List Request) : List RegistryOp :=
  RegistryOp.sinceReset ((s.exchanges i requests).map Exchange.op)

/-- What holds after a reset, and is kept by any other operation, holds of the history. -/
theorem keep_of_history {P : List RegistryOp → Registry → Prop}
    (hreset : ∀ r : Registry, P [] r.reset)
    (hstep : ∀ history (b : Workbench) (op : RegistryOp), op.isReset = false →
      P history b.registry → P (history ++ [op]) (op.run b).2.registry) :
    Exchange.Keep fun exchanges r => P (RegistryOp.sinceReset (exchanges.map Exchange.op)) r := by
  intro exchanges b op hP
  rw [List.map_append, List.map_singleton, RegistryOp.sinceReset_concat]
  change P (if op.isReset then [] else _ ++ [op]) _
  cases hop : op.isReset with
  | false => exact hstep _ b op hop hP
  | true =>
    cases op with
    | reset => exact hreset b.registry
    | _ => exact absurd hop nofun

variable {settings : List Settings} {requests : List Request} {i : Nat} {registry : Registry}

/-- **What is pending is what was declared last** — `pendingIn`, from `pending_run` by
`keep_of_history`. -/
theorem pending_run_start (hr : ((start settings).run requests).2.registries[i]? = some registry) :
    registry.pending = RegistryOp.pendingIn ((start settings).history i requests) :=
  registry_run_start (fun _ _ => rfl)
    (keep_of_history (P := fun history r => r.pending = RegistryOp.pendingIn history)
      (fun _ => rfl) fun _ _ _ hop => RegistryOp.pending_run hop) hr

/-- Without an edit the records are `routesOf` the history. -/
theorem routes_run_start (hr : ((start settings).run requests).2.registries[i]? = some registry)
    (hedit : ∀ op ∈ (start settings).history i requests, op.isEdit = false) :
    registry.routes = RegistryOp.routesOf ((start settings).history i requests) := by
  let P : List RegistryOp → Registry → Prop := fun history r =>
    (∀ op ∈ history, op.isEdit = false) → r.decorations = RegistryOp.decorationsOf history
  have hstep : ∀ history (b : Workbench) (op : RegistryOp), op.isReset = false →
      P history b.registry → P (history ++ [op]) (op.run b).2.registry := by
    intro history b op hop hP hnone
    obtain ⟨hbefore, hnow⟩ := List.forall_mem_append.1 hnone
    exact RegistryOp.decorations_run_of_history (hnow op (List.mem_singleton_self op)) hop
      (hP hbefore)
  have hP : P ((start settings).history i requests) registry :=
    registry_run_start (fun _ _ _ => rfl) (keep_of_history (fun _ _ => rfl) hstep) hr
  exact congrArg Prod.fst (hP hedit)

end Session

/-! ## Records and declared routes -/

namespace RegistryOp

/-- Where a route was declared for the handler, its first record is decorated. -/
theorem isDecorated_of_lastRoute? {id : HandlerId} {history : List RegistryOp} {spec : RouteSpec}
    (hlast : lastRoute? id history = some spec) {i : Insertion} (hi : i.Opens id history) :
    i.isDecorated = true := by
  by_contra hne
  have hnone : ∀ op ∈ i.op :: i.future, routeFor? id op = none := by
    intro op hop
    have hany := List.any_eq_false.1 (Bool.eq_false_iff.2 hne) op hop
    rw [hi.handler] at hany
    exact routeFor?_of_not_decorates (Bool.eq_false_iff.2 hany)
  -- the record is the first thing that the handler has, so there was no route before it either
  have hpast : lastRoute? id i.past = none := lastRoute?_eq_none hi.first
  rw [← hi.history_eq, Insertion.history, lastRoute?, List.filterMap_append,
    List.filterMap_eq_nil_iff.2 hnone, List.append_nil] at hlast
  exact Option.some_ne_none spec (hlast.symm.trans hpast)

end RegistryOp

/-- **Without an edit a record shows the route last declared for its handler** — it was decorated
then or later, and took the attributes over. -/
theorem Route.attributes_of_lastRoute? {id : HandlerId} {history : List RegistryOp}
    {spec : RouteSpec} (hlast : RegistryOp.lastRoute? id history = some spec) {record : Route}
    (hfound : findFirst? id (RegistryOp.routesOf history) = some record) :
    spec.attributes = record.attributes := by
  have hany : history.any (RegistryOp.introduces id) = true := by
    by_contra hne
    rw [RegistryOp.findFirst?_routesOf_eq_none_iff.2 (Bool.eq_false_iff.2 hne)] at hfound
    exact absurd hfound nofun
  obtain ⟨i, hi⟩ := RegistryOp.exists_opens hany
  rw [RegistryOp.findFirst?_routesOf, RegistryOp.find?_insertions_of_opens hi, Option.map_some,
    if_pos (RegistryOp.isDecorated_of_lastRoute? hlast hi)] at hfound
  rw [← Option.some.inj hfound, attributes_declared, hlast]
  rfl

namespace Session

/-- **When an authorization changes the authorization only.**  In every state of a registry that a
session reaches, the record found for a handler takes over, with an authorization, the route last
declared for the handler since the last reset.  So nothing but the authorization changes exactly if
there is no such route, or the record has its attributes; and that is so unless a record was
edited. -/
theorem auth_changes_auth_only_iff
    (hr : ((start settings).run requests).2.registries[i]? = some registry) (w : Workspace)
    (h : Handler) (spec : AuthSpec) {record : Route}
    (hfound : registry.findRoute? h.id = some record) :
    let history := (start settings).history i requests
    let record' := record.declared (RegistryOp.lastRoute? h.id history) (some spec)
    (Workbench.auth ⟨registry, w⟩ h spec).2.registry.findRoute? h.id = some record' ∧
      (record' = { record with auth := some spec.descriptor } ↔
        ∀ declared, RegistryOp.lastRoute? h.id history = some declared →
          declared.attributes = record.attributes) ∧
      ((∀ op ∈ history, op.isEdit = false) →
        record' = { record with auth := some spec.descriptor }) := by
  intro history record'
  have hpending := congrFun (pending_run_start hr) h.id
  refine ⟨?_, record.declared_eq_iff _ spec, fun hedit => ?_⟩
  · rw [Workbench.findRoute?_auth (b := ⟨registry, w⟩) hfound, hpending]
    exact congrArg some
      (record.declared_eq_absorb (RegistryOp.lastRoute? h.id history) (some spec)).symm
  · rw [Registry.findRoute?, routes_run_start hr hedit] at hfound
    exact (record.declared_eq_iff _ spec).2 fun declared hlast =>
      Route.attributes_of_lastRoute? hlast hfound

/-- An `edit` of an imported record stays, since no route was declared for its handler. -/
theorem auth_changes_auth_only_of_import :
    let legacy := Handler.echo 1 "legacy"
    let spec : AuthSpec := ⟨none, some true, ["read"]⟩
    let requests : List Request :=
      [.on 0 (.appendRoute ⟨"/legacy", ["GET"], true, legacy.id, "legacy", none⟩),
        .on 0 (.editRoute legacy.id { path := some "/v2/legacy", isPublic := some false })]
    let record : Route := ⟨"/v2/legacy", ["GET"], false, legacy.id, "legacy", none⟩
    ∃ registry, ((start [{}]).run requests).2.registries[0]? = some registry ∧
      registry.findRoute? legacy.id = some record ∧
      (Workbench.auth ⟨registry, {}⟩ legacy spec).2.registry.findRoute? legacy.id =
        some { record with auth := some spec.descriptor } := by
  intro legacy spec requests record
  refine ⟨_, rfl, rfl, ?_⟩
  have hr : ((start [{}]).run requests).2.registries[0]? = some _ := rfl
  obtain ⟨hfound, honly, -⟩ :=
    auth_changes_auth_only_iff hr {} legacy spec (show _ = some record from rfl)
  exact hfound.trans (congrArg some (honly.2 nofun))

/-- **An authorization takes an `edit` back** — a route that was closed and moved is open again, in
its old place, once its handler is given an authorization. -/
theorem auth_reverts_edit :
    let orders := Handler.echo 1 "orders"
    let spec : AuthSpec := ⟨none, some true, ["read"]⟩
    let requests : List Request :=
      [.on 0 (.route orders ⟨"/orders", none, none, true⟩),
        .on 0 (.editRoute orders.id { path := some "/v2/orders", isPublic := some false })]
    ∃ registry record record',
      ((start [{}]).run requests).2.registries[0]? = some registry ∧
        registry.findRoute? orders.id = some record ∧
        (Workbench.auth ⟨registry, {}⟩ orders spec).2.registry.findRoute? orders.id = some record' ∧
        record.path = "/v2/orders" ∧ record'.path = "/orders" ∧
        record.isPublic = false ∧ record'.isPublic = true := by
  intro orders spec requests
  exact ⟨_, _, _, rfl, rfl, rfl, rfl, rfl, rfl, rfl⟩

end Session

end BackendPlan
