import BackendPlan.Proofs.Decoration.History

/-!
# Proofs/Decoration/Authorization — where a declared authorization ends up

An authorization waits for a record of its handler, and reaches it with the next decoration.
An import is no decoration: it adds its record as given.  So a handler that is authorized, then
imported, and never decorated again is exposed without the authorization it was given.

* `auth_eq_last_iff` — that is the one case in which a record lacks its handler's authorization.
* `import_leaves_authorization_pending` — and it does occur.
-/

namespace BackendPlan

namespace Insertion

open RegistryOp

/-- A handler is opened once. -/
theorem Opens.unique {i j : Insertion} {id : HandlerId} {history : List RegistryOp}
    (hi : i.Opens id history) (hj : j.Opens id history) : i = j :=
  Option.some.inj ((find?_insertions_of_opens hi).symm.trans (find?_insertions_of_opens hj))

/-- An import counts as decorated by what follows it only. -/
theorem isDecorated_import (past : List RegistryOp) (imported : Route)
    (future : List RegistryOp) :
    (⟨past, .appendRoute imported, future, imported⟩ : Insertion).isDecorated =
      future.any (·.decorates imported.handler) := rfl

/-- **The first record of a decorated handler carries its last authorization** — `final` absorbs
what is pending. -/
theorem auth_final {i : Insertion} {id : HandlerId} {history : List RegistryOp} {spec : AuthSpec}
    (hi : i.Opens id history) (hdecorated : i.isDecorated = true)
    (hlast : lastAuth? id history = some spec) : i.final.auth = some spec.descriptor := by
  rw [final, hi.isFirst, hdecorated, hi.handler, hi.history_eq, hlast]
  rfl

end Insertion

namespace RegistryOp

/-- A first insertion that no decoration follows is an import, of the very record — a route would be
a decoration itself. -/
theorem op_eq_appendRoute_of_not_isDecorated {id : HandlerId} {history : List RegistryOp}
    {i : Insertion} (hi : i.Opens id history) (h : i.isDecorated = false) :
    i.op = .appendRoute i.record := by
  obtain ⟨past, op, future, record⟩ := i
  have hop : op.decorates record.handler = false := (Bool.or_eq_false_iff.mp h).1
  have hinserted : inserted? past op = some record := hi.inserted
  cases op with
  | appendRoute imported => exact congrArg appendRoute (Option.some.inj hinserted)
  | route handler spec =>
    have hhandler : handler.id = record.handler :=
      of_decide_eq_true ((introduces_iff_of_inserted? hinserted record.handler).mpr rfl)
    exact absurd hop (by rw [decorates_eq rfl, hhandler]; simp)
  | _ => exact absurd hinserted nofun

/-- **When a record carries the authorization declared for its handler.**  In every state that a run
without edits reaches, the record found for a handler carries the last authorization declared for
the handler since the last reset, unless the record was imported, no decoration of the handler
followed, and it came with another authorization or none. -/
theorem auth_eq_last_iff (settings : Settings) (w : Workspace) (ops : List RegistryOp)
    (hops : ∀ op ∈ ops, op.isEdit = false) (id : HandlerId) (spec : AuthSpec) (record : Route)
    (hlast : lastAuth? id (sinceReset ops) = some spec)
    (hfound : ((Workbench.new settings w).after ops).registry.findRoute? id = some record) :
    record.auth = some spec.descriptor ↔
      ∀ past imported future, sinceReset ops = past ++ .appendRoute imported :: future →
        imported.handler = id → past.any (introduces id) = false →
        future.any (decorates id) = false → imported.auth = some spec.descriptor := by
  have hroutes : ((Workbench.new settings w).after ops).registry.routes =
    routesOf (sinceReset ops) :=
    congrArg Prod.fst (decorations_after settings w hops)
  rw [Registry.findRoute?, hroutes] at hfound
  have hany : (sinceReset ops).any (introduces id) = true := by
    by_contra hne
    rw [findFirst?_routesOf_eq_none_iff.mpr (Bool.eq_false_iff.mpr hne)] at hfound
    exact absurd hfound.symm (Option.some_ne_none record)
  obtain ⟨i, hi⟩ := exists_opens hany
  obtain rfl : i.final = record :=
    Option.some.inj ((findFirst?_routesOf_of_opens hi).symm.trans hfound)
  constructor
  · intro hauth past imported future hsplit hhandler hpast hfuture
    -- an import that opens the handler is the insertion found
    obtain rfl : i = ⟨past, .appendRoute imported, future, imported⟩ :=
      hi.unique ⟨hsplit.symm, rfl, hhandler, hpast⟩
    rwa [Insertion.final_of_not_isDecorated] at hauth
    rwa [Insertion.isDecorated_import, hhandler]
  · intro hexact
    cases hdecorated : i.isDecorated with
    | true => exact Insertion.auth_final hi hdecorated hlast
    | false =>
      have hop := op_eq_appendRoute_of_not_isDecorated hi hdecorated
      have hsplit : sinceReset ops = i.past ++ .appendRoute i.record :: i.future := by
        rw [← hop]
        exact hi.history_eq.symm
      have hfuture : i.future.any (decorates id) = false := by
        rw [← hi.handler]
        exact (Bool.or_eq_false_iff.mp hdecorated).2
      rw [Insertion.final_of_not_isDecorated hdecorated]
      exact hexact i.past i.record i.future hsplit hi.handler hi.first hfuture

/-- A `route` after the import brings the authorization into the imported record. -/
theorem auth_eq_last_of_route_after_import :
    let orders := Handler.echo 1 "orders"
    let auth : AuthSpec := ⟨none, some true, ["read"]⟩
    let ops : List RegistryOp :=
      [.auth orders auth, .appendRoute ⟨"/legacy", ["GET"], false, orders.id, "orders", none⟩,
        .route orders ⟨"/orders", none, none, false⟩]
    (∀ op ∈ ops, op.isEdit = false) ∧ lastAuth? orders.id (sinceReset ops) = some auth ∧
      ((Workbench.new {} {}).after ops).registry.findRoute? orders.id =
        some ⟨"/orders", ["GET"], false, orders.id, "orders", some auth.descriptor⟩ ∧
      ∀ past imported future, sinceReset ops = past ++ .appendRoute imported :: future →
        imported.handler = orders.id → past.any (introduces orders.id) = false →
        future.any (decorates orders.id) = false → imported.auth = some auth.descriptor := by
  intro orders auth ops
  have hops : ∀ op ∈ ops, op.isEdit = false := by decide
  have hlast : lastAuth? orders.id (sinceReset ops) = some auth := rfl
  have hfound : ((Workbench.new {} {}).after ops).registry.findRoute? orders.id =
      some ⟨"/orders", ["GET"], false, orders.id, "orders", some auth.descriptor⟩ := rfl
  exact ⟨hops, hlast, hfound,
    (auth_eq_last_iff {} {} ops hops orders.id auth _ hlast hfound).mp rfl⟩

/-- **An import leaves the authorization pending** — the handler was given one, `findRoute?` finds
its record, and the record asks for none. -/
theorem import_leaves_authorization_pending :
    let legacy := Handler.echo 1 "legacy"
    let auth : AuthSpec := ⟨none, some true, ["read"]⟩
    let ops : List RegistryOp :=
      [.auth legacy auth, .appendRoute ⟨"/legacy", ["GET"], false, legacy.id, "legacy", none⟩]
    (∀ op ∈ ops, op.isEdit = false) ∧ lastAuth? legacy.id (sinceReset ops) = some auth ∧
      ∃ record, ((Workbench.new {} {}).after ops).registry.findRoute? legacy.id = some record ∧
        record.auth ≠ some auth.descriptor := by
  intro legacy auth ops
  exact ⟨by decide, rfl, ⟨"/legacy", ["GET"], false, legacy.id, "legacy", none⟩, rfl, nofun⟩

end RegistryOp

end BackendPlan
