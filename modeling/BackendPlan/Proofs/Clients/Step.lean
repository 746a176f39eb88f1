import BackendPlan.Proofs.Clients.Share
import BackendPlan.Proofs.Registry.Reports

/-!
# Proofs/Clients/Step — one call, in a shared registry and in a registry of one's own

A call of a client is served by the shared registry and, renamed, by the client's own.  A call of
another client is served by the shared registry alone.

* `Share.run_own` — **a call of the client has the same outcome in both registries**, which stay in
  step.
* `Share.run_other` — **a call of another client leaves the client's share alone**.
-/

namespace BackendPlan

/-- A shared edit keeps the handler of its record — which is what `IsShared` asks of it. -/
theorem Route.handler_edit_of_isShared {id : HandlerId} {edit : Route.Edit}
    (h : (RegistryOp.editRoute id edit).IsShared) (r : Route) (hr : r.handler = id) :
    (r.edit edit).handler = id := by
  rcases h with hnone | hsome
  · rw [Route.edit, hnone, Option.getD_none, hr]
  · rw [Route.edit, hsome, Option.getD_some]

/-! ## Calls of the client -/

/-- **The second result is the first one, renamed**: `ρ` of the reply, the same events, and the
client's `Share` of the registry. -/
structure Parallel (ρ : Renaming) (mine : Key → Bool) (b own : Workbench)
    (out ownOut : RegistryReply × Workbench) : Prop where
  reply : ownOut.1 = ρ.reply out.1
  events : ownOut.2.workspace.journal.drop own.workspace.journal.length =
    out.2.workspace.journal.drop b.workspace.journal.length
  share : Share ρ mine out.2.registry ownOut.2.registry

namespace Share

variable {ρ : Renaming} {mine : Key → Bool} {b own : Workbench}

/-- A refusal is a refusal in both. -/
theorem parallel_refused (h : Share ρ mine b.registry own.registry) (cause : DeclareError) :
    Parallel ρ mine b own (.refused cause, b) (.refused cause, own) where
  reply := rfl
  events := by rw [List.drop_length, List.drop_length]
  share := h

/-- What reports the same on both sides is parallel. -/
theorem parallel_of_report (reply : RegistryReply) {next ownNext : Registry} {w ownW : Workspace}
    (h : Share ρ mine next ownNext) (events : List Event)
    (hw : w.journal = b.workspace.journal ++ events)
    (hownW : ownW.journal = own.workspace.journal ++ events) :
    Parallel ρ mine b own (reply, ⟨next, w⟩) (ρ.reply reply, ⟨ownNext, ownW⟩) where
  reply := rfl
  events := by rw [hw, hownW, List.drop_left, List.drop_left]
  share := h

theorem registration_eq (h : Share ρ mine b.registry own.registry) {x : Resource}
    (hmine : mine (.resource x.name) = true) :
    own.registry.registration (ρ.resource x) = b.registry.registration x := by
  simp only [Registry.registration, Renaming.name_resource, Renaming.kind_resource,
    h.mem_names_iff hmine]

theorem reconciliation?_eq {shared alone : Registry} (h : Share ρ mine shared alone) {g : Handler}
    (hmine : mine (.handler g.id) = true) :
    alone.reconciliation? (ρ.handler g) = shared.reconciliation? g := by
  simp only [Registry.reconciliation?, Renaming.id_handler, Renaming.name_handler,
    h.findRoute?_eq hmine, h.pending g.id hmine]

/-- `putResource` of a resource of the client. -/
theorem parallel_putResource (h : Share ρ mine b.registry own.registry) {x : Resource}
    (hmine : mine (.resource x.name) = true) :
    Parallel ρ mine b own ((RegistryOp.putResource x).run b)
      ((RegistryOp.putResource (ρ.resource x)).run own) := by
  have hcollision := h.collision?_eq hmine
  have hnext := h.putResource x
  rw [if_pos hmine] at hnext
  rw [← ρ.name_resource x] at hcollision
  rw [RegistryOp.run, RegistryOp.run]
  cases hfree : b.registry.collision? (.resource (ρ.resource x).name) with
  | some cause =>
    rw [Workbench.putResource_of_collision? h.ownIndexed (hcollision.trans hfree),
      Workbench.putResource_of_collision? h.sharedIndexed (ρ.name_resource x ▸ hfree)]
    exact h.parallel_refused cause
  | none =>
    rw [Workbench.putResource_of_free h.ownIndexed (hcollision.trans hfree),
      Workbench.putResource_of_free h.sharedIndexed (ρ.name_resource x ▸ hfree),
      h.registration_eq hmine]
    exact hnext.parallel_of_report .done [b.registry.registration x] rfl rfl

/-- **Declaring a resource of the client**, if the object it makes is renamed as the client's own
registry numbers it — the check and the slot depend on name and configuration, which are the
same. -/
theorem parallel_of_declared? (h : Share ρ mine b.registry own.registry) {op : RegistryOp}
    {x y : Resource} (hx : op.declared? b.workspace.contents = some x)
    (hy : op.declared? own.workspace.contents = some y) (hmine : mine (.resource x.name) = true)
    (hname : y.name = x.name) (hvalid : y.validate = x.validate)
    (hserved : (op.run b).1 = .resource x → y = ρ.resource x) :
    Parallel ρ mine b own (op.run b) (op.run own) := by
  have hcollision := h.collision?_eq hmine
  rw [← hname] at hcollision
  rw [RegistryOp.run_of_declared? hx] at hserved ⊢
  rw [RegistryOp.run_of_declared? hy, hvalid]
  cases hcheck : x.validate with
  | error cause => exact h.parallel_refused cause
  | ok u =>
    rw [hcheck] at hserved
    simp only [Workbench.declareResource] at hserved ⊢
    cases hfree : b.registry.collision? (.resource y.name) with
    | some cause =>
      rw [Workbench.putResource_of_collision? h.ownIndexed (hcollision.trans hfree),
        Workbench.putResource_of_collision? h.sharedIndexed (hname ▸ hfree)]
      exact h.parallel_refused cause
    | none =>
      have hput := Workbench.putResource_of_free h.sharedIndexed (x := x) (hname ▸ hfree)
      rw [hput] at hserved
      obtain rfl := hserved rfl
      have hnext := h.putResource x
      rw [if_pos hmine] at hnext
      rw [hput, Workbench.putResource_of_free h.ownIndexed (hcollision.trans hfree),
        h.registration_eq hmine]
      exact hnext.parallel_of_report (.resource x) [b.registry.registration x] rfl rfl

/-- `setPending` for a handler of the client. -/
theorem setPending {shared alone : Registry} (h : Share ρ mine shared alone) (id : HandlerId)
    (pending : Pending) :
    Share ρ mine (shared.setPending id pending) (alone.setPending id pending) :=
  h.of_routes h.routes fun other hother => by
    split
    · rfl
    · exact h.pending other hother

/-- **Decorating a handler of the client**, with the same pending metadata in both — the handler
that is given back is renamed. -/
theorem parallel_reconcile (h : Share ρ mine b.registry own.registry) {g : Handler}
    (hmine : mine (.handler g.id) = true) {pending ownPending : Pending}
    (hpending : ownPending = pending) :
    Parallel ρ mine b own
      (.handler g, (b.modifyRegistry (·.setPending g.id pending)).reconcile g)
      (.handler (ρ.handler g),
        (own.modifyRegistry (·.setPending g.id ownPending)).reconcile (ρ.handler g)) := by
  subst hpending
  refine ⟨rfl, ?_, ?_⟩
  · have hevent := (h.setPending g.id ownPending).reconciliation?_eq hmine
    rw [Workbench.workspace_reconcile, Workbench.workspace_reconcile,
      Workbench.registry_modifyRegistry, Workbench.registry_modifyRegistry, hevent]
    cases (b.registry.setPending g.id ownPending).reconciliation? g with
    | none => exact (List.drop_length).trans (List.drop_length).symm
    | some event => exact (List.drop_left).trans (List.drop_left).symm
  · have hnext := h.decorate g ownPending
    have hown := own.registry_reconcile_setPending (ρ.handler g) ownPending
    rw [if_pos hmine] at hnext
    rw [Workbench.registry_reconcile_setPending]
    exact hown ▸ hnext

/-- A declaration is the same declaration with everything renamed, and makes the object that the
renaming says. -/
theorem declared?_op (ρ : Renaming) {c : Contents} (c' : Contents) {op : RegistryOp} {x : Resource}
    (h : op.declared? c = some x) :
    ρ.op op = op ∧ ∃ y, op.declared? c' = some y ∧ y.name = x.name ∧ y.validate = x.validate ∧
      (ρ x.kind x.id = c'.count x.kind → y = ρ.resource x) := by
  cases op with
  | declareTable config =>
    obtain rfl := Option.some.inj h
    exact ⟨rfl, _, rfl, rfl, rfl, fun hid => congrArg (Resource.table ⟨·, config⟩) hid.symm⟩
  | declareLogStream config =>
    obtain rfl := Option.some.inj h
    exact ⟨rfl, _, rfl, rfl, rfl, fun hid => congrArg (Resource.logStream ⟨·, config⟩) hid.symm⟩
  | declareIdentityPool config =>
    obtain rfl := Option.some.inj h
    exact ⟨rfl, _, rfl, rfl, rfl, fun hid => congrArg (Resource.identityPool ⟨·, config⟩) hid.symm⟩
  | _ => exact absurd h nofun

/-- Declaring a resource of the client, whatever its kind. -/
theorem run_own_of_declared? (h : Share ρ mine b.registry own.registry) {op : RegistryOp}
    {x : Resource}
    (hx : op.declared? b.workspace.contents = some x) (hmine : mine (.resource x.name) = true)
    (hnumber : ∀ r, (op.run b).1 = .resource r →
      ρ r.kind r.id = own.workspace.contents.count r.kind) :
    Parallel ρ mine b own (op.run b) ((ρ.op op).run own) := by
  obtain ⟨hop, y, hy, hname, hvalid, hrenamed⟩ :=
    declared?_op ρ own.workspace.contents hx
  rw [hop]
  exact h.parallel_of_declared? hx hy hmine hname hvalid fun hserved => hrenamed (hnumber x hserved)

/-- **A call of the client has the same outcome in the shared registry and in its own** — if the
object it makes, if it makes one, is renamed as the client's own registry numbers it. -/
theorem run_own (h : Share ρ mine b.registry own.registry) {op : RegistryOp} (hshared : op.IsShared)
    {key : Key} (hkey : op.key? = some key) (hmine : mine key = true)
    (hnumber : ∀ r, (op.run b).1 = .resource r →
      ρ r.kind r.id = own.workspace.contents.count r.kind) :
    Parallel ρ mine b own (op.run b) ((ρ.op op).run own) := by
  cases op with
  | declareApplication config => exact hshared.elim
  | setApplication app => exact hshared.elim
  | reset => exact hshared.elim
  | declareTable config =>
    obtain rfl := Option.some.inj hkey
    exact h.run_own_of_declared? rfl hmine hnumber
  | declareLogStream config =>
    obtain rfl := Option.some.inj hkey
    exact h.run_own_of_declared? rfl hmine hnumber
  | declareIdentityPool config =>
    obtain rfl := Option.some.inj hkey
    exact h.run_own_of_declared? rfl hmine hnumber
  | putResource x =>
    obtain rfl := Option.some.inj hkey
    exact h.parallel_putResource hmine
  | route g spec =>
    obtain rfl := Option.some.inj hkey
    exact h.parallel_reconcile hmine (congrArg (Pending.mk (some spec.attributes) ·.auth)
      (h.pending g.id hmine))
  | auth g spec =>
    obtain rfl := Option.some.inj hkey
    exact h.parallel_reconcile hmine (congrArg (Pending.mk ·.route (some spec.descriptor))
      (h.pending g.id hmine))
  | middleware g =>
    obtain rfl := Option.some.inj hkey
    have hnext := h.appendMiddleware g
    rw [if_pos hmine] at hnext
    exact hnext.parallel_of_report (.handler g) [.middlewareDeclared g.name] rfl rfl
  | appendRoute record =>
    obtain rfl := Option.some.inj hkey
    have hnext := h.appendRoute record
    rw [if_pos hmine] at hnext
    exact hnext.parallel_of_report .done [] (List.append_nil _).symm
      (List.append_nil _).symm
  | editRoute id edit =>
    obtain rfl := Option.some.inj hkey
    have hnext := h.updateRoute (Route.handler_edit_of_isShared hshared)
    rw [if_pos hmine] at hnext
    simp only [Renaming.op, RegistryOp.run, h.findRoute?_eq hmine]
    exact hnext.parallel_of_report (.edited (b.registry.findRoute? id).isSome) []
      (List.append_nil _).symm (List.append_nil _).symm

/-! ## Calls of other clients -/

/-- Declaring a resource of another client leaves the share as it is. -/
theorem run_other_of_declared? {alone : Registry} (h : Share ρ mine b.registry alone)
    {op : RegistryOp} {x : Resource} (hx : op.declared? b.workspace.contents = some x)
    (hother : ¬ mine (.resource x.name) = true) : Share ρ mine (op.run b).2.registry alone := by
  have hnext := h.putResource x
  rw [if_neg hother] at hnext
  rw [RegistryOp.run_of_declared? hx]
  rcases b.declareResource_cases x.validate x x (·.make x.kind) with ⟨cause, hrun⟩ | ⟨event, hrun⟩
  · rw [hrun]
    exact h
  · rw [hrun]
    exact hnext

/-- **A call of another client leaves the client's share alone** — its key is not `mine`, so every
list keeps its part. -/
theorem run_other {alone : Registry} (h : Share ρ mine b.registry alone) {op : RegistryOp}
    (hshared : op.IsShared) {key : Key} (hkey : op.key? = some key) (hother : ¬ mine key = true) :
    Share ρ mine (op.run b).2.registry alone := by
  cases op with
  | declareApplication config => exact hshared.elim
  | setApplication app => exact hshared.elim
  | reset => exact hshared.elim
  | declareTable config =>
    obtain rfl := Option.some.inj hkey
    exact h.run_other_of_declared? rfl hother
  | declareLogStream config =>
    obtain rfl := Option.some.inj hkey
    exact h.run_other_of_declared? rfl hother
  | declareIdentityPool config =>
    obtain rfl := Option.some.inj hkey
    exact h.run_other_of_declared? rfl hother
  | putResource x =>
    obtain rfl := Option.some.inj hkey
    have hnext := h.putResource x
    rw [if_neg hother] at hnext
    rw [RegistryOp.run]
    rcases b.putResource_cases x with ⟨cause, hput⟩ | ⟨event, hput⟩
    · rw [hput]
      exact h
    · rw [hput]
      exact hnext
  | route g spec =>
    obtain rfl := Option.some.inj hkey
    have hnext := h.decorate g { b.registry.pending g.id with route := some spec.attributes }
    rw [if_neg hother, ← Workbench.registry_route] at hnext
    exact hnext
  | auth g spec =>
    obtain rfl := Option.some.inj hkey
    have hnext := h.decorate g { b.registry.pending g.id with auth := some spec.descriptor }
    rw [if_neg hother, ← Workbench.registry_auth] at hnext
    exact hnext
  | middleware g =>
    obtain rfl := Option.some.inj hkey
    have hnext := h.appendMiddleware g
    rwa [if_neg hother] at hnext
  | appendRoute record =>
    obtain rfl := Option.some.inj hkey
    have hnext := h.appendRoute record
    rwa [if_neg hother] at hnext
  | editRoute id edit =>
    obtain rfl := Option.some.inj hkey
    have hnext := h.updateRoute (Route.handler_edit_of_isShared hshared)
    rwa [if_neg hother] at hnext

end Share

end BackendPlan
