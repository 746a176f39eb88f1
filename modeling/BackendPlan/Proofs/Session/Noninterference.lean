import BackendPlan.Proofs.Registry.Footprint
import BackendPlan.Proofs.Session.Sharing

/-!
# Proofs/Session/Noninterference — what is done to objects never shows in the declarations

Between declarations a caller may do as it likes: fill tables, write logs, call handlers that do so,
look things up and take snapshots.  All that is left out of a run without a trace in what the run
declares:

    a run   ──keep the declarations──▸   the same milestones, the same registries

* `Session.Alike.declarations` — **a run is alike the run of its declarations alone**.
* `Session.configJson_of_declared` — a configuration is shown as it was declared, wherever and
  whenever.
* `Session.noninterference` — hence two runs with the same declarations declare the same.
-/

namespace BackendPlan

/-! ## Calls and milestones -/

namespace Session

/-- **A call on a session**: on one of its registries, be it an operation or a query, or through
handles. -/
inductive Call where
  | on (registry : Nat) (call : Registry.Call)
  | locally (op : LocalOp)

namespace Call

/-- The request that the call makes; a query makes none, so `Session.run` does not know of it. -/
def request? : Call → Option Request
  | on i (.serve op) => some (.on i op)
  | on _ (.ask _) => none
  | locally op => some (.locally op)

/-- **The call declares**: a registry serves an operation, be it a declaration of a resource or the
application, a decoration, an import, an edit or a reset. -/
def declares : Call → Bool
  | on _ (.serve _) => true
  | on _ (.ask _) | locally _ => false

end Call

/-- **The declarations of a run**: what is left without local operations, look-ups and snapshots. -/
def declarations (calls : List Call) : List Call := calls.filter Call.declares

/-- The session after a call — a query leaves it as it is. -/
def serve (s : Session) (call : Call) : Session :=
  call.request?.elim s fun request => (s.step request).2

/-- **The session after calls**, one after another: a fold of `serve`. -/
def serveAll (s : Session) (calls : List Call) : Session := calls.foldl serve s

/-- The snapshots of all registries, addressed or not. -/
def snapshots (s : Session) : List Snapshot := s.registries.toList.map Registry.snapshot

/-- **What is seen of a declaration**: its reply and its events, and the `snapshots` after it. -/
structure Milestone where
  reply : Reply
  events : List Event
  snapshots : List Snapshot

/-- The milestone of an operation on registry `i` — the events are those that the journal gained. -/
def milestone (s : Session) (i : Nat) (op : RegistryOp) : Milestone where
  reply := (s.step (.on i op)).1
  events := (s.step (.on i op)).2.workspace.journal.drop s.workspace.journal.length
  snapshots := (s.step (.on i op)).2.snapshots

/-- **The milestones of a run**, one for each of its declarations. -/
def milestones (s : Session) : List Call → List Milestone
  | [] => []
  | .on i (.serve op) :: calls => s.milestone i op :: (s.step (.on i op)).2.milestones calls
  | call :: calls => (s.serve call).milestones calls

/-! ## Alike sessions -/

/-- **The same registries beside as many objects** — a declaration reads `count` to number its
object, and no contents. -/
structure Alike (s s' : Session) : Prop where
  registries : s.registries = s'.registries
  count : s.workspace.contents.count = s'.workspace.contents.count

namespace Alike

variable {s s' : Session}

theorem refl (s : Session) : s.Alike s := ⟨rfl, rfl⟩

/-- **What does not declare leaves a session alike** — it reaches no registry and makes no
object. -/
theorem serve_of_declares_eq_false (h : s.Alike s') (call : Call) (hcall : call.declares = false) :
    (s.serve call).Alike s' := by
  match call with
  | .on i (.serve op) => exact absurd hcall nofun
  | .on i (.ask query) => exact h
  | .locally op =>
    refine ⟨h.registries, funext fun kind => ?_⟩
    have hcontents := op.contents_run s.workspace
    have hcount := (congrArg (·.count kind) hcontents).trans (Contents.count_applyAll _ _ kind)
    exact hcount.trans (congrFun h.count kind)

/-- **Alike sessions declare alike**, and stay alike — an operation on a registry reads of the
workspace only how many objects there are. -/
theorem step_on (h : s.Alike s') (i : Nat) (op : RegistryOp) :
    s.milestone i op = s'.milestone i op ∧ (s.step (.on i op)).2.Alike (s'.step (.on i op)).2 := by
  cases hr : s.registries[i]? with
  | none =>
    have hr' : s'.registries[i]? = none := h.registries ▸ hr
    rw [milestone, milestone, step_on_of_getElem?_eq_none hr, step_on_of_getElem?_eq_none hr']
    refine ⟨?_, h⟩
    simp only [List.drop_length, snapshots, h.registries]
  | some registry =>
    have hr' : s'.registries[i]? = some registry := h.registries ▸ hr
    have halike : Workbench.Alike ⟨registry, s.workspace⟩ ⟨registry, s'.workspace⟩ := ⟨rfl, h.count⟩
    obtain ⟨hreply, hevents, hregistry, hcount⟩ := halike.run op
    have hregistries : (s.step (.on i op)).2.registries = (s'.step (.on i op)).2.registries := by
      rw [Session.step_on hr, Session.step_on hr', h.registries, hregistry]
    refine ⟨?_, hregistries, ?_⟩
    · rw [milestone, milestone, snapshots, snapshots, hregistries, Session.step_on hr,
        Session.step_on hr']
      exact congrArg₂ (Milestone.mk · · _) (congrArg Reply.on hreply) hevents
    · rw [Session.step_on hr, Session.step_on hr']
      exact hcount

/-- **A run is alike the run of its declarations alone** — milestone by milestone, and at its
end. -/
theorem declarations (h : s.Alike s') (calls : List Call) :
    s.milestones calls = s'.milestones (declarations calls) ∧
      (s.serveAll calls).Alike (s'.serveAll (Session.declarations calls)) := by
  induction calls generalizing s s' with
  | nil => exact ⟨rfl, h⟩
  | cons call calls ih =>
    match call with
    | .on i (.serve op) =>
      obtain ⟨hmilestone, hnext⟩ := h.step_on i op
      obtain ⟨hmilestones, hlast⟩ := ih hnext
      exact ⟨congrArg₂ List.cons hmilestone hmilestones, hlast⟩
    | .on i (.ask query) => exact ih (h.serve_of_declares_eq_false (.on i (.ask query)) rfl)
    | .locally op => exact ih (h.serve_of_declares_eq_false (.locally op) rfl)

end Alike

end Session

/-! ## Configurations -/

/-- The configuration that an operation declares, as JSON. -/
def RegistryOp.configJson? : RegistryOp → Option Json
  | declareTable config => some config.toJson
  | declareLogStream config => some config.toJson
  | declareIdentityPool config => some config.toJson
  | _ => none

/-- A declaration hands out what it declares — the handle carries the configuration. -/
theorem RegistryOp.configJson?_of_reply_resource {b : Workbench} {op : RegistryOp} {r : Resource}
    (h : (op.run b).1 = .resource r) : op.configJson? = some r.configJson := by
  have hdeclared := RegistryOp.declared?_of_reply_resource h
  cases op with
  | declareTable config | declareLogStream config | declareIdentityPool config =>
    obtain rfl := Option.some.inj hdeclared
    rfl
  | _ => exact absurd hdeclared nofun

namespace Session

/-- The requests of a run — its calls without the queries. -/
def requests (calls : List Call) : List Request := calls.filterMap Call.request?

theorem serveAll_eq_run (s : Session) (calls : List Call) :
    s.serveAll calls = (s.run (requests calls)).2 := by
  induction calls generalizing s with
  | nil => rfl
  | cons call calls ih =>
    rw [requests, List.filterMap_cons]
    cases hrequest : call.request? with
    | none =>
      have hserve : s.serve call = s := by rw [serve, hrequest, Option.elim_none]
      exact (congrArg (·.serveAll calls) hserve).trans (ih s)
    | some request =>
      have hserve : s.serve call = (s.step request).2 := by rw [serve, hrequest, Option.elim_some]
      exact (congrArg (·.serveAll calls) hserve).trans (ih (s.step request).2)

theorem requests_append_serve (front back : List Call) (i : Nat) (op : RegistryOp) :
    requests (front ++ .on i (.serve op) :: back) =
      requests front ++ .on i op :: requests back := by
  rw [requests, List.filterMap_append]
  rfl

/-- **A configuration is shown as it was declared** — whatever a registry holds, at whatever time,
shows the configuration under which its object was declared. -/
theorem configJson_of_declared {settings : List Settings} {front back : List Call} {i : Nat}
    {op : RegistryOp} {r : Resource}
    (hgenuine : (start settings).Genuine (requests (front ++ .on i (.serve op) :: back)))
    (hreply : (((start settings).serveAll front).step (.on i op)).1 = .on (.resource r)) :
    op.configJson? = some r.configJson ∧
      ∀ registry ∈ ((start settings).serveAll (front ++ .on i (.serve op) :: back)).registries,
        ∀ held ∈ registry.resources, held.sameAs r = true → held.configJson = r.configJson := by
  obtain ⟨declaring, -, hmade⟩ := step_on_eq_of_reply hreply
  refine ⟨RegistryOp.configJson?_of_reply_resource hmade,
    fun registry hregistry held hheld hsame => ?_⟩
  have haccounted := Accounted.run_start hgenuine
  rw [serveAll_eq_run] at hregistry hreply
  obtain ⟨j, hj⟩ := Array.mem_iff_getElem?.1 hregistry
  have hmem := haccounted.registered hj held hheld
  have hdeclared : r ∈ (start settings).handles
    (requests (front ++ .on i (.serve op) :: back)) := by
    rw [requests_append_serve]
    exact mem_handles_of_handle? (congrArg Reply.handle? hreply) _
  exact congrArg Resource.configJson (haccounted.objects.eq_of_sameAs hmem hdeclared hsame)

/-! ## Two runs -/

/-- **Every configuration is shown as it was declared**, from its declaration on: at every point of
the run, in every registry. -/
def ShowsDeclared (s : Session) (calls : List Call) : Prop :=
  ∀ front i op back r, front ++ .on i (.serve op) :: back <+: calls →
    ((s.serveAll front).step (.on i op)).1 = .on (.resource r) →
      op.configJson? = some r.configJson ∧
        ∀ registry ∈ (s.serveAll (front ++ .on i (.serve op) :: back)).registries,
          ∀ held ∈ registry.resources, held.sameAs r = true → held.configJson = r.configJson

theorem showsDeclared_of_genuine {settings : List Settings} {calls : List Call}
    (h : (start settings).Genuine (requests calls)) : (start settings).ShowsDeclared calls := by
  rintro front i op back r ⟨rest, rfl⟩ hreply
  have hgenuine : (start settings).Genuine (requests (front ++ .on i (.serve op) :: back)) := by
    rw [requests, List.filterMap_append] at h
    exact h.of_append
  exact configJson_of_declared hgenuine hreply

/-- **Declarations depend on declarations only.**  Two runs that differ in what is done through
handles, in look-ups and in snapshots, and agree in their declarations, declare the same: reply by
reply, event by event and snapshot by snapshot.  At points with the same declarations behind them
the registries are the same.  And in a run that goes by its handles, what was declared is shown as
it was declared. -/
theorem noninterference (settings : List Settings) (calls calls' : List Call)
    (h : declarations calls = declarations calls') :
    let s := start settings
    s.milestones calls = s.milestones calls' ∧
      (∀ front front', front <+: calls → front' <+: calls' →
        declarations front = declarations front' →
          (s.serveAll front).registries = (s.serveAll front').registries ∧
          (s.serveAll front).snapshots = (s.serveAll front').snapshots) ∧
      (s.Genuine (requests calls) → s.ShowsDeclared calls) := by
  intro s
  have hsame (a b : List Call) (hab : declarations a = declarations b) :
      s.milestones a = s.milestones b ∧ (s.serveAll a).registries = (s.serveAll b).registries := by
    obtain ⟨hmilestones, hlast⟩ := (Alike.refl s).declarations a
    obtain ⟨hmilestones', hlast'⟩ := (Alike.refl s).declarations b
    rw [hab] at hmilestones hlast
    exact ⟨hmilestones.trans hmilestones'.symm, hlast.registries.trans hlast'.registries.symm⟩
  refine ⟨(hsame calls calls' h).1, fun front front' _ _ hfront => ?_, showsDeclared_of_genuine⟩
  have hregistries := (hsame front front' hfront).2
  exact ⟨hregistries, by rw [snapshots, snapshots, hregistries]⟩

/-- A handler fills a table before it is declared as a middleware, and is never called in the other
run. -/
theorem noninterference_of_call :
    let table : Table := ⟨0, { name := "users" }⟩
    let item : Json := .obj [("id", .bool true)]
    let h : Handler :=
      { Handler.echo 0 "fill" with
        body := fun input => .put table (.json input) fun _ => .answer .null }
    let declare : Call := .on 0 (.serve (.declareTable table.config))
    let layer : Call := .on 0 (.serve (.middleware h))
    let calls := [declare, .locally (.call h item), .on 0 (.ask .snapshot), layer]
    let s := start [{}]
    s.milestones calls = s.milestones [declare, layer] ∧
      (s.serveAll calls).workspace.contents.items 0 = ({} : Items).insert "true" item ∧
      (s.serveAll [declare, layer]).workspace.contents.items 0 = {} ∧
      s.ShowsDeclared calls := by
  intro table item h declare layer calls s
  have hvalid : table.config.validate = .ok () :=
    TableConfig.validate_eq_ok_iff.2 ⟨by decide, by decide⟩
  have hdeclare : s.step (.on 0 (.declareTable table.config)) =
      (.on (.resource (.table table)),
        ⟨#[(Registry.withSettings {}).putResource (.table table)],
          { contents := ({} : Contents).newTable,
            journal := [.resourceDeclared "users" .table] }⟩) := by
    simp [s, step, start, RegistryOp.run, Workbench.declareResource, Workbench.declareTable, hvalid,
      Workbench.putResource, Registry.withSettings]
    exact ⟨rfl, rfl, rfl⟩
  have hgenuine : s.Genuine (requests calls) := by
    have hhandles : s.handles [.on 0 (.declareTable table.config)] = [.table table] := by
      rw [handles, run, hdeclare]
      rfl
    have hfirst : s.Genuine [.on 0 (.declareTable table.config)] := s.genuine_nil.concat trivial
    have hcall : (Request.locally (.call h item)).Within
        (s.handles [.on 0 (.declareTable table.config)]) :=
      ⟨hhandles ▸ List.mem_singleton_self _, fun _ => trivial⟩
    exact (hfirst.concat hcall).concat trivial
  obtain ⟨hmilestones, -, hshown⟩ := noninterference [{}] calls [declare, layer] rfl
  refine ⟨hmilestones, ?_, ?_, hshown hgenuine⟩
  · simp only [calls, serveAll, List.foldl, serve, declare, Call.request?, Option.elim_some,
      hdeclare]
    rfl
  · simp only [serveAll, List.foldl, serve, declare, Call.request?, Option.elim_some, hdeclare]
    rfl

end Session

end BackendPlan
