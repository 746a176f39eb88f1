import BackendPlan.Proofs.Decoration.Insertion
import BackendPlan.Proofs.Decoration.Settle
import BackendPlan.Proofs.Registry.Footprint

/-!
# Proofs/Registry/Reports — what one operation reports, by what it did

Events are reported in many places, before the change they are about or after it, and not at all
where an operation is cut short.  Here they are told from the registry alone, each beside the
registry it leads to.

* `registration`, `replacement?`, `reconciliation?` — the event of a registration, of an application
  made current, and of a decoration.
* `Registry.Reported` — the reply of an operation, its events, and the registry it leads to.
* `RegistryOp.reported` — **every operation reports what it did**.
* `RegistryOp.journal_run` — and leaves the journal before it as it was.
-/

namespace BackendPlan

namespace Registry

/-- The event of a registration: "resource overwritten" where the name is there, "resource declared"
where it is not. -/
def registration (r : Registry) (x : Resource) : Event :=
  if x.name ∈ r.names then .resourceOverwritten x.name x.kind else .resourceDeclared x.name x.kind

/-- The event of an application made current, if it replaces one. -/
def replacement? (r : Registry) (app : Application) : Option Event :=
  r.application.map fun current => .applicationReplaced current.name app.name

/-- The event of a reconciliation, if there is anything to report. -/
def reconciliation? (r : Registry) (h : Handler) : Option Event :=
  match r.findRoute? h.id with
  | some record => some (.routeUpdated h.name (record.absorb (r.pending h.id)).path)
  | none => (r.pending h.id).route.map fun attrs => .routeDeclared h.name attrs.path

end Registry

namespace Workbench

variable {b : Workbench}

/-! ## Registering -/

theorem putResource_of_collision? (hb : b.registry.Indexed) {x : Resource} {cause : DeclareError}
    (h : b.registry.collision? (.resource x.name) = some cause) :
    b.putResource x = (.error cause, b) := by
  have hresult := fst_putResource hb x
  rw [h, DeclareError.refuse] at hresult
  rcases b.putResource_cases x with ⟨other, hput⟩ | ⟨event, hput⟩
  · rw [hput] at hresult ⊢
    exact congrArg (·, b) hresult
  · rw [hput] at hresult
    cases hresult

/-- **A registration in a free slot is served**, and reported by whether the name was there. -/
theorem putResource_of_free (hb : b.registry.Indexed) {x : Resource}
    (h : b.registry.collision? (.resource x.name) = none) :
    b.putResource x =
      (.ok (), (b.report (b.registry.registration x)).modifyRegistry (·.putResource x)) := by
  have hresult := fst_putResource hb x
  rw [h, DeclareError.refuse] at hresult
  rw [Registry.registration]
  by_cases hmem : x.name ∈ b.registry.names
  · obtain ⟨i, -, hi, -⟩ := hb.exists_slot hmem
    rw [if_pos hmem]
    rw [putResource, hi] at hresult ⊢
    dsimp only at hresult ⊢
    split at hresult
    · cases hresult
    · next hstrict => rw [if_neg hstrict]
  · rw [if_neg hmem, putResource, hb.getElem?_eq_none_iff.2 hmem]

/-- `putResource` is refused, or served and reported. -/
theorem putResource_reported (hb : b.registry.Indexed) (x : Resource) :
    (∃ cause, b.putResource x = (.error cause, b)) ∨
      b.putResource x =
        (.ok (), (b.report (b.registry.registration x)).modifyRegistry (·.putResource x)) := by
  cases hfree : b.registry.collision? (.resource x.name) with
  | some cause => exact .inl ⟨cause, putResource_of_collision? hb hfree⟩
  | none => exact .inr (putResource_of_free hb hfree)

/-- So is a declaration of a resource. -/
theorem declareResource_reported {α : Type} (hb : b.registry.Indexed)
    (check : Except DeclareError Unit) (x : Resource) (handle : α) (make : Contents → Contents) :
    (∃ cause, b.declareResource check x handle make = (.error cause, b)) ∨
      b.declareResource check x handle make =
        (.ok handle, ((b.report (b.registry.registration x)).modifyRegistry
          (·.putResource x)).modifyContents make) := by
  cases check with
  | error cause => exact .inl ⟨cause, rfl⟩
  | ok u =>
    rcases putResource_reported hb x with ⟨cause, hput⟩ | hput
    · exact .inl ⟨cause, by rw [declareResource, hput]⟩
    · exact .inr (by rw [declareResource, hput])

/-! ## Applications -/

/-- **Making an application current** is refused, or reported if it replaces one. -/
theorem setApplication_reported (b : Workbench) (app : Application) :
    (∃ cause, b.setApplication app = (.error cause, b)) ∨
      ∃ w : Workspace,
        w.journal = b.workspace.journal ++ (b.registry.replacement? app).toList ∧
        b.setApplication app = (.ok (), ⟨b.registry.apply app, w⟩) := by
  rw [setApplication, Registry.replacement?]
  cases b.registry.application with
  | none => exact .inr ⟨b.workspace, (List.append_nil _).symm, rfl⟩
  | some current =>
    cases b.registry.settings.strict with
    | true => exact .inl ⟨_, rfl⟩
    | false => exact .inr ⟨_, rfl, rfl⟩

/-- `declareApplication` reports the application after what it replaces. -/
theorem declareApplication_reported (b : Workbench) (config : AppConfig) :
    (∃ cause, b.declareApplication config = (.error cause, b)) ∨
      ∃ (app : Application) (w : Workspace),
        w.journal = b.workspace.journal ++ ((b.registry.replacement? app).toList ++
          [.applicationDeclared app.name app.stage app.region]) ∧
        b.declareApplication config = (.ok app, ⟨b.registry.apply app, w⟩) := by
  unfold declareApplication
  dsimp only
  cases config.validate with
  | error cause => exact .inl ⟨cause, rfl⟩
  | ok u =>
    let app := applicationOf b.registry.settings config
    rcases b.setApplication_reported app with ⟨cause, hset⟩ | ⟨w, hw, hset⟩
    · exact .inl ⟨cause, by simp only [app, hset]⟩
    · refine .inr ⟨app, w.report (.applicationDeclared app.name app.stage app.region), ?_,
        by simp only [app, hset]; rfl⟩
      rw [← List.append_assoc, ← hw]
      rfl

/-! ## Decorations -/

/-- **A reconciliation reports one event at most**, and changes no contents — `reconciliation?` says
which. -/
theorem workspace_reconcile (b : Workbench) (h : Handler) :
    (b.reconcile h).workspace =
      (b.registry.reconciliation? h).elim b.workspace b.workspace.report := by
  cases hfound : b.registry.findRoute? h.id with
  | some record =>
    simp only [reconcile, Registry.reconciliation?, hfound]
    rfl
  | none =>
    cases hroute : (b.registry.pending h.id).route <;>
      simp only [reconcile, Registry.reconciliation?, hfound, hroute] <;> rfl

/-- `setPending` and then `reconcile` decorates the registry. -/
theorem registry_reconcile_setPending (b : Workbench) (h : Handler) (pending : Pending) :
    ((b.modifyRegistry (·.setPending h.id pending)).reconcile h).registry =
      b.registry.decorate h pending := by
  rw [registry_reconcile, registry_modifyRegistry, Registry.pending_setPending_self]
  rfl

/-- At most one event, added to a `journal`. -/
theorem journal_elim_report (event : Option Event) (w : Workspace) :
    (event.elim w w.report).journal = w.journal ++ event.toList := by
  cases event with
  | none => exact (List.append_nil _).symm
  | some event => rfl

end Workbench

/-! ## Reports -/

/-- **What an operation reports**: its reply, its events, and the registry it leads to; told from
the registry before it alone. -/
inductive Registry.Reported (r : Registry) :
    RegistryOp → RegistryReply → List Event → Registry → Prop
  /-- Only what claims a slot is refused, and a refusal is silent. -/
  | refused {op : RegistryOp} (hslot : op.slot?.isSome = true) (cause : DeclareError) :
      Reported r op (.refused cause) [] r
  /-- A registration says whether the name was there. -/
  | registered {op : RegistryOp} {reply : RegistryReply} {x : Resource}
      (hslot : op.slot?.isSome = true) (hx : Exchange.registered? ⟨op, reply⟩ = some x) :
      Reported r op reply [r.registration x] (r.putResource x)
  /-- A declared application is reported after the one it replaces. -/
  | declared {config : AppConfig} {app : Application} :
      Reported r (.declareApplication config) (.application app)
        ((r.replacement? app).toList ++ [.applicationDeclared app.name app.stage app.region])
        (r.apply app)
  /-- An application given as it is shows in the one it replaces. -/
  | set {app : Application} :
      Reported r (.setApplication app) .done (r.replacement? app).toList (r.apply app)
  | layered {h : Handler} :
      Reported r (.middleware h) (.handler h) [.middlewareDeclared h.name] (r.appendMiddleware h)
  /-- A decoration reports what became of the record; without a route there need not be any. -/
  | decorated {op : RegistryOp} {h : Handler} {p : Pending} (hop : op.decorated? = some h)
      (hwaits : p.route = none → ∃ spec, op = .auth h spec) :
      Reported r op (.handler h) ((r.setPending h.id p).reconciliation? h).toList (r.decorate h p)
  /-- An import is silent, and so is an edit. -/
  | imported {record : Route} : Reported r (.appendRoute record) .done [] (r.appendRoute record)
  | edited {id : HandlerId} {edit : Route.Edit} {found : Bool} :
      Reported r (.editRoute id edit) (.edited found) [] (r.updateRoute id (·.edit edit))
  | reset : Reported r .reset .done [] r.reset

namespace RegistryOp

/-- **An operation adds its events to the journal**, and takes none away — so `events` loses
nothing. -/
theorem journal_run (op : RegistryOp) (b : Workbench) :
    (op.run b).2.workspace.journal = b.workspace.journal ++ op.events b := by
  obtain ⟨f, hf⟩ := op.isSteady_run b
  have hrun : op.run b = f.leave b.workspace := hf b.workspace rfl
  rw [events, hrun, Footprint.leave, List.drop_left]

theorem events_eq {op : RegistryOp} {b next : Workbench} {reply : RegistryReply}
    {events : List Event} (hrun : op.run b = (reply, next))
    (h : next.workspace.journal = b.workspace.journal ++ events) : op.events b = events := by
  rw [RegistryOp.events, hrun, h, List.drop_left]

variable {b : Workbench}

/-- What an operation does and what it adds to the journal is what it reports. -/
theorem reported_of_run {op : RegistryOp} {reply : RegistryReply} {next : Workbench}
    {events : List Event} (hrun : op.run b = (reply, next))
    (hjournal : next.workspace.journal = b.workspace.journal ++ events)
    (h : b.registry.Reported op reply events next.registry) :
    b.registry.Reported op (op.run b).1 (op.events b) (op.run b).2.registry := by
  rw [events_eq hrun hjournal, hrun]
  exact h

theorem reported_of_refused {op : RegistryOp} {cause : DeclareError}
    (hslot : op.slot?.isSome = true) (hrun : op.run b = (.refused cause, b)) :
    b.registry.Reported op (op.run b).1 (op.events b) (op.run b).2.registry :=
  reported_of_run hrun (List.append_nil _).symm (.refused hslot cause)

/-- A declaration of a resource, whatever its kind. -/
theorem reported_of_declared? (hb : b.registry.Indexed) {op : RegistryOp} {x : Resource}
    (h : op.declared? b.workspace.contents = some x) :
    b.registry.Reported op (op.run b).1 (op.events b) (op.run b).2.registry := by
  have hrun := run_of_declared? h
  have hslot : op.slot?.isSome = true := Option.isSome_of_mem (claims_of_declared? h).1
  rcases Workbench.declareResource_reported hb x.validate x x (·.make x.kind) with
    ⟨cause, hdeclare⟩ | hdeclare
  · rw [hdeclare] at hrun
    exact reported_of_refused hslot hrun
  · rw [hdeclare] at hrun
    exact reported_of_run hrun rfl (.registered hslot rfl)

/-- A decoration, whatever it declares. -/
theorem reported_of_decorated? {op : RegistryOp} {h : Handler} {p : Pending}
    (hrun : op.run b = (.handler h, (b.modifyRegistry (·.setPending h.id p)).reconcile h))
    (hop : op.decorated? = some h) (hwaits : p.route = none → ∃ spec, op = .auth h spec) :
    b.registry.Reported op (op.run b).1 (op.events b) (op.run b).2.registry := by
  have hreported := Registry.Reported.decorated (r := b.registry) hop hwaits
  rw [← Workbench.registry_reconcile_setPending] at hreported
  refine reported_of_run hrun ?_ hreported
  rw [Workbench.workspace_reconcile, Workbench.journal_elim_report]
  rfl

/-- **Every operation reports what it did** — claims, decorations and the rest, each by its
lemma. -/
theorem reported (hb : b.registry.Indexed) (op : RegistryOp) :
    b.registry.Reported op (op.run b).1 (op.events b) (op.run b).2.registry := by
  cases op with
  | declareTable config => exact reported_of_declared? hb rfl
  | declareLogStream config => exact reported_of_declared? hb rfl
  | declareIdentityPool config => exact reported_of_declared? hb rfl
  | putResource x =>
    rcases Workbench.putResource_reported hb x with ⟨cause, hput⟩ | hput
    · exact reported_of_refused rfl (by rw [run, hput]; rfl)
    · exact reported_of_run (by rw [run, hput]) rfl (.registered rfl rfl)
  | setApplication app =>
    rcases b.setApplication_reported app with ⟨cause, hset⟩ | ⟨w, hw, hset⟩
    · exact reported_of_refused rfl (by rw [run, hset]; rfl)
    · exact reported_of_run (by rw [run, hset]) hw .set
  | declareApplication config =>
    rcases b.declareApplication_reported config with ⟨cause, hdeclare⟩ | ⟨app, w, hw, hdeclare⟩
    · exact reported_of_refused rfl (by rw [run, hdeclare]; rfl)
    · exact reported_of_run (by rw [run, hdeclare]) hw .declared
  | route h spec =>
    exact reported_of_decorated?
      (p := { b.registry.pending h.id with route := some spec.attributes }) rfl rfl
      fun hnone => absurd hnone (Option.some_ne_none _)
  | auth h spec =>
    exact reported_of_decorated?
      (p := { b.registry.pending h.id with auth := some spec.descriptor }) rfl rfl
      fun _ => ⟨spec, rfl⟩
  | middleware h => exact reported_of_run rfl rfl .layered
  | appendRoute record => exact reported_of_run rfl (List.append_nil _).symm .imported
  | editRoute id edit => exact reported_of_run rfl (List.append_nil _).symm .edited
  | reset => exact reported_of_run rfl (List.append_nil _).symm .reset

end RegistryOp

end BackendPlan
