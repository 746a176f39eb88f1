import BackendPlan.Proofs.Registry.Reports

/-!
# Proofs/Registry/Journal — the journal and the registry tell the same story

A registry can be read off the events since its last reset, except for what was imported in silence:

    names of resources      the resources of "resource declared", in order
    number of routes        the number of "route declared", and of imports

* `Turn` — an operation of a run, with its events and the registry before and after.
* `Turn.Truthful` — **what a turn reports is what it did**.
* `Workbench.turns`, `Turn.sinceReset` — the turns of a run, and those since the last reset.
* `Workbench.journal_agrees` — both, in every run.
-/

namespace BackendPlan

/-! ## Reading events -/

namespace Event

/-- What an event says under `field`. -/
def field? (e : Event) (field : String) : Option String := e.fields.lookup field

/-- The events with the message `message`. -/
def withMessage (message : String) (events : List Event) : List Event :=
  events.filter (·.message = message)

/-- **What the events with a message say under a field**, in order. -/
def texts (message field : String) (events : List Event) : List String :=
  (withMessage message events).filterMap (·.field? field)

theorem withMessage_append (message : String) (front back : List Event) :
    withMessage message (front ++ back) = withMessage message front ++ withMessage message back :=
  List.filter_append ..

theorem texts_append (message field : String) (front back : List Event) :
    texts message field (front ++ back) =
      texts message field front ++ texts message field back := by
  rw [texts, withMessage_append, List.filterMap_append]
  rfl

end Event

/-! ## Turns -/

/-- **An operation of a run**: the `Exchange`, its events, and the registry before and after. -/
structure Turn extends Exchange where
  before : Registry
  events : List Event
  after : Registry

/-- The turn that an operation takes on a workbench. -/
def RegistryOp.turn (op : RegistryOp) (b : Workbench) : Turn where
  toExchange := op.exchange b
  before := b.registry
  events := op.events b
  after := (op.run b).2.registry

/-- **The turns of a run**, each on the workbench that the one before it left. -/
def Workbench.turns (b : Workbench) : List RegistryOp → List Turn
  | [] => []
  | op :: ops => op.turn b :: (op.run b).2.turns ops

/-- The import of a record (`appendRoute`), which is not reported. -/
def RegistryOp.isImport : RegistryOp → Bool
  | appendRoute _ => true
  | _ => false

namespace Turn

/-- **The turns since the last reset** — `RegistryOp.sinceReset`, with what was reported. -/
def sinceReset (turns : List Turn) : List Turn := turns.rtakeWhile fun t => !t.op.isReset

theorem sinceReset_concat (turns : List Turn) (t : Turn) :
    sinceReset (turns ++ [t]) = if t.op.isReset then [] else sinceReset turns ++ [t] := by
  rw [sinceReset, List.rtakeWhile_concat, sinceReset]
  cases t.op.isReset <;> rfl

/-- **What a decoration of a handler comes to**, and how it is reported: a record updated, a record
declared, or an authorization that waits. -/
inductive Settles (t : Turn) (h : Handler) : Prop
  /-- The first record of the handler is brought up to date. -/
  | updated (old record : Route) (hbefore : t.before.findRoute? h.id = some old)
      (hafter : t.after.findRoute? h.id = some record)
      (hlength : t.after.routes.length = t.before.routes.length)
      (hevents : t.events = [.routeUpdated h.name record.path])
  /-- A record is added, the first of the handler. -/
  | declared (record : Route) (hbefore : t.before.findRoute? h.id = none)
      (hafter : t.after.findRoute? h.id = some record)
      (hroutes : t.after.routes = t.before.routes ++ [record])
      (hevents : t.events = [.routeDeclared h.name record.path])
  /-- An authorization waits for a route. -/
  | waiting (spec : AuthSpec) (hop : t.op = .auth h spec) (hafter : t.after.findRoute? h.id = none)
      (hroutes : t.after.routes = t.before.routes) (hevents : t.events = [])

namespace Settles

variable {t : Turn} {h : Handler}

/-- A decoration is reported as "route declared" or "route updated" and in no other words. -/
theorem withMessage_eq_nil (ht : t.Settles h) {message : String}
    (hdeclared : "route declared" ≠ message)
    (hupdated : "route updated" ≠ message) : Event.withMessage message t.events = [] := by
  cases ht with
  | updated _ _ _ _ _ hevents =>
    rw [hevents]
    exact List.filter_cons_of_neg (decide_eq_true_iff.not.2 hupdated)
  | declared _ _ _ _ hevents =>
    rw [hevents]
    exact List.filter_cons_of_neg (decide_eq_true_iff.not.2 hdeclared)
  | waiting _ _ _ _ hevents =>
    rw [hevents]
    rfl

/-- **It adds the record that it reports as declared**, if it does: "route updated" is said where
the handler had one. -/
theorem length_routes (ht : t.Settles h) :
    t.after.routes.length =
      t.before.routes.length + (Event.withMessage "route declared" t.events).length := by
  cases ht with
  | updated _ _ _ _ hlength hevents =>
    rw [hlength, hevents]
    rfl
  | declared _ _ _ hroutes hevents =>
    rw [hroutes, hevents, List.length_append]
    rfl
  | waiting _ _ _ hroutes hevents =>
    rw [hroutes, hevents]
    rfl

end Settles

/-- **What a turn reports is what it did**: what is said to be overwritten was there, a replacement
replaced, and a decoration came to what is said of it. -/
structure Truthful (t : Turn) : Prop where
  /-- A resource that is reported as overwritten was there. -/
  overwritten : ∀ e ∈ Event.withMessage "resource overwritten" t.events,
    ∃ name ∈ t.before.names, e.field? "resource" = some name
  /-- The application is the one that was made current, if one was, or the one before. -/
  application : t.after.application =
    if t.op.isReset then none else t.applied?.or t.before.application
  /-- A replacement is reported exactly when an application takes the place of another. -/
  replaced : Event.withMessage "application replaced" t.events =
    (t.applied?.bind t.before.replacement?).toList
  /-- A declaration reports it before the application that it declares. -/
  declared : ∀ app, t.reply = .application app → t.events =
    (t.before.replacement? app).toList ++ [.applicationDeclared app.name app.stage app.region]
  /-- A decoration is reported by what it comes to. -/
  decorated : ∀ h, t.op.decorated? = some h → t.Settles h

end Turn

/-! ## One turn -/

namespace RegistryOp

/-- What claims a slot is no `reset`, no import and no decoration. -/
theorem of_slot? {op : RegistryOp} (h : op.slot?.isSome = true) :
    op.isReset = false ∧ op.isImport = false ∧ op.decorated? = none := by
  cases op with
  | route _ _ | auth _ _ | middleware _ | appendRoute _ | editRoute _ _ | reset =>
    exact absurd h nofun
  | _ => exact ⟨rfl, rfl, rfl⟩

/-- A decoration is no `reset` and no import. -/
theorem of_decorated? {op : RegistryOp} {h : Handler} (hop : op.decorated? = some h) :
    op.isReset = false ∧ op.isImport = false := by
  cases op with
  | route _ _ | auth _ _ => exact ⟨rfl, rfl⟩
  | _ => exact absurd hop nofun

end RegistryOp

/-- What registers a resource applies no application. -/
theorem Exchange.applied?_of_registered? {e : Exchange} {x : Resource}
    (h : e.registered? = some x) : e.applied? = none ∧ ∀ app, e.reply ≠ .application app := by
  obtain ⟨op, reply⟩ := e
  cases reply with
  | resource y => exact ⟨rfl, nofun⟩
  | done =>
    cases op with
    | putResource y => exact ⟨rfl, nofun⟩
    | _ => exact absurd h nofun
  | _ => exact absurd h nofun

namespace Registry

variable {r : Registry}

theorem reconciliation?_setPending (r : Registry) (h : Handler) (p : Pending) :
    (r.setPending h.id p).reconciliation? h =
      match r.findRoute? h.id with
      | some record => some (.routeUpdated h.name (record.absorb p).path)
      | none => p.route.map fun attrs => .routeDeclared h.name attrs.path := by
  rw [reconciliation?, pending_setPending_self]
  rfl

/-- A registration is reported as "resource declared" or "resource overwritten" and in no other
words. -/
theorem withMessage_registration (r : Registry) (x : Resource) {message : String}
    (hdeclared : "resource declared" ≠ message) (hoverwritten : "resource overwritten" ≠ message) :
    Event.withMessage message [r.registration x] = [] := by
  rw [registration]
  split
  · exact List.filter_cons_of_neg (decide_eq_true_iff.not.2 hoverwritten)
  · exact List.filter_cons_of_neg (decide_eq_true_iff.not.2 hdeclared)

/-- A replacement is reported as "application replaced" and in no other words. -/
theorem withMessage_replacement? (r : Registry) (app : Application) {message : String}
    (h : "application replaced" ≠ message) :
    Event.withMessage message (r.replacement? app).toList = [] := by
  rw [replacement?]
  cases r.application with
  | none => rfl
  | some current => exact List.filter_cons_of_neg (decide_eq_true_iff.not.2 h)

theorem withMessage_replacement?_self (r : Registry) (app : Application) :
    Event.withMessage "application replaced" (r.replacement? app).toList =
      (r.replacement? app).toList := by
  rw [replacement?]
  cases r.application <;> rfl

/-- **What a decoration comes to** is what it reports — both ask `findRoute?` first, then for a
pending route. -/
theorem settles (r : Registry) {op : RegistryOp} {h : Handler} {p : Pending}
    (hwaits : p.route = none → ∃ spec, op = .auth h spec) :
    Turn.Settles ⟨⟨op, .handler h⟩, r, ((r.setPending h.id p).reconciliation? h).toList,
      r.decorate h p⟩ h := by
  rw [reconciliation?_setPending]
  cases hfound : r.findRoute? h.id with
  | some old =>
    have hroutes : (r.decorate h p).routes = Route.updateFirst h.id (·.absorb p) r.routes :=
      Route.settle_of_some hfound
    refine .updated old (old.absorb p) hfound ?_ ?_ rfl
    · rw [findRoute?, hroutes, Route.findFirst?_updateFirst fun r => r.handler_absorb p]
      exact congrArg (Option.map _) hfound
    · rw [hroutes, Route.length_updateFirst]
  | none =>
    have hroutes : (r.decorate h p).routes = r.routes ++ (p.record h).toList :=
      Route.settle_of_none hfound
    have hafter : (r.decorate h p).findRoute? h.id = Route.findFirst? h.id (p.record h).toList := by
      rw [findRoute?, hroutes, Route.findFirst?, List.find?_append]
      exact congrArg (Option.or · _) hfound
    cases hroute : p.route with
    | some attrs =>
      rw [Pending.record, hroute] at hroutes hafter
      exact .declared _ hfound (hafter.trans (Route.findFirst?_cons_self [] rfl)) hroutes rfl
    | none =>
      rw [Pending.record, hroute] at hroutes hafter
      obtain ⟨spec, hop⟩ := hwaits hroute
      exact .waiting spec hop hafter (hroutes.trans (List.append_nil _)) rfl

/-- A refusal says nothing and does nothing. -/
theorem truthful_refused (r : Registry) {op : RegistryOp} (hslot : op.slot?.isSome = true)
    (cause : DeclareError) : Turn.Truthful ⟨⟨op, .refused cause⟩, r, [], r⟩ := by
  obtain ⟨hreset, -, hdecorated⟩ := RegistryOp.of_slot? hslot
  exact {
    overwritten := List.forall_mem_nil _
    application := by
      rw [hreset]
      rfl
    replaced := rfl
    declared := fun _ happ => by cases happ
    decorated := fun h hop => absurd (hop.symm.trans hdecorated) (Option.some_ne_none h) }

/-- A registration says whether the name was there, and leaves the application alone. -/
theorem truthful_registered (r : Registry) {op : RegistryOp} {reply : RegistryReply} {x : Resource}
    (hslot : op.slot?.isSome = true) (hx : Exchange.registered? ⟨op, reply⟩ = some x) :
    Turn.Truthful ⟨⟨op, reply⟩, r, [r.registration x], r.putResource x⟩ := by
  obtain ⟨hreset, -, hdecorated⟩ := RegistryOp.of_slot? hslot
  obtain ⟨happlied, hreply⟩ := Exchange.applied?_of_registered? hx
  exact {
    overwritten := by
      rw [registration]
      split
      · next hmem => exact List.forall_mem_singleton.2 ⟨_, hmem, rfl⟩
      · exact List.forall_mem_nil _
    application := by
      rw [hreset, happlied]
      exact r.application_putResource _
    replaced := by
      rw [happlied, registration]
      split <;> rfl
    declared := fun app happ => absurd happ (hreply app)
    decorated := fun h hop => absurd (hop.symm.trans hdecorated) (Option.some_ne_none h) }

/-- A declared application is reported after the one that it replaces. -/
theorem truthful_declared (r : Registry) {config : AppConfig} {app : Application} :
    Turn.Truthful ⟨⟨.declareApplication config, .application app⟩, r,
      (r.replacement? app).toList ++ [.applicationDeclared app.name app.stage app.region],
      r.apply app⟩ where
  overwritten := by
    rw [Event.withMessage_append, r.withMessage_replacement? _ (by decide)]
    exact List.forall_mem_nil _
  application := rfl
  replaced := by
    rw [Event.withMessage_append, r.withMessage_replacement?_self]
    exact List.append_nil _
  declared := fun app happ => by
    obtain rfl := RegistryReply.application.inj happ
    rfl
  decorated := fun h hop => absurd hop.symm (Option.some_ne_none h)

/-- An application given as it is shows in the one that it replaces. -/
theorem truthful_set (r : Registry) {app : Application} :
    Turn.Truthful ⟨⟨.setApplication app, .done⟩, r, (r.replacement? app).toList, r.apply app⟩ where
  overwritten := by
    rw [r.withMessage_replacement? _ (by decide)]
    exact List.forall_mem_nil _
  application := rfl
  replaced := r.withMessage_replacement?_self _
  declared := fun _ happ => by cases happ
  decorated := fun h hop => absurd hop.symm (Option.some_ne_none h)

/-- A decoration is reported by what it comes to, as `settles` says, and by nothing else. -/
theorem truthful_decorated (r : Registry) {op : RegistryOp} {h : Handler} {p : Pending}
    (hop : op.decorated? = some h) (hwaits : p.route = none → ∃ spec, op = .auth h spec) :
    Turn.Truthful ⟨⟨op, .handler h⟩, r, ((r.setPending h.id p).reconciliation? h).toList,
      r.decorate h p⟩ := by
  obtain ⟨hreset, -⟩ := RegistryOp.of_decorated? hop
  have hsettles := r.settles hwaits
  exact {
    overwritten := by
      rw [hsettles.withMessage_eq_nil (by decide) (by decide)]
      exact List.forall_mem_nil _
    application := by
      rw [hreset]
      rfl
    replaced := by
      rw [hsettles.withMessage_eq_nil (by decide) (by decide)]
      rfl
    declared := fun _ happ => by cases happ
    decorated := fun g hg => by
      obtain rfl := Option.some.inj (hop.symm.trans hg)
      exact hsettles }

namespace Reported

variable {op : RegistryOp} {reply : RegistryReply} {events : List Event} {next : Registry}

/-- **A turn adds the names that it reports as declared**, unless it is a reset — "resource
overwritten" is said where the name was there. -/
theorem names (hr : r.Indexed) (h : r.Reported op reply events next) (hreset : op.isReset = false) :
    next.names = r.names ++ Event.texts "resource declared" "resource" events := by
  cases h with
  | refused | layered | imported | edited => exact (List.append_nil _).symm
  | registered =>
    rw [hr.names_putResource, registration]
    split
    · exact (List.append_nil _).symm
    · rfl
  | declared =>
    rw [Event.texts_append, Event.texts, r.withMessage_replacement? _ (by decide)]
    exact (List.append_nil _).symm
  | set =>
    rw [Event.texts, r.withMessage_replacement? _ (by decide)]
    exact (List.append_nil _).symm
  | decorated _ hwaits =>
    rw [Event.texts, (r.settles hwaits).withMessage_eq_nil (by decide) (by decide)]
    exact (List.append_nil _).symm
  | reset => cases hreset

/-- **A turn adds the records that it reports as declared**, and the one that it imports. -/
theorem length_routes (h : r.Reported op reply events next) (hreset : op.isReset = false) :
    next.routes.length = r.routes.length +
      (Event.withMessage "route declared" events).length + if op.isImport then 1 else 0 := by
  cases h with
  | refused hslot =>
    obtain ⟨-, himport, -⟩ := RegistryOp.of_slot? hslot
    rw [himport]
    rfl
  | registered hslot =>
    obtain ⟨-, himport, -⟩ := RegistryOp.of_slot? hslot
    rw [routes_putResource, himport, r.withMessage_registration _ (by decide) (by decide)]
    rfl
  | declared =>
    rw [Event.withMessage_append, r.withMessage_replacement? _ (by decide)]
    rfl
  | set =>
    rw [r.withMessage_replacement? _ (by decide)]
    rfl
  | layered => rfl
  | imported => exact List.length_append
  | edited => exact Route.length_updateFirst ..
  | decorated hop hwaits =>
    obtain ⟨-, himport⟩ := RegistryOp.of_decorated? hop
    rw [himport]
    exact (r.settles hwaits).length_routes
  | reset => exact absurd hreset nofun

/-- **What a turn reports is what it did** — by cases on `Reported`, one for each way to report. -/
theorem truthful (h : r.Reported op reply events next) :
    Turn.Truthful ⟨⟨op, reply⟩, r, events, next⟩ := by
  cases h with
  | refused hslot cause => exact r.truthful_refused hslot cause
  | registered hslot hx => exact r.truthful_registered hslot hx
  | declared => exact r.truthful_declared
  | set => exact r.truthful_set
  | decorated hop hwaits => exact r.truthful_decorated hop hwaits
  | layered | imported | edited | reset =>
    exact {
      overwritten := List.forall_mem_nil _
      application := rfl
      replaced := rfl
      declared := fun _ happ => by cases happ
      decorated := fun h hop => absurd hop.symm (Option.some_ne_none h) }

end Reported

end Registry

/-! ## Runs -/

namespace Workbench

theorem turns_concat (b : Workbench) (ops : List RegistryOp) (op : RegistryOp) :
    b.turns (ops ++ [op]) = b.turns ops ++ [op.turn (b.after ops)] := by
  induction ops generalizing b with
  | nil => rfl
  | cons first ops ih => exact congrArg (first.turn b :: ·) (ih (first.run b).2)

/-- **The journal is what the turns report** — nothing else writes to it in a run of operations. -/
theorem journal_after (b : Workbench) (ops : List RegistryOp) :
    (b.after ops).workspace.journal = b.workspace.journal ++ (b.turns ops).flatMap Turn.events := by
  induction ops using List.reverseRecOn with
  | nil => exact (List.append_nil _).symm
  | append_singleton ops op ih =>
    rw [after_concat, RegistryOp.journal_run, ih, turns_concat, List.flatMap_append,
      List.append_assoc, List.flatMap_singleton]
    rfl

/-- **Every turn of a run is truthful** — by `reported`, the index being in step at each. -/
theorem truthful_turns {b : Workbench} (hb : b.registry.Indexed) (ops : List RegistryOp) :
    ∀ t ∈ b.turns ops, t.Truthful := by
  induction ops generalizing b with
  | nil => exact List.forall_mem_nil _
  | cons op ops ih =>
    rw [turns, List.forall_mem_cons]
    exact ⟨(op.reported hb).truthful, ih (op.indexed_run hb)⟩

/-- **The registry, read off the turns since the last reset**: its names and the number of its
routes. -/
structure ReadsOff (recent : List Turn) (r : Registry) : Prop where
  names : r.names = Event.texts "resource declared" "resource" (recent.flatMap Turn.events)
  length_routes : r.routes.length =
    (Event.withMessage "route declared" (recent.flatMap Turn.events)).length +
      recent.countP (·.op.isImport)

/-- A turn is read off beside those before it, and a reset begins anew. -/
theorem ReadsOff.run {turns : List Turn} {b : Workbench} (hb : b.registry.Indexed)
    (h : ReadsOff (Turn.sinceReset turns) b.registry) (op : RegistryOp) :
    ReadsOff (Turn.sinceReset (turns ++ [op.turn b])) (op.run b).2.registry := by
  have hturn : (op.turn b).op.isReset = op.isReset := rfl
  rw [Turn.sinceReset_concat, hturn]
  cases hreset : op.isReset with
  | true =>
    cases op with
    | reset => exact ⟨rfl, rfl⟩
    | _ => exact absurd hreset nofun
  | false =>
    have hreported := op.reported hb
    constructor
    · rw [hreported.names hb hreset, h.names, ← Event.texts_append, if_neg Bool.false_ne_true,
        List.flatMap_append, List.flatMap_singleton]
      rfl
    · rw [hreported.length_routes hreset, h.length_routes, if_neg Bool.false_ne_true,
        List.flatMap_append, List.flatMap_singleton, Event.withMessage_append, List.length_append,
        List.countP_append, List.countP_singleton, Nat.add_assoc (_ + _), Nat.add_add_add_comm]
      rfl

/-- **The journal and the registry tell the same story**, in every run from a new registry beside
any workspace.  Turn by turn, what is reported is what was done; and since the last reset, the
resources reported as declared are those of the registry, in order, and its routes are as many as
were reported as declared and imported. -/
theorem journal_agrees (settings : Settings) (w : Workspace) (ops : List RegistryOp) :
    let turns := (new settings w).turns ops
    let recent := (Turn.sinceReset turns).flatMap Turn.events
    let imports := (Turn.sinceReset turns).countP (·.op.isImport)
    let last := (new settings w).after ops
    last.workspace.journal = w.journal ++ turns.flatMap Turn.events ∧
      (∀ t ∈ turns, t.Truthful) ∧
      last.registry.names = Event.texts "resource declared" "resource" recent ∧
      last.registry.routes.length =
        (Event.withMessage "route declared" recent).length + imports := by
  have hnew : (new settings w).registry.Indexed := Registry.indexed_withSettings settings
  have hread : ReadsOff (Turn.sinceReset ((new settings w).turns ops))
      ((new settings w).after ops).registry := by
    induction ops using List.reverseRecOn with
    | nil => exact ⟨rfl, rfl⟩
    | append_singleton ops op ih =>
      rw [turns_concat, after_concat]
      exact ih.run (indexed_after hnew ops) op
  exact ⟨journal_after _ ops, truthful_turns hnew ops, hread.names, hread.length_routes⟩

end Workbench

end BackendPlan
