import BackendPlan.Proofs.Registry.Refusal

/-!
# Proofs/Registry/Holdings — what a registry holds is what was registered in it

Every exchange with a registry says by its reply what it brought: a resource, an application, a
middleware, or nothing.  What a registry holds is what the exchanges since the last reset brought:

    resources     names by their first registration, each with its last one
    application   the last one
    middlewares   all of them

* `Registry.accept`, `RegistryOp.holdings_run` — an operation does what its reply says.
* `isSome_occupant?_run` — **a slot is taken once it has been claimed with nothing missing**,
  whether or not that claim was served.
* `Registry.Reflects` — the registry and the exchanges since the last reset, side by side.
* `Registry.Continues` — what one registry keeps of another between two resets.
* `Session.registry_reflects_history` — both, in every session.
-/

namespace BackendPlan

/-! ## What an exchange brings -/

namespace Exchange

/-- The resource that was registered — by a declaration, or as it is (`putResource`). -/
def registered? (e : Exchange) : Option Resource :=
  match e.reply with
  | .resource r => some r
  | .done =>
    match e.op with
    | .putResource r => some r
    | _ => none
  | _ => none

/-- The application that was made current. -/
def applied? (e : Exchange) : Option Application :=
  match e.reply with
  | .application app => some app
  | .done =>
    match e.op with
    | .setApplication app => some app
    | _ => none
  | _ => none

/-- The middleware that was added; it is never refused. -/
def layered? (e : Exchange) : Option Handler :=
  match e.op with
  | .middleware h => some h
  | _ => none

/-- The operation was not refused. -/
def isServed (e : Exchange) : Bool :=
  match e.reply with
  | .refused _ => false
  | _ => true

/-- The slot was filled: a name by a resource, the one of the application by an application. -/
def Fills (e : Exchange) : Slot → Prop
  | .application => ∃ app, e.applied? = some app
  | .resource name => ∃ r, e.registered? = some r ∧ r.name = name

/-- A refusal fills no slot. -/
theorem not_fills_of_refused {op : RegistryOp} {cause : DeclareError} (slot : Slot) :
    ¬ Fills ⟨op, .refused cause⟩ slot := by
  cases slot <;> simp [Fills, registered?, applied?]

/-- **An answered operation fills the slot it claims** — `slot?` is read off the operation, `Fills`
off the reply. -/
theorem fills_iff_of_isAnswer {op : RegistryOp} {reply : RegistryReply} (h : op.IsAnswer reply)
    (slot : Slot) : Fills ⟨op, reply⟩ slot ↔ op.slot? = some slot := by
  unfold RegistryOp.IsAnswer at h
  split at h
  case h_2 | h_3 | h_4 =>
    obtain rfl := h
    cases slot <;> simp [Fills, registered?, applied?, RegistryOp.slot?, Resource.name]
  case h_13 => exact h.elim
  all_goals cases slot <;> simp [Fills, registered?, applied?, RegistryOp.slot?]

end Exchange

/-- Make an application current. -/
def Registry.apply (r : Registry) (app : Application) : Registry :=
  { r with application := some app }

/-- **The registry with what an exchange brought**: `registered?`, `applied?` and `layered?`; routes
are followed elsewhere. -/
def Registry.accept (r : Registry) (e : Exchange) : Registry :=
  let r := e.registered?.elim r r.putResource
  let r := e.applied?.elim r r.apply
  e.layered?.elim r r.appendMiddleware

namespace RegistryOp

variable {b : Workbench}

/-- What is about routes brings nothing to `accept`. -/
theorem accept_of_touchesRoutes {op : RegistryOp} {reply : RegistryReply} (r : Registry)
    (htouch : op.touchesRoutes = true) (hplain : reply.isPlain = true) :
    r.accept ⟨op, reply⟩ = r := by
  cases reply with
  | done | handler _ | edited _ =>
    cases op with
    | setApplication _ | putResource _ | middleware _ => exact absurd htouch nofun
    | _ => rfl
  | _ => exact absurd hplain nofun

/-- **An operation does what its reply says**, and nothing else but to routes — `holdings` is the
registry without these. -/
theorem holdings_run {op : RegistryOp} (hreset : op.isReset = false) (b : Workbench) :
    (op.run b).2.registry.holdings = (b.registry.accept (op.exchange b)).holdings := by
  rw [exchange]
  have hout := op.outcome b
  generalize hrun : op.run b = out at hout
  cases hout with
  | refused cause =>
    cases op with
    | middleware h => exact absurd (congrArg Prod.fst hrun) nofun
    | _ => rfl
  | declared event hdeclared hvalid =>
    cases op with
    | declareTable _ | declareLogStream _ | declareIdentityPool _ => rfl
    | _ => exact absurd hdeclared nofun
  | applied reported happ hreported hvalid | set reported hreported =>
    obtain rfl | ⟨event, rfl⟩ := hreported <;> rfl
  | onRoutes htouch hreset hplain hholdings hcontents =>
    rw [accept_of_touchesRoutes _ htouch hplain]
    exact hholdings
  | reset => exact absurd hreset nofun
  | registered | layered => rfl

/-- What does not concern routes is as the reply says, by `accept`. -/
theorem run_eq_accept {α : Type} (f : Registry → α) (hf : ∀ r : Registry, f r.holdings = f r)
    {op : RegistryOp} (hreset : op.isReset = false) (b : Workbench) :
    f (op.run b).2.registry = f (b.registry.accept (op.exchange b)) := by
  rw [← hf, holdings_run hreset b, hf]

end RegistryOp

/-! ## What it is to have accepted an exchange -/

namespace Registry

variable {r : Registry}

@[simp] theorem settings_accept (r : Registry) (e : Exchange) :
    (r.accept e).settings = r.settings := by
  unfold accept
  cases e.registered? <;> cases e.applied? <;> cases e.layered? <;> simp [apply, appendMiddleware]

theorem application_accept (r : Registry) (e : Exchange) :
    (r.accept e).application = e.applied?.or r.application := by
  unfold accept
  cases e.registered? <;> cases e.applied? <;> cases e.layered? <;> simp [apply, appendMiddleware]

theorem middlewares_accept (r : Registry) (e : Exchange) :
    (r.accept e).middlewares = r.middlewares ++ e.layered?.toList := by
  unfold accept
  cases e.registered? <;> cases e.applied? <;> cases e.layered? <;> simp [apply, appendMiddleware]

/-- What concerns resources alone is as after the registration, if there was one. -/
theorem accept_eq_of_registered? {α : Type} (f : Registry → α) (e : Exchange)
    (happly : ∀ r app, f (apply r app) = f r) (hlayer : ∀ r h, f (appendMiddleware r h) = f r) :
    f (r.accept e) = f (e.registered?.elim r r.putResource) := by
  unfold accept
  cases e.registered? <;> cases e.applied? <;> cases e.layered? <;> simp [happly, hlayer]

theorem Indexed.names_accept (h : r.Indexed) (e : Exchange) :
    (r.accept e).names =
      e.registered?.elim r.names fun resource =>
        if resource.name ∈ r.names then r.names else r.names ++ [resource.name] := by
  rw [accept_eq_of_registered? names e (fun _ _ => rfl) fun _ _ => rfl]
  cases e.registered? with
  | none => rfl
  | some resource => exact h.names_putResource resource

theorem Indexed.resource?_accept (h : r.Indexed) (e : Exchange) (name : String) :
    (r.accept e).resource? name =
      e.registered?.elim (r.resource? name) fun resource =>
        if name = resource.name then some resource else r.resource? name := by
  rw [accept_eq_of_registered? (·.resource? name) e (fun _ _ => rfl) fun _ _ => rfl]
  cases e.registered? with
  | none => rfl
  | some resource => exact h.resource?_putResource resource name

theorem isSome_occupant?_resource (r : Registry) (name : String) :
    (r.occupant? (.resource name)).isSome = true ↔ name ∈ r.names := by
  rw [occupant?]
  split
  · next hmem => exact iff_of_true rfl hmem
  · next hmem => exact iff_of_false Bool.false_ne_true hmem

/-- **The slots that are taken are those that were, and the one that was filled** — no registration
frees one. -/
theorem Indexed.isSome_occupant?_accept (h : r.Indexed) (e : Exchange) (slot : Slot) :
    ((r.accept e).occupant? slot).isSome = true ↔
      (r.occupant? slot).isSome = true ∨ e.Fills slot := by
  cases slot with
  | application =>
    rw [occupant?, occupant?, application_accept, Exchange.Fills]
    cases e.applied? <;> simp
  | resource name =>
    rw [isSome_occupant?_resource, isSome_occupant?_resource, h.names_accept, Exchange.Fills]
    cases e.registered? with
    | none => simp
    | some resource =>
      simp only [Option.elim_some, Option.some.injEq, exists_eq_left']
      split
      · next hmem =>
        refine (or_iff_left_of_imp ?_).symm
        rintro rfl
        exact hmem
      · rw [List.mem_append, List.mem_singleton, eq_comm (a := name)]

end Registry

/-! ## Claims

A claim with nothing missing is refused by a strict registry only, and only if the slot is taken; so
the slot is taken afterwards in any case. -/

namespace RegistryOp

variable {b : Workbench}

/-- **The slot that the operation claims**, with nothing missing: told from the operation alone, so
claims of a history are counted without replies. -/
def claim? (op : RegistryOp) : Option Slot :=
  match op.missing? with
  | none => op.slot?
  | some _ => none

theorem claim?_eq_some_iff {op : RegistryOp} {slot : Slot} :
    op.claim? = some slot ↔ op.missing? = none ∧ op.slot? = some slot := by
  rw [claim?]
  cases op.missing? <;> simp

theorem isServed_exchange_iff (hb : b.registry.Indexed) (op : RegistryOp) :
    (op.exchange b).isServed = true ↔ op.refusal? b.registry = none := by
  have hrule := run_of_refusal? hb op
  rw [exchange, Exchange.isServed]
  cases hrefusal : op.refusal? b.registry with
  | some cause =>
    rw [hrefusal] at hrule
    rw [hrule]
    exact iff_of_false nofun nofun
  | none =>
    rw [hrefusal] at hrule
    dsimp only at hrule ⊢
    generalize (op.run b).1 = reply at hrule
    cases reply with
    | refused cause => cases op <;> exact hrule.elim
    | _ => exact iff_of_true rfl rfl

/-- **A claim is served exactly if nothing is missing and, in a strict registry, its slot is free**
— `refusal?`, at a slot. -/
theorem isServed_exchange_iff_of_slot? (hb : b.registry.Indexed) {op : RegistryOp} {slot : Slot}
    (hslot : op.slot? = some slot) :
    (op.exchange b).isServed = true ↔
      op.missing? = none ∧
        (b.registry.settings.strict = true → ¬ (b.registry.occupant? slot).isSome = true) := by
  rw [isServed_exchange_iff hb, refusal?, hslot, Option.bind_some, Option.or_eq_none_iff,
    Registry.collision?]
  refine and_congr_right fun _ => ?_
  cases b.registry.settings.strict <;> simp

/-- What is served fills the slot it claims. -/
theorem fills_exchange_iff (hb : b.registry.Indexed) (op : RegistryOp) (slot : Slot) :
    (op.exchange b).Fills slot ↔ op.slot? = some slot ∧ (op.exchange b).isServed = true := by
  have hrule := run_of_refusal? hb op
  rw [isServed_exchange_iff hb]
  cases hrefusal : op.refusal? b.registry with
  | some cause =>
    rw [hrefusal] at hrule
    rw [exchange, hrule]
    exact iff_of_false (Exchange.not_fills_of_refused slot) fun h => nomatch h.2
  | none =>
    rw [hrefusal] at hrule
    exact (Exchange.fills_iff_of_isAnswer hrule slot).trans (and_iff_left rfl).symm

/-- **After an operation the slots are taken that were before, and the one that it claims** — if the
claim was refused, then because the slot was taken. -/
theorem isSome_occupant?_run (hb : b.registry.Indexed) {op : RegistryOp}
    (hreset : op.isReset = false) (slot : Slot) :
    ((op.run b).2.registry.occupant? slot).isSome = true ↔
      (b.registry.occupant? slot).isSome = true ∨ op.claim? = some slot := by
  rw [run_eq_accept (·.occupant? slot) (fun _ => rfl) hreset b, hb.isSome_occupant?_accept,
    fills_exchange_iff hb, claim?_eq_some_iff]
  -- a slot that is taken stays taken, whatever becomes of the claim
  by_cases htaken : (b.registry.occupant? slot).isSome = true
  · exact iff_of_true (.inl htaken) (.inl htaken)
  · refine or_congr_right ?_
    rw [and_comm (a := op.missing? = none)]
    refine and_congr_right fun hslot => ?_
    rw [isServed_exchange_iff_of_slot? hb hslot]
    exact and_iff_left fun _ => htaken

end RegistryOp

/-! ## The registry and its history -/

/-- The last of the resources with the name `name`. -/
def Resource.lastNamed? (name : String) (rs : List Resource) : Option Resource :=
  rs.reverse.find? fun r => r.name = name

/-- **The resources as a registry shows them**: each name once, where it came first, with the
resource that came last under it (`lastNamed?`). -/
def Resource.shelved (rs : List Resource) : List Resource :=
  (rs.map Resource.name).eraseDups.filterMap fun name => lastNamed? name rs

theorem Resource.lastNamed?_concat (name : String) (rs : List Resource) (r : Resource) :
    lastNamed? name (rs ++ [r]) = if name = r.name then some r else lastNamed? name rs := by
  rw [lastNamed?, List.reverse_concat, List.find?_cons, lastNamed?]
  by_cases hname : r.name = name
  · rw [if_pos hname.symm, decide_eq_true hname]
  · rw [if_neg (Ne.symm hname), decide_eq_false hname]

/-- A registry shows under each of its `names` what `resource?` finds under it. -/
theorem Registry.Indexed.resources_eq {r : Registry} (h : r.Indexed) :
    r.resources.toList = r.names.filterMap r.resource? := by
  have hfound : ∀ resource ∈ r.resources.toList,
      (r.resource? ∘ Resource.name) resource = some resource := fun resource hmem =>
    h.resource?_eq_some_iff.2 ⟨Array.mem_toList_iff.1 hmem, rfl⟩
  rw [names, List.filterMap_map, List.filterMap_congr hfound, List.filterMap_some]

namespace Exchange

/-- The resources registered, in the order of their registration. -/
def registrations (history : List Exchange) : List Resource := history.filterMap registered?

theorem registrations_concat (history : List Exchange) (e : Exchange) :
    registrations (history ++ [e]) = registrations history ++ e.registered?.toList :=
  List.filterMap_concat registered? history e

/-- The slots claimed with nothing missing, whether or not the claims were served. -/
def claims (history : List Exchange) : List Slot := history.filterMap (·.op.claim?)

theorem claims_concat (history : List Exchange) (e : Exchange) :
    claims (history ++ [e]) = claims history ++ e.op.claim?.toList :=
  List.filterMap_concat (fun e : Exchange => e.op.claim?) history e

end Exchange

open Exchange

/-- **The registry is what the exchanges since the last reset made it** — each list is a projection
of them, and `claims` tells which slots are taken. -/
structure Registry.Reflects (r : Registry) (history : List Exchange) : Prop where
  indexed : r.Indexed
  /-- Each name stands once, where it was first registered. -/
  names : r.names = ((registrations history).map Resource.name).eraseDups
  resources : r.resources.toList = Resource.shelved (registrations history)
  /-- Under a name is found what was last registered under it. -/
  resource? : ∀ name, r.resource? name = Resource.lastNamed? name (registrations history)
  application : r.application = (history.filterMap applied?).getLast?
  /-- A declared application has the stage and the region of its declaration, or else of the
  settings. -/
  declared : ∀ config app, ⟨.declareApplication config, .application app⟩ ∈ history →
    app.name = config.name ∧ app.stage = config.stage.getD r.settings.defaultStage ∧
      app.region = config.region.getD r.settings.defaultRegion ∧ app.config = config.options
  middlewares : r.middlewares = history.filterMap layered?
  occupied : ∀ slot, (r.occupant? slot).isSome = true ↔ slot ∈ claims history
  /-- A strict registry serves the first claim of a slot with nothing missing, any other all of
  them. -/
  served : ∀ past e future slot, history = past ++ e :: future → e.op.slot? = some slot →
    (e.isServed = true ↔ e.op.missing? = none ∧ (r.settings.strict = true → slot ∉ claims past))

namespace RegistryOp

variable {b : Workbench}

/-- **No operation changes the settings** — not even `reset`. -/
theorem settings_run (op : RegistryOp) (b : Workbench) :
    (op.run b).2.registry.settings = b.registry.settings := by
  cases hreset : op.isReset with
  | false =>
    rw [run_eq_accept Registry.settings (fun _ => rfl) hreset b, Registry.settings_accept]
  | true =>
    cases op with
    | reset => rfl
    | _ => exact absurd hreset nofun

/-- A declaration of an application makes the one of its configuration. -/
theorem eq_applicationOf {config : AppConfig} {app : Application}
    (h : ((declareApplication config).run b).1 = .application app) :
    app = Workbench.applicationOf b.registry.settings config := by
  have hout := (declareApplication config).outcome b
  generalize (declareApplication config).run b = out at h hout
  cases hout with
  | applied reported happ =>
    obtain rfl := RegistryReply.application.inj h
    exact happ
  | onRoutes htouch => exact absurd htouch nofun
  | refused | declared => exact absurd h nofun

end RegistryOp

namespace Registry

theorem Indexed.resources_eq_shelved {r : Registry} (h : r.Indexed) {rs : List Resource}
    (hnames : r.names = (rs.map Resource.name).eraseDups)
    (hresource : ∀ name, r.resource? name = Resource.lastNamed? name rs) :
    r.resources.toList = Resource.shelved rs := by
  rw [h.resources_eq, hnames, funext hresource, Resource.shelved]

namespace Reflects

/-- A registry without declarations has no history. -/
theorem nil {r : Registry} (h : r.holdings = (withSettings r.settings).holdings) :
    r.Reflects [] := by
  have hsame := congrArg Indexed h
  have hindexed : r.Indexed := hsame.mpr (indexed_withSettings r.settings)
  have hnames : r.names = [] := congrArg (·.names) h
  have happlication : r.application = none := congrArg (·.application) h
  have hmissing : ∀ name, r.resource? name = none := fun name =>
    hindexed.resource?_eq_none_iff.2 (hnames ▸ List.not_mem_nil)
  have hfree : ∀ slot, r.occupant? slot = none := by
    intro slot
    cases slot with
    | application => rw [occupant?, happlication, Option.map_none]
    | resource name => rw [occupant?, hnames, if_neg List.not_mem_nil]
  exact
    { indexed := hindexed
      names := hnames
      resources := congrArg (·.resources.toList) h
      resource? := hmissing
      application := happlication
      declared := fun _ _ hmem => absurd hmem List.not_mem_nil
      middlewares := congrArg (·.middlewares) h
      occupied := fun slot =>
        iff_of_false (fun htaken => Option.isSome_iff_ne_none.1 htaken
          (hfree slot)) List.not_mem_nil
      served := fun past e future _ hhistory =>
        absurd hhistory (List.nil_ne_append_cons past e future) }

variable {b : Workbench} {history : List Exchange}

theorem names_run (h : b.registry.Reflects history) {op : RegistryOp}
    (hreset : op.isReset = false) :
    (op.run b).2.registry.names =
      ((registrations (history ++ [op.exchange b])).map Resource.name).eraseDups := by
  rw [RegistryOp.run_eq_accept Registry.names (fun _ => rfl) hreset b, h.indexed.names_accept,
    h.names, registrations_concat, List.map_append]
  cases (op.exchange b).registered? with
  | none => rw [Option.toList_none, List.map_nil, List.append_nil]; rfl
  | some resource => exact (List.eraseDups_concat _ resource.name).symm

theorem resource?_run (h : b.registry.Reflects history) {op : RegistryOp}
    (hreset : op.isReset = false) (name : String) :
    (op.run b).2.registry.resource? name =
      Resource.lastNamed? name (registrations (history ++ [op.exchange b])) := by
  rw [RegistryOp.run_eq_accept (·.resource? name) (fun _ => rfl) hreset b,
    h.indexed.resource?_accept, h.resource?, registrations_concat]
  cases (op.exchange b).registered? with
  | none => rw [Option.toList_none, List.append_nil]; rfl
  | some resource => exact (Resource.lastNamed?_concat name _ resource).symm

/-- **One operation brings registry and history on together** — by `holdings_run`, field by
field. -/
theorem run (h : b.registry.Reflects history) {op : RegistryOp} (hreset : op.isReset = false) :
    (op.run b).2.registry.Reflects (history ++ [op.exchange b]) where
  indexed := RegistryOp.indexed_run h.indexed op
  names := h.names_run hreset
  resources :=
    (RegistryOp.indexed_run h.indexed op).resources_eq_shelved (h.names_run hreset)
      (h.resource?_run hreset)
  resource? := h.resource?_run hreset
  application := by
    rw [RegistryOp.run_eq_accept Registry.application (fun _ => rfl) hreset b, application_accept,
      List.filterMap_concat, List.getLast?_append, h.application]
    cases (op.exchange b).applied? <;> rfl
  declared := by
    intro config app hmem
    rw [RegistryOp.settings_run]
    rcases List.mem_append.1 hmem with hold | hnew
    · exact h.declared config app hold
    · have hexchange := List.mem_singleton.1 hnew
      obtain rfl : .declareApplication config = op := congrArg Exchange.op hexchange
      have hreply := (congrArg Exchange.reply hexchange).symm
      rw [RegistryOp.eq_applicationOf hreply]
      exact ⟨rfl, rfl, rfl, rfl⟩
  middlewares := by
    rw [RegistryOp.run_eq_accept Registry.middlewares (fun _ => rfl) hreset b, middlewares_accept,
      List.filterMap_concat, h.middlewares]
  occupied := by
    intro slot
    rw [RegistryOp.isSome_occupant?_run h.indexed hreset, h.occupied, claims_concat,
      List.mem_append, Option.mem_toList]
    rfl
  served := by
    intro past e future slot hhistory hslot
    rw [RegistryOp.settings_run]
    -- an earlier exchange is a case of `h.served`; for the last one `h.occupied` turns taken slots
    -- into earlier claims
    obtain ⟨rfl, rfl, -⟩ | ⟨rest, hrest, -⟩ := List.concat_eq_append_cons hhistory
    · rw [← h.occupied]
      exact RegistryOp.isServed_exchange_iff_of_slot? h.indexed hslot
    · exact h.served past e rest slot hrest hslot

/-- **Every exchange keeps registry and history together** — a `reset` starts both anew. -/
theorem keep : Exchange.Keep fun history r => r.Reflects (sinceReset history) := by
  intro history b op h
  rw [sinceReset_concat]
  cases hreset : op.isReset with
  | false =>
    have hgrows : (op.exchange b).op.isReset = false := hreset
    rw [hgrows]
    exact h.run hreset
  | true =>
    cases op with
    | reset => exact nil rfl
    | _ => exact absurd hreset nofun

end Reflects

/-! ## Between two resets -/

/-- **What a registry keeps of an earlier one**: names stay and keep their order, and in a strict
registry whatever is there stays as it is. -/
structure Continues (after before : Registry) : Prop where
  settings : after.settings = before.settings
  names : before.names <+: after.names
  resource? : before.settings.strict = true → ∀ name resource,
    before.resource? name = some resource → after.resource? name = some resource
  application : before.settings.strict = true → ∀ app,
    before.application = some app → after.application = some app

namespace Continues

variable {r r' r'' : Registry} {b : Workbench}

theorem refl (r : Registry) :
    r.Continues r := ⟨rfl, List.prefix_rfl, fun _ _ _ => id, fun _ _ => id⟩

theorem trans (h : r''.Continues r') (h' : r'.Continues r) : r''.Continues r where
  settings := h.settings.trans h'.settings
  names := h'.names.trans h.names
  resource? hstrict name resource hfound :=
    h.resource? (h'.settings ▸ hstrict) name resource (h'.resource? hstrict name resource hfound)
  application hstrict app happ :=
    h.application (h'.settings ▸ hstrict) app (h'.application hstrict app happ)

/-- A `strict` registry fills free slots only. -/
theorem free_of_fills (hb : b.registry.Indexed) (hstrict : b.registry.settings.strict = true)
    {op : RegistryOp} {slot : Slot} (h : (op.exchange b).Fills slot) :
    ¬ (b.registry.occupant? slot).isSome = true := by
  obtain ⟨hslot, hserved⟩ := (RegistryOp.fills_exchange_iff hb op slot).1 h
  exact ((RegistryOp.isServed_exchange_iff_of_slot? hb hslot).1 hserved).2 hstrict

/-- **An operation other than a reset continues the registry** — in a strict one by `free_of_fills`,
so nothing is replaced. -/
theorem run (hb : b.registry.Indexed) {op : RegistryOp} (hreset : op.isReset = false) :
    (op.run b).2.registry.Continues b.registry where
  settings := RegistryOp.settings_run op b
  names := by
    rw [RegistryOp.run_eq_accept Registry.names (fun _ => rfl) hreset b, hb.names_accept]
    cases (op.exchange b).registered? with
    | none => exact List.prefix_rfl
    | some resource =>
      rw [Option.elim_some]
      split
      · exact List.prefix_rfl
      · exact List.prefix_append _ _
  resource? := by
    intro hstrict name resource hfound
    rw [RegistryOp.run_eq_accept (·.resource? name) (fun _ => rfl) hreset b, hb.resource?_accept]
    cases hregistered : (op.exchange b).registered? with
    | none => exact hfound
    | some other =>
      rw [Option.elim_some, if_neg]
      · exact hfound
      · intro hname
        have hmem : name ∈ b.registry.names :=
          mem_names.2 ⟨resource, hb.resource?_eq_some_iff.1 hfound⟩
        have htaken := (isSome_occupant?_resource b.registry name).2 hmem
        have hfills : (op.exchange b).Fills (.resource name) := ⟨other, hregistered, hname.symm⟩
        exact free_of_fills hb hstrict hfills htaken
  application := by
    intro hstrict app happ
    rw [RegistryOp.run_eq_accept Registry.application (fun _ => rfl) hreset b, application_accept]
    cases happlied : (op.exchange b).applied? with
    | none => exact happ
    | some other =>
      have htaken : (b.registry.occupant? .application).isSome = true := by
        rw [occupant?, happ]
        rfl
      exact absurd htaken (free_of_fills hb hstrict ⟨other, happlied⟩)

/-- **So does every exchange of a history without a reset** — by `Continues.trans`. -/
theorem keep (before : Registry) :
    Exchange.Keep fun history r => (∀ e ∈ history, e.op.isReset = false) →
      r.Indexed ∧ r.Continues before := by
  intro history b op h hnone
  obtain ⟨hindexed, hcontinues⟩ := h fun e he => hnone e (List.mem_append_left _ he)
  have hreset : op.isReset = false := hnone (op.exchange b) (List.mem_concat_self)
  exact ⟨RegistryOp.indexed_run hindexed op, (run hindexed hreset).trans hcontinues⟩

end Continues

end Registry

namespace Session

/-- **What a registry holds is a function of its history** — and between two resets it only grows; a
`strict` one never changes what it has. -/
theorem registry_reflects_history (settings : List Settings) (front back : List Request) (i : Nat)
    (before after : Registry)
    (hbefore : ((start settings).run front).2.registries[i]? = some before)
    (hafter : ((start settings).run (front ++ back)).2.registries[i]? = some after) :
    settings[i]? = some after.settings ∧
      after.Reflects (sinceReset ((start settings).exchanges i (front ++ back))) ∧
      ((∀ e ∈ ((start settings).run front).2.exchanges i back, e.op.isReset = false) →
        after.Continues before) := by
  have hown : settings[i]? = some after.settings :=
    registry_run_start (P := fun _ r => settings[i]? = some r.settings) (fun _ hown => hown)
      (fun _ b op hown => hown.trans (congrArg some (RegistryOp.settings_run op b).symm)) hafter
  have hreflects : after.Reflects (sinceReset ((start settings).exchanges i (front ++ back))) :=
    registry_run_start (fun _ _ => .nil rfl) Registry.Reflects.keep hafter
  refine ⟨hown, hreflects, fun hnone => ?_⟩
  have hstart : (∀ e ∈ ([] : List Exchange), e.op.isReset = false) →
      before.Indexed ∧ before.Continues before := fun _ => ⟨indexed_run hbefore, .refl before⟩
  obtain ⟨last, hlast, hcontinues⟩ :=
    registry_run (Registry.Continues.keep before) back hbefore hstart
  rw [run_append] at hafter
  obtain rfl : last = after := Option.some.inj (hlast.symm.trans hafter)
  exact (hcontinues hnone).2

/-- A table, a log stream, and an identity pool over the table: the slot stays where it is. -/
theorem registry_reflects_history_of_overwrite :
    let table : Table := ⟨0, { name := "users" }⟩
    let stream : LogStream := ⟨0, { name := "trail" }⟩
    let pool : IdentityPool := ⟨0, { name := "users" }⟩
    let front : List Request :=
      [.on 0 (.declareTable table.config), .on 0 (.declareLogStream stream.config)]
    let back : List Request := [.on 0 (.declareIdentityPool pool.config)]
    let s := start [{}]
    let before := ((Registry.withSettings {}).putResource (.table table)).putResource
      (.logStream stream)
    let after := before.putResource (.identityPool pool)
    (s.run front).2.registries[0]? = some before ∧
      (s.run (front ++ back)).2.registries[0]? = some after ∧
      after.resources.toList = [.identityPool pool, .logStream stream] := by
  intro table stream pool front back s before after
  have htable : table.config.validate = .ok () :=
    TableConfig.validate_eq_ok_iff.2 ⟨by decide, by decide⟩
  have hstream : stream.config.validate = .ok () := Config.requireText_eq_ok_iff.2 (by decide)
  have hpool : pool.config.validate = .ok () := Config.requireText_eq_ok_iff.2 (by decide)
  have hbefore : (s.run front).2.registries[0]? = some before := by
    simp [front, s, run, step, start, RegistryOp.run, Workbench.declareResource,
      Workbench.declareTable, htable, Workbench.declareLogStream, hstream, Workbench.putResource,
      Registry.withSettings, Registry.putResource, Resource.name, Workbench.report,
      Workbench.modifyRegistry, Workbench.modifyContents, Contents.newTable, before, table, stream]
  have hafter : (s.run (front ++ back)).2.registries[0]? = some after := by
    simp [front, back, s, run, step, start, RegistryOp.run, Workbench.declareResource,
      Workbench.declareTable, htable, Workbench.declareLogStream, hstream,
      Workbench.declareIdentityPool, hpool, Workbench.putResource, Registry.withSettings,
      Registry.putResource, Resource.name, Workbench.report, Workbench.modifyRegistry,
      Workbench.modifyContents, Contents.newTable, Contents.newLog, before, after, table, stream,
      pool]
  have hexchanges : s.exchanges 0 (front ++ back) =
      [⟨.declareTable table.config, .resource (.table table)⟩,
        ⟨.declareLogStream stream.config, .resource (.logStream stream)⟩,
        ⟨.declareIdentityPool pool.config, .resource (.identityPool pool)⟩] := by
    simp [exchanges, exchange?, front, back, s, step, start, RegistryOp.run,
      Workbench.declareResource, Workbench.declareTable, htable, Workbench.declareLogStream,
      hstream, Workbench.declareIdentityPool, hpool, Workbench.putResource, Registry.withSettings,
      Registry.putResource, Resource.name, Workbench.report, Workbench.modifyRegistry,
      Workbench.modifyContents, Contents.newTable, Contents.newLog, RegistryReply.ofResult, table,
      stream, pool]
  obtain ⟨-, hreflects, -⟩ := registry_reflects_history
    [{}] front back 0 before after hbefore hafter
  refine ⟨hbefore, hafter, hreflects.resources.trans ?_⟩
  rw [hexchanges]
  decide

end Session

end BackendPlan
