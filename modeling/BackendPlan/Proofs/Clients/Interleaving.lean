import BackendPlan.Proofs.Clients.Step

/-!
# Proofs/Clients/Interleaving — clients of one registry do not disturb each other

Clients share a registry under a lock, so their calls come one after another, in an order that
nobody controls.  Each of them uses names and handlers of its own.  Then a client cannot tell, but
by the numbers of its objects, whether the others are there:

    schedule   ──keep the calls of one client──▸   the client alone, on an empty registry

* `Share.run_schedule` — **the schedule and the client alone, call by call**.
* `clients_undisturbed` — **for every interleaving**: outcomes, look-ups, and the lists of the
  registry.
-/

namespace BackendPlan

/-! ## Schedules -/

variable {n : Nat}

/-- **A schedule**: whose call comes next, and which; the lock of the registry makes one of every
run. -/
abbrev Schedule (n : Nat) := List (Fin n × RegistryOp)

namespace Schedule

/-- The calls of all clients. -/
def ops (schedule : Schedule n) : List RegistryOp := schedule.map Prod.snd

/-- **The calls of client `c`**, in its order. -/
def callsOf (c : Fin n) (schedule : Schedule n) : List RegistryOp :=
  schedule.filterMap fun call => if call.1 = c then some call.2 else none

theorem callsOf_cons_self (c : Fin n) (op : RegistryOp) (schedule : Schedule n) :
    callsOf c ((c, op) :: schedule) = op :: callsOf c schedule := by
  rw [callsOf, List.filterMap_cons, if_pos rfl]
  rfl

theorem callsOf_cons_of_ne {c d : Fin n} (h : d ≠ c) (op : RegistryOp) (schedule : Schedule n) :
    callsOf c ((d, op) :: schedule) = callsOf c schedule := by
  rw [callsOf, List.filterMap_cons, if_neg h]
  rfl

/-- A call in the schedule is among the `callsOf` its client. -/
theorem mem_callsOf {schedule : Schedule n} {c : Fin n} {op : RegistryOp} :
    op ∈ callsOf c schedule ↔ (c, op) ∈ schedule := by
  simp only [callsOf, List.mem_filterMap, Option.ite_none_right_eq_some, Option.some.injEq]
  constructor
  · rintro ⟨⟨d, op⟩, hmem, rfl, rfl⟩
    exact hmem
  · intro hmem
    exact ⟨(c, op), hmem, rfl, rfl⟩

end Schedule

/-! ## What a client gets to see -/

/-- **What a client gets to see of a call**: its `reply`, and the `events` that it is told of. -/
structure Receipt where
  reply : RegistryReply
  events : List Event

/-- The receipt of a call. -/
def RegistryOp.receipt (op : RegistryOp) (b : Workbench) : Receipt := ⟨(op.run b).1, op.events b⟩

/-- A receipt with what it gives renamed — events tell of names alone, so they stay. -/
def Renaming.receipt (ρ : Renaming) (r : Receipt) : Receipt := { r with reply := ρ.reply r.reply }

/-- The resource that was declared. -/
def RegistryReply.resource? : RegistryReply → Option Resource
  | resource r => some r
  | _ => none

theorem RegistryReply.eq_of_resource? {reply : RegistryReply} {r : Resource}
    (h : reply.resource? = some r) : reply = .resource r := by
  cases reply with
  | resource made => exact congrArg resource (Option.some.inj h)
  | _ => exact absurd h nofun

namespace Workbench

/-- **The receipts of calls**, one after another. -/
def receipts (b : Workbench) : List RegistryOp → List Receipt
  | [] => []
  | op :: ops => op.receipt b :: (op.run b).2.receipts ops

/-- **The receipts that client `c` gets** while a schedule is served, each against the workbench as
the others left it. -/
def receiptsOf (b : Workbench) (c : Fin n) : Schedule n → List Receipt
  | [] => []
  | (d, op) :: schedule =>
    if d = c then op.receipt b :: (op.run b).2.receiptsOf c schedule
    else (op.run b).2.receiptsOf c schedule

/-- The handles that client `c` gets — those of its `receiptsOf`. -/
def handed (b : Workbench) (c : Fin n) (schedule : Schedule n) : List Resource :=
  (b.receiptsOf c schedule).filterMap fun r => r.reply.resource?

end Workbench

/-! ## New handles -/

namespace RegistryOp

/-- No operation takes objects away — `reset` empties the registry, not the workspace. -/
theorem count_le_count_run (op : RegistryOp) (b : Workbench) (kind : ResourceKind) :
    b.workspace.contents.count kind ≤ (op.run b).2.workspace.contents.count kind := by
  rcases op.contents_run b with hsame | ⟨made, hmade⟩
  · rw [hsame]
  · rw [hmade, Contents.count_make]
    split <;> omega

/-- The object of a declaration is new, by `count`, and there afterwards. -/
theorem id_of_reply_resource {op : RegistryOp} {b : Workbench} {r : Resource}
    (h : (op.run b).1 = .resource r) :
    r.id = b.workspace.contents.count r.kind ∧
      r.id < (op.run b).2.workspace.contents.count r.kind := by
  obtain ⟨-, hid, -, hcontents⟩ := run_of_reply_resource h
  refine ⟨hid, ?_⟩
  rw [hcontents, Contents.count_make, if_pos rfl]
  omega

end RegistryOp

/-- **The handles that a client gets are of new and distinct objects** — the `count` has grown past
each by the time of the next. -/
theorem Workbench.handed_new (b : Workbench) (c : Fin n) (schedule : Schedule n) :
    (∀ r ∈ b.handed c schedule, b.workspace.contents.count r.kind ≤ r.id) ∧
      (b.handed c schedule).Pairwise fun x y => x.sameAs y = false := by
  induction schedule generalizing b with
  | nil => exact ⟨List.forall_mem_nil _, List.Pairwise.nil⟩
  | cons call schedule ih =>
    obtain ⟨d, op⟩ := call
    obtain ⟨hlater, hdistinct⟩ := ih (op.run b).2
    have hnew : ∀ r ∈ (op.run b).2.handed c schedule, b.workspace.contents.count r.kind ≤ r.id :=
      fun r hr => (op.count_le_count_run b r.kind).trans (hlater r hr)
    by_cases hc : d = c
    · rw [handed, receiptsOf, if_pos hc, List.filterMap_cons]
      cases hreply : (op.receipt b).reply.resource? with
      | none => exact ⟨hnew, hdistinct⟩
      | some made =>
        have hmade : (op.run b).1 = .resource made := RegistryReply.eq_of_resource? hreply
        obtain ⟨hid, hlt⟩ := RegistryOp.id_of_reply_resource hmade
        refine ⟨List.forall_mem_cons.2 ⟨hid.ge, hnew⟩,
          List.pairwise_cons.2 ⟨fun r hr => ?_, hdistinct⟩⟩
        refine Bool.eq_false_iff.2 fun hsame => ?_
        obtain ⟨hkind, hsameId⟩ := Resource.sameAs_iff.1 hsame
        have hle := hlater r hr
        rw [← hkind, ← hsameId] at hle
        omega
    · rw [handed, receiptsOf, if_neg hc]
      exact ⟨hnew, hdistinct⟩

/-! ## The schedule and the client alone -/

namespace Share

variable {ρ : Renaming} {mine : Key → Bool}

/-- What a call of the client leaves of the numbering — the first handle has its number, if the call
hands one out, and the others are to be numbered from what the client's own workbench holds then. -/
theorem numbers_step {c : Fin n} {op : RegistryOp} {schedule : Schedule n} {b own : Workbench}
    (hnumbers : ρ.Numbers own.workspace.contents (b.handed c ((c, op) :: schedule))) :
    (∀ r, (op.run b).1 = .resource r → ρ r.kind r.id = own.workspace.contents.count r.kind) ∧
      (((ρ.op op).run own).1 = ρ.reply (op.run b).1 →
        ρ.Numbers ((ρ.op op).run own).2.workspace.contents ((op.run b).2.handed c schedule)) := by
  rw [Workbench.handed, Workbench.receiptsOf, if_pos rfl, List.filterMap_cons] at hnumbers
  cases hmade : (op.receipt b).reply.resource? with
  | none =>
    have hno (r : Resource) : (op.run b).1 ≠ .resource r := fun hreply => by
      rw [RegistryOp.receipt, hreply] at hmade
      exact absurd hmade nofun
    rw [hmade] at hnumbers
    refine ⟨fun r hreply => absurd hreply (hno r), fun hown => ?_⟩
    have hnone (r : Resource) : ((ρ.op op).run own).1 ≠ .resource r := by
      rw [hown]
      cases hreply : (op.run b).1 with
      | resource made => exact absurd hreply (hno made)
      | _ => exact nofun
    rw [RegistryOp.contents_run_of_reply_ne hnone]
    exact hnumbers
  | some made =>
    have hreply : (op.run b).1 = .resource made := RegistryReply.eq_of_resource? hmade
    rw [hmade] at hnumbers
    obtain ⟨hfirst, hrest⟩ := hnumbers
    refine ⟨fun r hr => ?_, fun hown => ?_⟩
    · obtain rfl := RegistryReply.resource.inj (hreply.symm.trans hr)
      exact hfirst
    · rw [hreply] at hown
      obtain ⟨-, -, -, hcontents⟩ := RegistryOp.run_of_reply_resource hown
      rw [hcontents, ρ.kind_resource]
      exact hrest

/-- **The schedule and the client alone** — the client gets the same receipts, and its share of the
shared registry is what its own registry holds. -/
theorem run_schedule {c : Fin n} {schedule : Schedule n} (b own : Workbench)
    (h : Share ρ mine b.registry own.registry)
    (hcalls : ∀ call ∈ schedule, call.2.IsShared ∧
      ∃ key, call.2.key? = some key ∧ (mine key = true ↔ call.1 = c))
    (hnumbers : ρ.Numbers own.workspace.contents (b.handed c schedule)) :
    own.receipts ((schedule.callsOf c).map ρ.op) = (b.receiptsOf c schedule).map ρ.receipt ∧
      Share ρ mine (b.after schedule.ops).registry
        (own.after ((schedule.callsOf c).map ρ.op)).registry := by
  induction schedule generalizing b own with
  | nil => exact ⟨rfl, h⟩
  | cons call schedule ih =>
    obtain ⟨d, op⟩ := call
    obtain ⟨⟨hshared, key, hkey, hmine⟩, hrest⟩ := List.forall_mem_cons.1 hcalls
    by_cases hc : d = c
    · subst hc
      obtain ⟨hnumber, hlater⟩ := numbers_step hnumbers
      have hstep := h.run_own hshared hkey (hmine.2 rfl) hnumber
      obtain ⟨hreceipts, hlast⟩ := ih _ _ hstep.share hrest (hlater hstep.reply)
      have hreceipt : (ρ.op op).receipt own = ρ.receipt (op.receipt b) :=
        congrArg₂ Receipt.mk hstep.reply hstep.events
      rw [Schedule.callsOf_cons_self, Workbench.receiptsOf, if_pos rfl]
      exact ⟨congrArg₂ List.cons hreceipt hreceipts, hlast⟩
    · have hnext := h.run_other hshared hkey (mt hmine.1 hc)
      rw [Workbench.handed, Workbench.receiptsOf, if_neg hc] at hnumbers
      rw [Schedule.callsOf_cons_of_ne hc, Workbench.receiptsOf, if_neg hc]
      exact ih _ _ hnext hrest hnumbers

/-- **Calls of others leave a share alone** — `Share.run_other`, call by call. -/
theorem run_others {alone : Registry} {ops : List RegistryOp} (b : Workbench)
    (h : Share ρ mine b.registry alone)
    (hothers : ∀ op ∈ ops, op.IsShared ∧ ∃ key, op.key? = some key ∧ ¬ mine key = true) :
    Share ρ mine (b.after ops).registry alone := by
  induction ops generalizing b with
  | nil => exact h
  | cons op ops ih =>
    obtain ⟨⟨hshared, key, hkey, hother⟩, hrest⟩ := List.forall_mem_cons.1 hothers
    exact ih _ (h.run_other hshared hkey hother) hrest

end Share

/-! ## Any number of clients -/

/-- **The names and handlers that calls are about** — the `key?` of each. -/
def RegistryOp.keys (ops : List RegistryOp) : List Key := ops.filterMap key?

/-- **The schedule interleaves the calls of the clients**: for every client, `callsOf` gives its own
calls in its order. -/
def Schedule.Interleaves (schedule : Schedule n) (calls : Fin n → List RegistryOp) : Prop :=
  ∀ c, schedule.callsOf c = calls c

/-- **The second registry shows of the names and handlers what the first one shows**: look-ups of
`keys` agree, and its lists are the parts of the lists that are about them, in the same order. -/
structure Undisturbed (ρ : Renaming) (keys : List Key) (shared own : Registry) : Prop where
  resource : ∀ name, .resource name ∈ keys →
    own.resource? name = (shared.resource? name).map ρ.resource
  route : ∀ id, .handler id ∈ keys → own.findRoute? id = shared.findRoute? id
  resources : own.resources.toList = (shared.resourcesOf (· ∈ keys)).map ρ.resource
  routes : own.routes = shared.routesOf (· ∈ keys)
  middlewares : own.middlewares = (shared.middlewaresOf (· ∈ keys)).map ρ.handler

/-- **Everything in the registry is of one client**: nothing is lost, and nothing is there twice. -/
structure Complete (keys : Fin n → List Key) (shared : Registry) : Prop where
  resources : shared.resources.toList.Perm
    ((List.finRange n).flatMap fun c => shared.resourcesOf (· ∈ keys c))
  routes : shared.routes.Perm ((List.finRange n).flatMap fun c => shared.routesOf (· ∈ keys c))
  middlewares : shared.middlewares.Perm
    ((List.finRange n).flatMap fun c => shared.middlewaresOf (· ∈ keys c))
  distinct : shared.names.Nodup

theorem Share.undisturbed {ρ : Renaming} {keys : List Key} {shared own : Registry}
    (h : Share ρ (· ∈ keys) shared own) : Undisturbed ρ keys shared own where
  resource _ hname := h.resource?_eq (decide_eq_true hname)
  route _ hid := h.findRoute?_eq (decide_eq_true hid)
  resources := h.resources
  routes := h.routes
  middlewares := h.middlewares

theorem RegistryOp.exists_key? {op : RegistryOp} (h : op.IsShared) : ∃ key, op.key? = some key := by
  cases op with
  | declareApplication _ | setApplication _ | reset => exact h.elim
  | _ => exact ⟨_, rfl⟩

section Clients

variable {settings : Settings} {calls : Fin n → List RegistryOp} {schedule : Schedule n}

/-- A key of a client is among the `keys` of its calls and of nobody else's. -/
theorem mem_keys_iff (hdisjoint : ∀ c d, c ≠ d →
      (RegistryOp.keys (calls c)).Disjoint (RegistryOp.keys (calls d))) {c d : Fin n} {key : Key}
    (hkey : key ∈ RegistryOp.keys (calls d)) : key ∈ RegistryOp.keys (calls c) ↔ d = c := by
  constructor
  · intro hmem
    by_contra hne
    exact hdisjoint d c hne hkey hmem
  · rintro rfl
    exact hkey

/-- Every call in the schedule is about a key of its client. -/
theorem exists_key_of_mem (hschedule : schedule.Interleaves calls)
    (hshared : ∀ c, ∀ op ∈ calls c, op.IsShared) {d : Fin n} {op : RegistryOp}
    (hmem : (d, op) ∈ schedule) :
    op.IsShared ∧ ∃ key, op.key? = some key ∧ key ∈ RegistryOp.keys (calls d) := by
  have hcall : op ∈ calls d := hschedule d ▸ Schedule.mem_callsOf.2 hmem
  obtain ⟨key, hkey⟩ := RegistryOp.exists_key? (hshared d op hcall)
  exact ⟨hshared d op hcall, key, hkey, List.mem_filterMap.2 ⟨op, hcall, hkey⟩⟩

/-- **All that the clients leave is about their names and handlers**, and each of it is of one
client — what would be about no client is a share too, and stays empty. -/
theorem complete_after (hschedule : schedule.Interleaves calls)
    (hshared : ∀ c, ∀ op ∈ calls c, op.IsShared)
    (hdisjoint : ∀ c d, c ≠ d →
      (RegistryOp.keys (calls c)).Disjoint (RegistryOp.keys (calls d))) (w : Workspace) :
    Complete (fun c => RegistryOp.keys (calls c))
      ((Workbench.new settings w).after schedule.ops).registry := by
  let nobodys (key : Key) : Bool := decide (∀ c, key ∉ RegistryOp.keys (calls c))
  -- the keys of no client are a share too, and no call touches it
  have hnobody : Share (fun _ => Equiv.refl Nat) nobodys
      ((Workbench.new settings w).after schedule.ops).registry (.withSettings settings) := by
    refine (Share.new _ _ settings).run_others (.new settings w) fun op hop => ?_
    obtain ⟨⟨d, op⟩, hmem, rfl⟩ := List.mem_map.1 hop
    obtain ⟨hop, key, hkey, howned⟩ := exists_key_of_mem hschedule hshared hmem
    exact ⟨hop, key, hkey, fun hnone => of_decide_eq_true hnone d howned⟩
  have howner (key : Key) (hkey : ¬ nobodys key = true) :
      ∃ c, decide (key ∈ RegistryOp.keys (calls c)) = true ∧
        ∀ d, decide (key ∈ RegistryOp.keys (calls d)) = true → d = c := by
    obtain ⟨c, hc⟩ := not_forall_not.1 (mt decide_eq_true hkey)
    refine ⟨c, decide_eq_true hc, fun d hd => ?_⟩
    exact ((mem_keys_iff hdisjoint hc).1 (of_decide_eq_true hd)).symm
  refine ⟨List.perm_flatMap_filter _ fun r hr => howner _ ?_,
    List.perm_flatMap_filter _ fun r hr => howner _ ?_,
    List.perm_flatMap_filter _ fun m hm => howner _ ?_, hnobody.sharedIndexed.nodup_names⟩
  · have hempty := List.map_eq_nil_iff.1 hnobody.resources.symm
    exact List.filter_eq_nil_iff.1 hempty r hr
  · exact List.filter_eq_nil_iff.1 hnobody.routes.symm r hr
  · have hempty := List.map_eq_nil_iff.1 hnobody.middlewares.symm
    exact List.filter_eq_nil_iff.1 hempty m hm

/-- **Clients of one registry do not disturb each other.**  Any number of clients make calls about
names and handlers of their own.  For every interleaving of their calls, from an empty registry,
strict or not: each client gets the outcomes that it gets alone on an empty registry, finds what it
finds there, and the parts of the lists that are about it are the lists of that registry; and
everything in the shared registry is of one client.  Only the numbers of objects made meanwhile
differ. -/
theorem clients_undisturbed (settings : Settings) (w : Workspace) (calls : Fin n → List RegistryOp)
    (hshared : ∀ c, ∀ op ∈ calls c, op.IsShared)
    (hdisjoint : ∀ c d, c ≠ d → (RegistryOp.keys (calls c)).Disjoint (RegistryOp.keys (calls d)))
    (schedule : Schedule n) (hschedule : schedule.Interleaves calls) :
    let start := Workbench.new settings w
    let shared := (start.after schedule.ops).registry
    (∀ c, ∃ ρ : Renaming, ρ.Fixes w.contents ∧
      start.receipts ((calls c).map ρ.op) = (start.receiptsOf c schedule).map ρ.receipt ∧
      Undisturbed ρ (RegistryOp.keys (calls c)) shared
        (start.after ((calls c).map ρ.op)).registry) ∧
    Complete (fun c => RegistryOp.keys (calls c)) shared := by
  intro start shared
  refine ⟨fun c => ?_, complete_after hschedule hshared hdisjoint w⟩
  obtain ⟨hnew, hdistinct⟩ := start.handed_new c schedule
  obtain ⟨ρ, hfixes, hnumbers⟩ := Renaming.exists_numbers w.contents hnew hdistinct
  have hcalls : ∀ call ∈ schedule, call.2.IsShared ∧
      ∃ key, call.2.key? = some key ∧
        (decide (key ∈ RegistryOp.keys (calls c)) = true ↔ call.1 = c) := by
    rintro ⟨d, op⟩ hmem
    obtain ⟨hop, key, hkey, howned⟩ := exists_key_of_mem hschedule hshared hmem
    exact ⟨hop, key, hkey, decide_eq_true_iff.trans (mem_keys_iff hdisjoint howned)⟩
  have hrun := (Share.new ρ _ settings).run_schedule start start hcalls hnumbers
  rw [hschedule c] at hrun
  exact ⟨ρ, hfixes, hrun.1, hrun.2.undisturbed⟩

end Clients

/-- Two clients: the table that one of them declares comes second in the shared registry, and first
in its own run. -/
theorem clients_undisturbed_of_two :
    let h := Handler.echo 0 "list"
    let users : List RegistryOp :=
      [.auth h { cognito := some true }, .declareTable { name := "users" },
        .route h { path := "/users" }]
    let orders : List RegistryOp := [.declareTable { name := "orders" }]
    let calls : Fin 2 → List RegistryOp := fun c => if c = 0 then users else orders
    let schedule : Schedule 2 :=
      [(0, .auth h { cognito := some true }), (1, .declareTable { name := "orders" }),
        (0, .declareTable { name := "users" }), (0, .route h { path := "/users" })]
    let start := Workbench.new { strict := true } {}
    let shared := (start.after schedule.ops).registry
    schedule.Interleaves calls ∧ ∃ ρ : Renaming,
      let own := (start.after (users.map ρ.op)).registry
      start.receipts (users.map ρ.op) = (start.receiptsOf 0 schedule).map ρ.receipt ∧
        own.resource? "users" = (shared.resource? "users").map ρ.resource ∧
        own.findRoute? h.id = shared.findRoute? h.id := by
  intro h users orders calls schedule start shared
  have hshared : ∀ c, ∀ op ∈ calls c, op.IsShared :=
    Fin.forall_fin_two.2 ⟨by simp [calls, users, RegistryOp.IsShared],
      by simp [calls, orders, RegistryOp.IsShared]⟩
  have hdisjoint : ∀ c d, c ≠ d →
      (RegistryOp.keys (calls c)).Disjoint (RegistryOp.keys (calls d)) := by
    have hapart : (RegistryOp.keys users).Disjoint (RegistryOp.keys orders) := by
      simp [users, orders, RegistryOp.keys, RegistryOp.key?]
    refine Fin.forall_fin_two.2 ⟨Fin.forall_fin_two.2 ⟨?_, ?_⟩, Fin.forall_fin_two.2 ⟨?_, ?_⟩⟩
    · exact fun h => absurd rfl h
    · exact fun _ => hapart
    · exact fun _ _ horders husers => hapart husers horders
    · exact fun h => absurd rfl h
  have hschedule : schedule.Interleaves calls := Fin.forall_fin_two.2 ⟨rfl, rfl⟩
  obtain ⟨hclients, -⟩ :=
    clients_undisturbed { strict := true } {} calls hshared hdisjoint schedule hschedule
  obtain ⟨ρ, -, hreceipts, hundisturbed⟩ := hclients 0
  exact ⟨hschedule, ρ, hreceipts, hundisturbed.resource "users" (by decide),
    hundisturbed.route h.id (by decide)⟩

end BackendPlan
