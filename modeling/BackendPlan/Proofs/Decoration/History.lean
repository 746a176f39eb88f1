import BackendPlan.Proofs.Decoration.Insertion
import BackendPlan.Proofs.Decoration.Settle
import BackendPlan.Proofs.Registry.Outcome

/-!
# Proofs/Decoration/History — the routes of a registry, read off its history

    history  ──insertions──▸  records as inserted  ──final──▸  routes

The right-hand side never runs the registry.  One more operation in the history either **settles**
the routes, when it decorates a handler, or leaves them and adds its own record; that is what the
registry does, so a run and its history stay in line.

* `routesOf_concat_of_decorated`, `routesOf_concat_of_not_decorated` — the routes of a longer
  history.
* `decorations_after` — a run ends with the routes and the pending metadata of its history.
* `routes_after` — hence every record a registry shows is accounted for.
-/

namespace BackendPlan

namespace RegistryOp

/-! ## What is pending by the history -/

/-- What is pending for a handler by the history: its `lastRoute?` and its `lastAuth?`. -/
def pendingIn (history : List RegistryOp) (id : HandlerId) : Pending :=
  ⟨(lastRoute? id history).map RouteSpec.attributes, (lastAuth? id history).map AuthSpec.descriptor⟩

theorem lastRoute?_concat (id : HandlerId) (history : List RegistryOp) (op : RegistryOp) :
    lastRoute? id (history ++ [op]) = (routeFor? id op).or (lastRoute? id history) := by
  rw [lastRoute?, List.filterMap_append, List.getLast?_append, lastRoute?]
  cases h : routeFor? id op with
  | none => rw [List.filterMap_cons_none h]; rfl
  | some spec => rw [List.filterMap_cons_some h]; rfl

theorem lastAuth?_concat (id : HandlerId) (history : List RegistryOp) (op : RegistryOp) :
    lastAuth? id (history ++ [op]) = (authFor? id op).or (lastAuth? id history) := by
  rw [lastAuth?, List.filterMap_append, List.getLast?_append, lastAuth?]
  cases h : authFor? id op with
  | none => rw [List.filterMap_cons_none h]; rfl
  | some spec => rw [List.filterMap_cons_some h]; rfl

theorem routeFor?_of_not_decorates {id : HandlerId} {op : RegistryOp}
    (h : op.decorates id = false) : routeFor? id op = none := by
  cases op with
  | route handler spec => exact if_neg (by simpa [decorates, decorated?] using h)
  | _ => rfl

theorem authFor?_of_not_decorates {id : HandlerId} {op : RegistryOp}
    (h : op.decorates id = false) : authFor? id op = none := by
  cases op with
  | auth handler spec => exact if_neg (by simpa [decorates, decorated?] using h)
  | _ => rfl

theorem pendingIn_concat_of_not_decorates {id : HandlerId} (history : List RegistryOp)
    {op : RegistryOp} (h : op.decorates id = false) :
    pendingIn (history ++ [op]) id = pendingIn history id := by
  rw [pendingIn, lastRoute?_concat, lastAuth?_concat, routeFor?_of_not_decorates h,
    authFor?_of_not_decorates h]
  rfl

/-- **Pending values only grow** — a later declaration takes the place of an earlier one, and none
is taken back. -/
theorem within_pendingIn_concat (history : List RegistryOp) (op : RegistryOp) (id : HandlerId) :
    (pendingIn history id).Within (pendingIn (history ++ [op]) id) where
  route h := by
    rw [pendingIn, lastRoute?_concat] at h
    have hnone := Option.map_eq_none_iff.mp h
    exact Option.map_eq_none_iff.mpr (Option.or_eq_none_iff.mp hnone).2
  auth h := by
    rw [pendingIn, lastAuth?_concat] at h
    have hnone := Option.map_eq_none_iff.mp h
    exact Option.map_eq_none_iff.mpr (Option.or_eq_none_iff.mp hnone).2

/-- Without a record there is no route either: a route would have made one. -/
theorem lastRoute?_eq_none {id : HandlerId} {history : List RegistryOp}
    (h : history.any (introduces id) = false) : lastRoute? id history = none := by
  have hnone : ∀ op ∈ history, routeFor? id op = none := by
    intro op hop
    have hop' : op.introduces id = false := by
      simpa using List.any_eq_false.mp h op hop
    cases op with
    | route handler spec => exact if_neg (by simpa [introduces] using hop')
    | _ => rfl
  rw [lastRoute?, List.filterMap_eq_nil_iff.mpr hnone]
  rfl

end RegistryOp

/-! ## What becomes of an insertion -/

/-- Declaring is absorbing what is pending: `declared` is `absorb`. -/
theorem Route.declared_eq_absorb (r : Route) (route : Option RouteSpec) (auth : Option AuthSpec) :
    r.declared route auth =
      r.absorb ⟨route.map RouteSpec.attributes, auth.map AuthSpec.descriptor⟩ := by
  cases route <;> cases auth <;> rfl

namespace Insertion

open RegistryOp

theorem final_of_not_isFirst {i : Insertion} (h : i.isFirst = false) : i.final = i.record := by
  rw [final, h]
  rfl

theorem final_of_isDecorated {i : Insertion} (hfirst : i.isFirst = true)
    (hdecorated : i.isDecorated = true) :
    i.final = i.record.absorb (pendingIn i.history i.record.handler) := by
  rw [final, hfirst, hdecorated, Route.declared_eq_absorb]
  rfl

theorem final_of_not_isDecorated {i : Insertion} (h : i.isDecorated = false) :
    i.final = i.record := by
  rw [final, h, Bool.and_false]
  rfl

@[simp] theorem handler_final (i : Insertion) : i.final.handler = i.record.handler := by
  rw [final]
  split <;> rfl

/-- **The look-up by handler meets the record of the first insertion** — `final` keeps the handler
of its record. -/
theorem findFirst?_map_final (id : HandlerId) (is : List Insertion) :
    Route.findFirst? id (is.map final) = (is.find? (·.record.handler == id)).map final := by
  rw [Route.findFirst?, List.find?_map]
  refine congrArg (fun p => (is.find? p).map final) (funext fun i => ?_)
  exact congrArg (· == id) i.handler_final

/-- The insertion in a history that goes on by `op`. -/
def extend (i : Insertion) (op : RegistryOp) : Insertion := { i with future := i.future ++ [op] }

@[simp] theorem record_extend (i : Insertion) (op : RegistryOp) : (i.extend op).record = i.record :=
  rfl

theorem history_extend (i : Insertion) (op : RegistryOp) :
    (i.extend op).history = i.history ++ [op] := by
  rw [history, history, List.append_assoc]
  rfl

theorem isDecorated_extend (i : Insertion) (op : RegistryOp) :
    (i.extend op).isDecorated = (i.isDecorated || op.decorates i.record.handler) := by
  rw [isDecorated, isDecorated, extend, ← List.cons_append, List.any_append,
    List.any_cons (l := []), List.any_nil, Bool.or_false]

/-- What does not decorate the handler leaves its records alone. -/
theorem final_extend_of_not_decorates {i : Insertion} {op : RegistryOp}
    (h : op.decorates i.record.handler = false) : (i.extend op).final = i.final := by
  have hdecorated : (i.extend op).isDecorated = i.isDecorated := by
    rw [isDecorated_extend, h, Bool.or_false]
  cases hi : i.isDecorated with
  | false => rw [final_of_not_isDecorated (hdecorated.trans hi), final_of_not_isDecorated hi]; rfl
  | true =>
    cases hf : i.isFirst with
    | false => rw [final_of_not_isFirst (i := i.extend op) hf, final_of_not_isFirst hf]; rfl
    | true =>
      rw [final_of_isDecorated (i := i.extend op) hf (hdecorated.trans hi),
        final_of_isDecorated hf hi, history_extend, record_extend,
        pendingIn_concat_of_not_decorates i.history h]

/-- **A decoration of the handler is absorbed by its first record** — on top of what the record
absorbed before. -/
theorem final_extend_of_decorates {i : Insertion} {op : RegistryOp} (hf : i.isFirst = true)
    (h : op.decorates i.record.handler = true) :
    (i.extend op).final = i.final.absorb (pendingIn (i.history ++ [op]) i.record.handler) := by
  have hdecorated : (i.extend op).isDecorated = true := by
    rw [isDecorated_extend, h, Bool.or_true]
  rw [final_of_isDecorated (i := i.extend op) hf hdecorated, history_extend, record_extend]
  cases hi : i.isDecorated with
  | false => rw [final_of_not_isDecorated hi]
  | true =>
    rw [final_of_isDecorated hf hi]
    exact (Route.absorb_absorb i.record (within_pendingIn_concat i.history op _)).symm

end Insertion

/-! ## The routes of a longer history -/

namespace RegistryOp

/-- **The routes that a history leads to** — the `final` record of each insertion, in order. -/
def routesOf (history : List RegistryOp) : List Route := (insertions history).map Insertion.final

/-- An insertion of a history that continues `past` lies behind `past`. -/
theorem past_prefix_of_mem_insertionsFrom {past ops : List RegistryOp} {i : Insertion}
    (h : i ∈ insertionsFrom past ops) : past <+: i.past := by
  induction ops generalizing past with
  | nil => exact absurd h nofun
  | cons op future ih =>
    rw [insertionsFrom, List.mem_append] at h
    rcases h with h | h
    · rw [Option.mem_toList, Option.map_eq_some_iff] at h
      obtain ⟨record, -, rfl⟩ := h
      exact List.prefix_refl past
    · exact (List.prefix_append past [op]).trans (ih h)

/-- A handler that was introduced is not opened again. -/
theorem isFirst_of_introduced {past ops : List RegistryOp} {i : Insertion}
    (h : i ∈ insertionsFrom past ops) (hpast : past.any (introduces i.record.handler) = true) :
    i.isFirst = false := by
  obtain ⟨op, hop, hintroduces⟩ := List.any_eq_true.mp hpast
  have hany : i.past.any (introduces i.record.handler) = true :=
    List.any_eq_true.mpr ⟨op, (past_prefix_of_mem_insertionsFrom h).subset hop, hintroduces⟩
  rw [Insertion.isFirst, hany]
  rfl

/-- One more operation: the insertions there are go on, by `extend`, and it may add its own. -/
theorem insertionsFrom_concat (past ops : List RegistryOp) (op : RegistryOp) :
    insertionsFrom past (ops ++ [op]) = (insertionsFrom past ops).map (·.extend op) ++
      ((inserted? (past ++ ops) op).map fun record => ⟨past ++ ops, op, [], record⟩).toList := by
  induction ops generalizing past with
  | nil =>
    rw [List.append_nil, List.nil_append, insertionsFrom, insertionsFrom, insertionsFrom,
      List.append_nil]
    rfl
  | cons o future ih =>
    have hsplit : past ++ [o] ++ future = past ++ o :: future := by rw [List.append_assoc]; rfl
    rw [List.cons_append, insertionsFrom, insertionsFrom, ih (past ++ [o]), hsplit, List.map_append,
      List.append_assoc]
    cases inserted? past o <;> rfl

theorem decorates_eq {op : RegistryOp} {h : Handler} (hop : op.decorated? = some h)
    (id : HandlerId) : op.decorates id = decide (h.id = id) := by
  rw [decorates, hop]
  rfl

theorem decorates_of_decorated?_eq_none {op : RegistryOp} (hop : op.decorated? = none)
    (id : HandlerId) : op.decorates id = false := by
  rw [decorates, hop]
  rfl

/-- Behind its first record, a decoration of a handler changes nothing. -/
theorem map_final_extend_of_introduced {op : RegistryOp} {h : Handler}
    (hop : op.decorated? = some h) {past : List RegistryOp} (ops : List RegistryOp)
    (hpast : past.any (introduces h.id) = true) :
    (insertionsFrom past ops).map (fun i => (i.extend op).final) =
      (insertionsFrom past ops).map Insertion.final := by
  refine List.map_congr_left fun i hi => ?_
  by_cases hid : h.id = i.record.handler
  · have hf : i.isFirst = false := isFirst_of_introduced hi (hid ▸ hpast)
    rw [Insertion.final_of_not_isFirst (i := i.extend op) hf, Insertion.final_of_not_isFirst hf]
    rfl
  · exact Insertion.final_extend_of_not_decorates
      ((decorates_eq hop _).trans (decide_eq_false hid))

/-- **A decoration is absorbed by the first record of its handler**, and by no other — the induction
passes over the records of others up to it. -/
theorem map_final_extend {op : RegistryOp} {h : Handler} (hop : op.decorated? = some h)
    (past ops : List RegistryOp) (hpast : past.any (introduces h.id) = false) :
    (insertionsFrom past ops).map (fun i => (i.extend op).final) =
      Route.updateFirst h.id (·.absorb (pendingIn (past ++ ops ++ [op]) h.id))
        ((insertionsFrom past ops).map Insertion.final) := by
  induction ops generalizing past with
  | nil => rfl
  | cons o future ih =>
    have hsplit : past ++ [o] ++ future = past ++ o :: future := by rw [List.append_assoc]; rfl
    have hany : (past ++ [o]).any (introduces h.id) = o.introduces h.id := by
      rw [List.any_append, hpast, Bool.false_or, List.any_cons (l := []), List.any_nil,
        Bool.or_false]
    rw [insertionsFrom]
    cases hi : inserted? past o with
    | none =>
      have ho : o.introduces h.id = false := by
        by_contra hne
        have hin := any_introduces_of_inserted?_eq_none hi (Bool.of_not_eq_false hne)
        exact Bool.false_ne_true (hpast.symm.trans hin)
      rw [← hsplit]
      exact ih (past ++ [o]) (hany.trans ho)
    | some record =>
      have ho := introduces_iff_of_inserted? hi h.id
      by_cases hid : record.handler = h.id
      · have hin : (past ++ [o]).any (introduces h.id) = true := hany.trans (ho.mpr hid)
        have hfirst : (⟨past, o, future, record⟩ : Insertion).isFirst = true := by
          rw [Insertion.isFirst, hid, hpast]
          rfl
        have hdecorates : op.decorates record.handler = true :=
          (decorates_eq hop _).trans (decide_eq_true hid.symm)
        have hhead := Insertion.final_extend_of_decorates hfirst hdecorates
        have htail := map_final_extend_of_introduced hop future hin
        simp only [Option.map_some, Option.toList_some, List.singleton_append, List.map_cons]
        rw [hhead, htail, Route.updateFirst, if_pos (by rw [Insertion.handler_final]; exact hid),
          hid, Insertion.history]
      · have hin : (past ++ [o]).any (introduces h.id) = false :=
          hany.trans (Bool.eq_false_iff.mpr fun e => hid (ho.mp e))
        have hdecorates : op.decorates record.handler = false :=
          (decorates_eq hop _).trans (decide_eq_false (Ne.symm hid))
        have hhead := Insertion.final_extend_of_not_decorates
          (i := ⟨past, o, future, record⟩) hdecorates
        have htail := ih (past ++ [o]) hin
        rw [hsplit] at htail
        simp only [Option.map_some, Option.toList_some, List.singleton_append, List.map_cons]
        rw [hhead, htail, Route.updateFirst, if_neg (by rw [Insertion.handler_final]; exact hid)]

/-- **Records are found for exactly the handlers that the history introduces** — by an import or a
route, never by an authorization. -/
theorem findFirst?_routesOf_eq_none_iff {id : HandlerId} {history : List RegistryOp} :
    Route.findFirst? id (routesOf history) = none ↔ history.any (introduces id) = false := by
  rw [routesOf, Insertion.findFirst?_map_final, Option.map_eq_none_iff,
    find?_insertions_eq_none_iff]

theorem findFirst?_routesOf_of_opens {id : HandlerId} {history : List RegistryOp} {i : Insertion}
    (h : i.Opens id history) : Route.findFirst? id (routesOf history) = some i.final := by
  rw [routesOf, Insertion.findFirst?_map_final, find?_insertions_of_opens h]
  rfl

/-- A decoration of a handler that has a record inserts none. -/
theorem inserted?_eq_none {op : RegistryOp} {h : Handler} (hop : op.decorated? = some h)
    {history : List RegistryOp} (hany : history.any (introduces h.id) = true) :
    inserted? history op = none := by
  cases op with
  | route handler spec =>
    obtain rfl : handler = h := Option.some.inj hop
    exact if_pos hany
  | auth handler spec => rfl
  | _ => exact absurd hop nofun

/-- A decoration of a handler without a record inserts what is pending. -/
theorem final_inserted? {op : RegistryOp} {h : Handler} (hop : op.decorated? = some h)
    {history : List RegistryOp} (hany : history.any (introduces h.id) = false) :
    ((inserted? history op).map fun record =>
      Insertion.final ⟨history, op, [], record⟩) = (pendingIn (history ++ [op]) h.id).record h := by
  cases op with
  | route handler spec =>
    obtain rfl : handler = h := Option.some.inj hop
    have hlast : routeFor? handler.id (.route handler spec) = some spec := if_pos rfl
    have hins : inserted? history (.route handler spec) =
        some ⟨spec.path, spec.resolvedMethods, spec.isPublic, handler.id, handler.name, none⟩ := by
      rw [inserted?, hany]
      rfl
    rw [hins, Option.map_some, Insertion.final_of_isDecorated, Insertion.history, pendingIn,
      lastRoute?_concat, hlast, Pending.record]
    · cases lastAuth? handler.id (history ++ [.route handler spec]) <;> rfl
    · rw [Insertion.isFirst, hany]
      rfl
    · exact List.any_eq_true.mpr ⟨_, List.mem_cons_self, decide_eq_true rfl⟩
  | auth handler spec =>
    obtain rfl : handler = h := Option.some.inj hop
    have hnone : lastRoute? handler.id (history ++ [.auth handler spec]) = none := by
      rw [lastRoute?_concat, lastRoute?_eq_none hany]
      rfl
    rw [pendingIn, hnone]
    rfl
  | _ => exact absurd hop.symm (Option.some_ne_none h)

/-- **A decoration settles the routes** — `Route.settle`, which is what the registry runs. -/
theorem routesOf_concat_of_decorated {op : RegistryOp} {h : Handler}
    (hop : op.decorated? = some h) (history : List RegistryOp) :
    routesOf (history ++ [op]) =
      Route.settle h (pendingIn (history ++ [op]) h.id) (routesOf history) := by
  have hextend := map_final_extend hop [] history rfl
  rw [routesOf, insertions, insertionsFrom_concat, List.map_append, List.map_map]
  rw [List.nil_append] at hextend ⊢
  cases hany : history.any (introduces h.id) with
  | true =>
    obtain ⟨i, hi⟩ := exists_opens hany
    rw [Route.settle_of_some (findFirst?_routesOf_of_opens hi), inserted?_eq_none hop hany]
    exact (List.append_nil _).trans hextend
  | false =>
    have hnone := findFirst?_routesOf_eq_none_iff.mpr hany
    have hsame := Route.updateFirst_of_findFirst?_eq_none
      (f := (·.absorb (pendingIn (history ++ [op]) h.id))) hnone
    rw [Route.settle_of_none hnone, ← final_inserted? hop hany]
    refine congrArg₂ (· ++ ·) (hextend.trans hsame) ?_
    cases inserted? history op <;> rfl

/-- **Any other operation leaves the routes there are**, and an import adds its own — as given,
pending values or not. -/
theorem routesOf_concat_of_not_decorated {op : RegistryOp} (hop : op.decorated? = none)
    (history : List RegistryOp) :
    routesOf (history ++ [op]) = routesOf history ++ (inserted? history op).toList := by
  rw [routesOf, insertions, insertionsFrom_concat, List.map_append, List.map_map, List.nil_append]
  refine congrArg₂ (· ++ ·) (List.map_congr_left fun i _ => ?_) ?_
  · exact Insertion.final_extend_of_not_decorates (decorates_of_decorated?_eq_none hop _)
  · cases inserted? history op with
    | none => rfl
    | some record =>
      have hdecorated : (⟨history, op, [], record⟩ : Insertion).isDecorated = false := by
        rw [Insertion.isDecorated, List.any_cons, decorates_of_decorated?_eq_none hop]
        rfl
      exact congrArg (fun r => [r]) (Insertion.final_of_not_isDecorated hdecorated)

end RegistryOp

/-! ## Runs -/

namespace RegistryOp

theorem pendingIn_concat_route (history : List RegistryOp) (h : Handler) (spec : RouteSpec) :
    pendingIn (history ++ [.route h spec]) h.id =
      { pendingIn history h.id with route := some spec.attributes } := by
  have hlast : routeFor? h.id (.route h spec) = some spec := if_pos rfl
  rw [pendingIn, lastRoute?_concat, lastAuth?_concat, hlast]
  rfl

theorem pendingIn_concat_auth (history : List RegistryOp) (h : Handler) (spec : AuthSpec) :
    pendingIn (history ++ [.auth h spec]) h.id =
      { pendingIn history h.id with auth := some spec.descriptor } := by
  have hlast : authFor? h.id (.auth h spec) = some spec := if_pos rfl
  rw [pendingIn, lastRoute?_concat, lastAuth?_concat, hlast]
  rfl

theorem pendingIn_concat_of_not_decorated {op : RegistryOp} (hop : op.decorated? = none)
    (history : List RegistryOp) : pendingIn (history ++ [op]) = pendingIn history :=
  funext fun id => pendingIn_concat_of_not_decorates history
    (decorates_of_decorated?_eq_none hop id)

/-- What `touchesRoutes` denies inserts no record. -/
theorem inserted?_of_not_touchesRoutes {op : RegistryOp} (h : op.touchesRoutes = false)
    (history : List RegistryOp) : inserted? history op = none := by
  cases op with
  | route handler spec => exact absurd h nofun
  | appendRoute record => exact absurd h nofun
  | _ => rfl

theorem decorated?_of_not_touchesRoutes {op : RegistryOp} (h : op.touchesRoutes = false) :
    op.decorated? = none := by
  cases op with
  | route handler spec => exact absurd h nofun
  | auth handler spec => exact absurd h nofun
  | _ => rfl

/-- The records and the pending metadata that a history leads to: `routesOf` and `pendingIn`. -/
def decorationsOf (history : List RegistryOp) : List Route × (HandlerId → Pending) :=
  (routesOf history, pendingIn history)

/-- `pendingIn` a history stays in line with it when a decoration is settled. -/
theorem pending_decorate {op : RegistryOp} {h : Handler} (hop : op.decorated? = some h)
    {r : Registry} {history : List RegistryOp} (hr : r.pending = pendingIn history) :
    (r.decorate h (pendingIn (history ++ [op]) h.id)).pending = pendingIn (history ++ [op]) := by
  funext other
  by_cases hid : other = h.id
  · rw [hid]
    exact r.pending_decorate_self h _
  · have hother := pendingIn_concat_of_not_decorates history
      ((decorates_eq hop other).trans (decide_eq_false (Ne.symm hid)))
    exact (r.pending_decorate_of_ne _ hid).trans ((congrFun hr other).trans hother.symm)

/-- `decorations` in line with a history stay so when a decoration is settled. -/
theorem decorations_decorate {op : RegistryOp} {h : Handler} (hop : op.decorated? = some h)
    {r : Registry} {history : List RegistryOp} (hr : r.decorations = decorationsOf history) :
    (r.decorate h (pendingIn (history ++ [op]) h.id)).decorations =
      decorationsOf (history ++ [op]) := by
  obtain ⟨hroutes, hpending⟩ := Prod.mk.inj hr
  refine Prod.ext ?_ (pending_decorate hop hpending)
  exact (congrArg _ hroutes).trans (routesOf_concat_of_decorated hop history).symm

/-- **One step** — a registry in line with its history stays so under any operation but an edit and
a `reset`. -/
theorem decorations_run_of_history {op : RegistryOp} (hedit : op.isEdit = false)
    (hreset : op.isReset = false) {b : Workbench} {history : List RegistryOp}
    (hb : b.registry.decorations = decorationsOf history) :
    (op.run b).2.registry.decorations = decorationsOf (history ++ [op]) := by
  obtain ⟨hroutes, hpending⟩ := Prod.mk.inj hb
  cases htouch : op.touchesRoutes with
  | false =>
    have hnone := decorated?_of_not_touchesRoutes htouch
    rw [decorations_run htouch, hb, decorationsOf, decorationsOf,
      routesOf_concat_of_not_decorated hnone, pendingIn_concat_of_not_decorated hnone,
      inserted?_of_not_touchesRoutes htouch]
    exact congrArg (·, _) (List.append_nil _).symm
  | true =>
    cases op with
    | route h spec =>
      have hrun := Workbench.registry_route b h spec
      rw [congrFun hpending h.id, ← pendingIn_concat_route] at hrun
      exact (congrArg Registry.decorations hrun).trans (decorations_decorate rfl hb)
    | auth h spec =>
      have hrun := Workbench.registry_auth b h spec
      rw [congrFun hpending h.id, ← pendingIn_concat_auth] at hrun
      exact (congrArg Registry.decorations hrun).trans (decorations_decorate rfl hb)
    | appendRoute record =>
      rw [decorationsOf, routesOf_concat_of_not_decorated rfl,
        pendingIn_concat_of_not_decorated rfl, ← hroutes, ← hpending]
      rfl
    | editRoute id edit => exact absurd hedit nofun
    | reset => exact absurd hreset nofun
    | _ => exact absurd htouch nofun

/-- **A run ends with the routes and the pending metadata of its history** — an edit is the one
operation that the history does not show. -/
theorem decorations_after (settings : Settings) (w : Workspace) {ops : List RegistryOp}
    (hops : ∀ op ∈ ops, op.isEdit = false) :
    ((Workbench.new settings w).after ops).registry.decorations =
      decorationsOf (sinceReset ops) := by
  induction ops using List.reverseRecOn with
  | nil => rfl
  | append_singleton ops op ih =>
    have hedit : op.isEdit = false := hops op (by simp)
    have hb := ih fun o ho => hops o (List.mem_append_left _ ho)
    rw [Workbench.after_concat, sinceReset_concat]
    cases hreset : op.isReset with
    | false => exact decorations_run_of_history hedit hreset hb
    | true =>
      cases op with
      | reset => rfl
      | _ => exact absurd hreset nofun

/-- The record found for a handler is that of the first insertion, and shows what was last
declared. -/
theorem findFirst?_routesOf (history : List RegistryOp) (id : HandlerId) :
    Route.findFirst? id (routesOf history) =
      ((insertions history).find? (·.record.handler == id)).map fun i =>
        if i.isDecorated then i.record.declared (lastRoute? id history) (lastAuth? id history)
        else i.record := by
  cases hany : history.any (introduces id) with
  | false =>
    rw [findFirst?_routesOf_eq_none_iff.mpr hany, find?_insertions_eq_none_iff.mpr hany]
    rfl
  | true =>
    obtain ⟨i, hi⟩ := exists_opens hany
    rw [findFirst?_routesOf_of_opens hi, find?_insertions_of_opens hi, Option.map_some,
      Insertion.final, hi.isFirst, hi.handler, hi.history_eq, Bool.true_and]

/-- **The routes of a registry are determined by its history** — after any run without edits, the
records are the insertions since the last reset, in order, each as it is in the end; a handler has a
record exactly if an import or a route named it; and the record found for it is the first one
inserted, which shows the last route and the last authorization declared for the handler, wherever
they stood, once a decoration of the handler came with or after the insertion — and is as imported
otherwise. -/
theorem routes_after (settings : Settings) (w : Workspace) (ops : List RegistryOp)
    (hops : ∀ op ∈ ops, op.isEdit = false) :
    let history := sinceReset ops
    let registry := ((Workbench.new settings w).after ops).registry
    registry.routes = (insertions history).map Insertion.final ∧
      (∀ id, registry.findRoute? id = none ↔ history.any (introduces id) = false) ∧
      ∀ id, registry.findRoute? id =
        ((insertions history).find? (·.record.handler == id)).map fun i =>
          if i.isDecorated then i.record.declared (lastRoute? id history) (lastAuth? id history)
          else i.record := by
  intro history registry
  have hroutes : registry.routes = routesOf history :=
    congrArg Prod.fst (decorations_after settings w hops)
  refine ⟨hroutes, fun id => ?_, fun id => ?_⟩
  · rw [Registry.findRoute?, hroutes]
    exact findFirst?_routesOf_eq_none_iff
  · rw [Registry.findRoute?, hroutes]
    exact findFirst?_routesOf history id

/-- An authorization declared before its handler is imported twice shows in the first of the two
records once the handler is declared as a route. -/
theorem routes_after_import_twice :
    let orders := Handler.echo 1 "orders"
    let imported : Route := ⟨"/legacy", ["GET"], true, orders.id, "legacy", none⟩
    let ops : List RegistryOp :=
      [.route orders ⟨"/old", none, none, false⟩, .reset, .auth orders ⟨none, none, ["read"]⟩,
        .appendRoute imported, .appendRoute imported, .route orders ⟨"/orders", none, none, false⟩]
    (∀ op ∈ ops, op.isEdit = false) ∧
      ((Workbench.new {} {}).after ops).registry.routes =
        [⟨"/orders", ["GET"], false, orders.id, "legacy", some ⟨none, none, ["read"]⟩⟩,
          imported] := by
  intro orders imported ops
  have hops : ∀ op ∈ ops, op.isEdit = false := by decide
  exact ⟨hops, (routes_after {} {} ops hops).1.trans rfl⟩

end RegistryOp

end BackendPlan
