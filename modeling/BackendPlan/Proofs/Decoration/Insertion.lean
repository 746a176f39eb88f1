import BackendPlan.Session

/-!
# Proofs/Decoration/Insertion — how records get into the route list

A record is **inserted** by an import, and by a route of a handler that has no record yet.  An
insertion remembers where in the history it stands; what becomes of the record is then a matter of
reading: the first record of a decorated handler shows the last route and the last authorization
declared for it, any other record is as inserted.

* `insertions`, `Insertion.final` — the records of a history, as inserted and in the end.
* `find?_insertions_of_opens` — the look-up by handler meets the insertion that opens the handler.
-/

namespace BackendPlan

namespace RegistryOp

/-! ## What the history says about a handler -/

/-- The handler that the operation decorates, by `route` or `auth`. -/
def decorated? : RegistryOp → Option Handler
  | route h _ | auth h _ => some h
  | _ => none

/-- The operation decorates the handler. -/
def decorates (id : HandlerId) (op : RegistryOp) : Bool := op.decorated?.any fun h => h.id = id

/-- After the operation handler `id` has a record, whether or not it had one. -/
def introduces (id : HandlerId) : RegistryOp → Bool
  | route h _ => h.id = id
  | appendRoute record => record.handler = id
  | _ => false

/-- The route that the operation declares for handler `id`. -/
def routeFor? (id : HandlerId) : RegistryOp → Option RouteSpec
  | route h spec => if h.id = id then some spec else none
  | _ => none

/-- The authorization that the operation declares for handler `id`. -/
def authFor? (id : HandlerId) : RegistryOp → Option AuthSpec
  | auth h spec => if h.id = id then some spec else none
  | _ => none

/-- **The last route declared for a handler**, wherever in the history it stands. -/
def lastRoute? (id : HandlerId) (history : List RegistryOp) : Option RouteSpec :=
  (history.filterMap (routeFor? id)).getLast?

/-- **The last authorization declared for a handler**, wherever in the history it stands. -/
def lastAuth? (id : HandlerId) (history : List RegistryOp) : Option AuthSpec :=
  (history.filterMap (authFor? id)).getLast?

end RegistryOp

/-- **The record with a declared route and a declared authorization**, so far as there are any — the
handler and its name stay. -/
def Route.declared (r : Route) (route : Option RouteSpec) (auth : Option AuthSpec) : Route :=
  { r with
    path := (route.map RouteSpec.path).getD r.path
    methods := (route.map RouteSpec.resolvedMethods).getD r.methods
    isPublic := (route.map RouteSpec.isPublic).getD r.isPublic
    auth := (auth.map AuthSpec.descriptor).or r.auth }

/-! ## Insertions -/

/-- **A record as it was inserted**, with the `past` and the `future` of the history around it. -/
structure Insertion where
  past : List RegistryOp
  op : RegistryOp
  future : List RegistryOp
  record : Route

namespace Insertion

/-- The whole history, of which the insertion is one operation. -/
def history (i : Insertion) : List RegistryOp := i.past ++ i.op :: i.future

/-- The handler had no record before: nothing in `past` introduces it. -/
def isFirst (i : Insertion) : Bool := !i.past.any (·.introduces i.record.handler)

/-- The handler was decorated by the insertion itself or later. -/
def isDecorated (i : Insertion) : Bool :=
  (i.op :: i.future).any (·.decorates i.record.handler)

/-- **The record in the end**: the first one of a decorated handler is as last `declared`, any other
is as inserted. -/
def final (i : Insertion) : Route :=
  if i.isFirst && i.isDecorated then
    i.record.declared (RegistryOp.lastRoute? i.record.handler i.history)
      (RegistryOp.lastAuth? i.record.handler i.history)
  else i.record

end Insertion

namespace RegistryOp

/-- **The record that an operation inserts** after a history: an import its record, a route one of
its own unless the handler has a record already, and nothing else any. -/
def inserted? (past : List RegistryOp) : RegistryOp → Option Route
  | appendRoute record => some record
  | route h spec =>
    if past.any (introduces h.id) then none
    else
      some
        { path := spec.path
          methods := spec.resolvedMethods
          isPublic := spec.isPublic
          handler := h.id
          handlerName := h.name }
  | _ => none

/-- The insertions of a history that continues `past`, in order. -/
def insertionsFrom (past : List RegistryOp) : List RegistryOp → List Insertion
  | [] => []
  | op :: future =>
    ((inserted? past op).map fun record => ⟨past, op, future, record⟩).toList ++
      insertionsFrom (past ++ [op]) future

/-- **The insertions of a history**, in order — read off it alone, without a registry. -/
def insertions (history : List RegistryOp) : List Insertion := insertionsFrom [] history

/-! ## What an insertion introduces -/

theorem introduces_iff_of_inserted? {past : List RegistryOp} {op : RegistryOp} {record : Route}
    (h : inserted? past op = some record) (id : HandlerId) :
    op.introduces id = true ↔ record.handler = id := by
  cases op with
  | appendRoute appended =>
    obtain rfl : appended = record := Option.some.inj h
    exact decide_eq_true_iff
  | route handler spec =>
    simp only [inserted?] at h
    split at h
    · exact absurd h nofun
    · obtain rfl := Option.some.inj h
      exact decide_eq_true_iff
  | _ => exact absurd h nofun

/-- What inserts nothing introduces nothing new. -/
theorem any_introduces_of_inserted?_eq_none {past : List RegistryOp} {op : RegistryOp}
    {id : HandlerId} (h : inserted? past op = none) (hop : op.introduces id = true) :
    past.any (introduces id) = true := by
  cases op with
  | route handler spec =>
    obtain rfl : handler.id = id := of_decide_eq_true hop
    simp only [inserted?] at h
    split at h
    · assumption
    · exact absurd h nofun
  | appendRoute record => exact absurd h nofun
  | _ => exact absurd hop nofun

end RegistryOp

/-! ## The first insertion for a handler -/

/-- **The insertion opens handler `id` in the history**: it is the first to give it a record. -/
structure Insertion.Opens (i : Insertion) (id : HandlerId) (history : List RegistryOp) : Prop where
  history_eq : i.history = history
  inserted : RegistryOp.inserted? i.past i.op = some i.record
  handler : i.record.handler = id
  first : i.past.any (·.introduces id) = false

theorem Insertion.Opens.isFirst {i : Insertion} {id : HandlerId} {history : List RegistryOp}
    (h : i.Opens id history) : i.isFirst = true := by
  rw [Insertion.isFirst, h.handler, h.first]
  rfl

namespace RegistryOp

/-- An operation that does not introduce the handler is passed over by the look-up. -/
theorem find?_insertionsFrom_cons {id : HandlerId} (past : List RegistryOp) {op : RegistryOp}
    (future : List RegistryOp) (h : op.introduces id = false) :
    (insertionsFrom past (op :: future)).find? (·.record.handler == id) =
      (insertionsFrom (past ++ [op]) future).find? (·.record.handler == id) := by
  rw [insertionsFrom]
  cases hi : inserted? past op with
  | none => rfl
  | some record =>
    have hne : record.handler ≠ id := fun e =>
      Bool.false_ne_true (h.symm.trans ((introduces_iff_of_inserted? hi id).mpr e))
    exact List.find?_cons_of_neg (by simpa using hne)

theorem find?_insertionsFrom_eq_none {id : HandlerId} (past : List RegistryOp)
    {ops : List RegistryOp} (h : ops.any (introduces id) = false) :
    (insertionsFrom past ops).find? (·.record.handler == id) = none := by
  induction ops generalizing past with
  | nil => rfl
  | cons op future ih =>
    obtain ⟨hop, hfuture⟩ := Bool.or_eq_false_iff.mp h
    rw [find?_insertionsFrom_cons past future hop, ih (past ++ [op]) hfuture]

theorem find?_insertionsFrom_append {id : HandlerId} (past : List RegistryOp)
    {front : List RegistryOp} {op : RegistryOp} (future : List RegistryOp) {record : Route}
    (hfront : front.any (introduces id) = false)
    (hop : inserted? (past ++ front) op = some record) (hrecord : record.handler = id) :
    (insertionsFrom past (front ++ op :: future)).find? (·.record.handler == id) =
      some ⟨past ++ front, op, future, record⟩ := by
  induction front generalizing past with
  | nil =>
    rw [List.append_nil] at hop ⊢
    rw [List.nil_append, insertionsFrom, hop]
    exact List.find?_cons_of_pos (by simpa using hrecord)
  | cons o front ih =>
    obtain ⟨ho, hrest⟩ := Bool.or_eq_false_iff.mp hfront
    have hsplit : past ++ o :: front = past ++ [o] ++ front := by rw [List.append_assoc]; rfl
    rw [hsplit] at hop ⊢
    rw [List.cons_append, find?_insertionsFrom_cons past _ ho, ih (past ++ [o]) hrest hop]

theorem find?_insertions_of_opens {id : HandlerId} {history : List RegistryOp} {i : Insertion}
    (h : i.Opens id history) :
    (insertions history).find? (·.record.handler == id) = some i := by
  obtain ⟨past, op, future, record⟩ := i
  obtain rfl : past ++ op :: future = history := h.history_eq
  exact find?_insertionsFrom_append [] future h.first h.inserted h.handler

/-- **A handler that is introduced is opened** by the operation that introduces it first — which
inserts a record, as there is none yet. -/
theorem exists_opens {id : HandlerId} {history : List RegistryOp}
    (h : history.any (introduces id) = true) : ∃ i : Insertion, i.Opens id history := by
  have hfind : (history.find? (introduces id)).isSome = true := by
    rw [List.find?_isSome]
    exact List.any_eq_true.mp h
  obtain ⟨op, hop⟩ := Option.isSome_iff_exists.mp hfind
  obtain ⟨hintroduces, past, future, hsplit, hpast⟩ := List.find?_eq_some_iff_append.mp hop
  have hnone : past.any (introduces id) = false :=
    List.any_eq_false.mpr fun o ho => by simpa using hpast o ho
  cases hi : inserted? past op with
  | none =>
    have hany := any_introduces_of_inserted?_eq_none hi hintroduces
    exact absurd (hnone.symm.trans hany) Bool.false_ne_true
  | some record =>
    exact ⟨⟨past, op, future, record⟩, hsplit.symm, hi,
      (introduces_iff_of_inserted? hi id).mp hintroduces, hnone⟩

theorem find?_insertions_eq_none_iff {id : HandlerId} {history : List RegistryOp} :
    (insertions history).find? (·.record.handler == id) = none ↔
      history.any (introduces id) = false := by
  refine ⟨fun h => ?_, find?_insertionsFrom_eq_none []⟩
  cases hany : history.any (introduces id) with
  | false => rfl
  | true =>
    obtain ⟨i, hi⟩ := exists_opens hany
    rw [find?_insertions_of_opens hi] at h
    exact absurd h nofun

end RegistryOp

end BackendPlan
