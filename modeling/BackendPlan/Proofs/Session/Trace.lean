import BackendPlan.Proofs.Session.Run

/-!
# Proofs/Session/Trace — who touched which object, and what it was told

Tables and log streams are reached through handles, by a caller or by a handler that is called.  A
**deed** is one call through a handle with its answer, and the **trace** of a run is its deeds in
order.  Whatever is said of tables, logs and contents is said of a projection of this one list:

    trace  ──`access?`──▸     the calls on tables, with their answers
           ──`logAccess?`──▸  the calls on log streams, with their answers
           ──`effect?`──▸     what becomes of the contents (`Proofs/Session/Effects`)

* `Table.serve`, `LogStream.serve` — a call as one function from workspace to workspace.
* `Script.trace`, `Session.trace` — the deeds of a handler and of a run, and `Session.accesses`,
  `Session.logAccesses`, `Session.appended` as projections of it.
* `Course` — **what one call keeps, a run keeps**: scripts, operations, requests and runs are taken
  apart into calls here, once for every relation between the two ends of a run.
-/

namespace BackendPlan

/-! ## Calls on tables -/

namespace Table

/-- **What may be called on a table** — `put`, `update` and `delete` through the handle's partition
key. -/
inductive Call where
  | put (data : Payload)
  | update (key data : Json)
  | delete (key : Json)
  | get (key : Json)
  | scan

/-- What a `Call` answers — `get` an item or none, `scan` the items, the others the acknowledgement
of the table. -/
inductive Answer where
  | done
  /-- Whether the data was stored. -/
  | stored (on : Bool)
  | item (item : Option Json)
  | items (items : List Json)
deriving DecidableEq

/-- **Serve one call** — the five operations of `Workspace` under one name. -/
def serve (t : Table) (call : Call) (w : Workspace) : Answer × Workspace :=
  match call with
  | .put data => (.stored (t.put data w).1, (t.put data w).2)
  | .update key data => (.done, t.update key data w)
  | .delete key => (.done, t.delete key w)
  | .get key => (.item (t.get? key w), w)
  | .scan => (.items (t.scan w), w)

end Table

/-- **A call on a table, with its answer** — the handle is kept, since two handles of one `id` may
differ in their partition key. -/
structure Access where
  table : Table
  call : Table.Call
  answer : Table.Answer

/-- A call on a table as an `Access`, its answer the one that `serve` gives. -/
def Table.access (t : Table) (call : Table.Call) (w : Workspace) : Access :=
  ⟨t, call, (t.serve call w).1⟩

namespace Access

/-- The accesses of one table — by its `id`, so through whichever handle. -/
def ofTable (id : Nat) (accesses : List Access) : List Access :=
  accesses.filter fun access => access.table.id = id

theorem ofTable_append (id : Nat) (front back : List Access) :
    ofTable id (front ++ back) = ofTable id front ++ ofTable id back := List.filter_append ..

theorem ofTable_cons_self {id : Nat} {access : Access} (h : access.table.id = id)
    (rest : List Access) : ofTable id (access :: rest) = access :: ofTable id rest :=
  List.filter_cons_of_pos (decide_eq_true h)

theorem ofTable_cons_of_ne {id : Nat} {access : Access} (h : access.table.id ≠ id)
    (rest : List Access) : ofTable id (access :: rest) = ofTable id rest :=
  List.filter_cons_of_neg (by simpa using h)

end Access

/-! ## Calls on log streams

What a call appends can be told from the call alone:

    info, audit    level, message and fields, no payload
    write          level and payload, no message and no fields; nothing if it cannot be encoded
    entries        nothing
-/

namespace LogStream

/-- **What may be called on a log stream**: each appends one entry at most, `entries` none. -/
inductive Call where
  | info (time : Timestamp) (message : String) (fields : Members Json)
  | audit (time : Timestamp) (message : String) (fields : Members Json)
  | write (time : Timestamp) (data : Payload)
  | entries

/-- What a `Call` answers: `entries` the log, `write` whether the payload could be encoded, the
others nothing. -/
inductive Answer where
  | done
  /-- Whether the data was recorded. -/
  | recorded (on : Bool)
  | entries (entries : List LogEntry)

/-- **Serve one call** — the four operations of `Workspace` under one name. -/
def serve (l : LogStream) (call : Call) (w : Workspace) : Answer × Workspace :=
  match call with
  | .info time message fields => (.done, l.info time message fields w)
  | .audit time message fields => (.done, l.audit time message fields w)
  | .write time data => (.recorded (l.write time data w).1, (l.write time data w).2)
  | .entries => (.entries (l.entries w), w)

/-- **The entry that a call makes**, if it makes one — read off the call, so `serve` is compared
with it and not the other way round. -/
def Call.made? : Call → Option LogEntry
  | info time message fields =>
    some { level := .info, message := some message, entry := none, fields := fields, time := time }
  | audit time message fields =>
    some { level := .audit, message := some message, entry := none, fields := fields, time := time }
  | write time data =>
    match data.encode with
    | .ok value =>
      some { level := .write, message := none, entry := some value, fields := [], time := time }
    | .error _ => none
  | entries => none

end LogStream

/-- **A call on a log stream, with its answer** — the twin of `Access`. -/
structure LogAccess where
  stream : LogStream
  call : LogStream.Call
  answer : LogStream.Answer

/-- A call on a log stream as a `LogAccess`, its answer the one that `serve` gives. -/
def LogStream.access (l : LogStream) (call : LogStream.Call) (w : Workspace) : LogAccess :=
  ⟨l, call, (l.serve call w).1⟩

/-- **An entry with the handle that it was appended through**: the event of it names the stream,
which the `entry` does not. -/
structure Appended where
  stream : LogStream
  entry : LogEntry

namespace Appended

/-- The event that tells of it: a `LogEntry` without message is told of by the empty text. -/
def event (a : Appended) : Event :=
  .entryAppended a.stream.name a.entry.level (a.entry.message.getD "")

/-- **What was appended to one stream** — by its `id`, so through whichever handle. -/
def toStream (id : Nat) (appended : List Appended) : List LogEntry :=
  (appended.filter fun a => a.stream.id = id).map entry

theorem toStream_append (id : Nat) (front back : List Appended) :
    toStream id (front ++ back) = toStream id front ++ toStream id back := by
  rw [toStream, List.filter_append, List.map_append]
  rfl

theorem toStream_cons_self {id : Nat} {a : Appended} (h : a.stream.id = id) (rest : List Appended) :
    toStream id (a :: rest) = a.entry :: toStream id rest :=
  congrArg (List.map entry) (List.filter_cons_of_pos (decide_eq_true h))

theorem toStream_cons_of_ne {id : Nat} {a : Appended} (h : a.stream.id ≠ id)
    (rest : List Appended) :
    toStream id (a :: rest) = toStream id rest :=
  congrArg (List.map entry) (List.filter_cons_of_neg (by simpa using h))

end Appended

namespace LogAccess

/-- The accesses of one stream — by its `id`, so through whichever handle. -/
def ofStream (id : Nat) (accesses : List LogAccess) : List LogAccess :=
  accesses.filter fun access => access.stream.id = id

theorem ofStream_append (id : Nat) (front back : List LogAccess) :
    ofStream id (front ++ back) = ofStream id front ++ ofStream id back := List.filter_append ..

theorem ofStream_cons_self {id : Nat} {access : LogAccess} (h : access.stream.id = id)
    (rest : List LogAccess) : ofStream id (access :: rest) = access :: ofStream id rest :=
  List.filter_cons_of_pos (decide_eq_true h)

theorem ofStream_cons_of_ne {id : Nat} {access : LogAccess} (h : access.stream.id ≠ id)
    (rest : List LogAccess) : ofStream id (access :: rest) = ofStream id rest :=
  List.filter_cons_of_neg (by simpa using h)

/-- What the access appended, if it did — the entry of `Call.made?` beside its handle. -/
def appended? (access : LogAccess) : Option Appended := access.call.made?.map (.mk access.stream)

/-- **What was appended to a stream is what the calls on it make** — the entries of a stream can be
had from either list. -/
theorem toStream_filterMap (id : Nat) (accesses : List LogAccess) :
    Appended.toStream id (accesses.filterMap appended?) =
      ((ofStream id accesses).map call).filterMap LogStream.Call.made? := by
  induction accesses with
  | nil => rfl
  | cons access accesses ih =>
    by_cases hid : access.stream.id = id
    · rw [ofStream_cons_self hid, List.map_cons, List.filterMap_cons, List.filterMap_cons,
        appended?]
      cases access.call.made? with
      | none => exact ih
      | some entry => exact (Appended.toStream_cons_self hid _).trans (congrArg (entry :: ·) ih)
    · rw [ofStream_cons_of_ne hid, List.filterMap_cons, appended?]
      cases access.call.made? with
      | none => exact ih
      | some entry => exact (Appended.toStream_cons_of_ne hid _).trans ih

end LogAccess

/-! ## Deeds -/

/-- **One call through a handle, with its answer**: on a table or on a log stream; an identity pool
has nothing to call. -/
inductive Deed where
  | table (access : Access)
  | stream (access : LogAccess)

namespace Deed

/-- The handle that the deed is done through. -/
def target : Deed → Resource
  | table access => .table access.table
  | stream access => .logStream access.stream

/-- The deed as a call on a table — the projection that tables are followed by. -/
def access? : Deed → Option Access
  | table access => some access
  | stream _ => none

/-- The deed as a call on a log stream — the projection that logs are followed by. -/
def logAccess? : Deed → Option LogAccess
  | table _ => none
  | stream access => some access

theorem target_of_access? {deed : Deed} {access : Access} (h : deed.access? = some access) :
    deed.target = .table access.table := by
  cases deed with
  | table own => exact congrArg (Resource.table ·.table) (Option.some.inj h)
  | stream own => exact absurd h nofun

end Deed

/-- A call on a table as a `Deed`. -/
def Table.deed (t : Table) (call : Table.Call) (w : Workspace) : Deed := .table (t.access call w)

/-- A call on a log stream as a `Deed`. -/
def LogStream.deed (l : LogStream) (call : LogStream.Call) (w : Workspace) : Deed :=
  .stream (l.access call w)

/-! ## The trace of a run -/

/-- **The deeds of a script**, in their order: what a handler does depends on the answers, so the
trace is taken beside the `Workspace` that gives them. -/
def Script.trace : Script → Workspace → List Deed
  | answer _, _ => []
  | put table data next, w =>
    table.deed (.put data) w :: (next (table.put data w).1).trace (table.put data w).2
  | update table key data next, w =>
    table.deed (.update key data) w :: next.trace (table.update key data w)
  | delete table key next, w => table.deed (.delete key) w :: next.trace (table.delete key w)
  | get table key next, w => table.deed (.get key) w :: (next (table.get? key w)).trace w
  | scan table next, w => table.deed .scan w :: (next (table.scan w)).trace w
  | info stream time message fields next, w =>
    stream.deed (.info time message fields) w :: next.trace (stream.info time message fields w)
  | audit stream time message fields next, w =>
    stream.deed (.audit time message fields) w :: next.trace (stream.audit time message fields w)
  | write stream time data next, w =>
    stream.deed (.write time data) w ::
      (next (stream.write time data w).1).trace (stream.write time data w).2
  | entries stream next, w => stream.deed .entries w :: (next (stream.entries w)).trace w

/-- The deeds of an operation through handles: one call, or the whole `Script` of a handler. -/
def LocalOp.trace (op : LocalOp) (w : Workspace) : List Deed :=
  match op with
  | put table data => [table.deed (.put data) w]
  | update table key data => [table.deed (.update key data) w]
  | delete table key => [table.deed (.delete key) w]
  | get table key => [table.deed (.get key) w]
  | scan table => [table.deed .scan w]
  | info stream time message fields => [stream.deed (.info time message fields) w]
  | audit stream time message fields => [stream.deed (.audit time message fields) w]
  | write stream time data => [stream.deed (.write time data) w]
  | entries stream => [stream.deed .entries w]
  | call handler input => (handler.body input).trace w

/-- The deeds of a request; an operation on a registry does nothing through a handle. -/
def Request.trace : Request → Workspace → List Deed
  | on _ _, _ => []
  | locally op, w => op.trace w

namespace Session

/-- **The deeds of a session that serves requests**, those of handlers included, each against the
workspace that it met. -/
def trace (s : Session) : List Request → List Deed
  | [] => []
  | request :: requests => request.trace s.workspace ++ trace (s.step request).2 requests

theorem trace_append (s : Session) (front back : List Request) :
    s.trace (front ++ back) = s.trace front ++ (s.run front).2.trace back := by
  induction front generalizing s with
  | nil => rfl
  | cons request front ih =>
    rw [List.cons_append, trace, ih, trace, List.append_assoc]
    rfl

theorem trace_concat (s : Session) (requests : List Request) (request : Request) :
    s.trace (requests ++ [request]) =
      s.trace requests ++ request.trace (s.run requests).2.workspace := by
  rw [trace_append, trace, trace, List.append_nil]

/-- **The accesses made while a session serves requests** — the `access?` projection of its
trace. -/
def accesses (s : Session) (requests : List Request) : List Access :=
  (s.trace requests).filterMap Deed.access?

/-- **The calls on log streams made while a session serves requests** — the `logAccess?`
projection. -/
def logAccesses (s : Session) (requests : List Request) : List LogAccess :=
  (s.trace requests).filterMap Deed.logAccess?

/-- **What is appended to logs while a session serves requests**, in order: what `appended?` finds
in its `logAccesses`. -/
def appended (s : Session) (requests : List Request) : List Appended :=
  (s.logAccesses requests).filterMap LogAccess.appended?

end Session

/-! ## What one call keeps, a run keeps -/

/-- **A relation between the two ends of a course of deeds**: it holds where nothing is done, of
every call, and of one course after another.  Of operations on registries it says nothing, since
they do nothing through handles — what they must keep is a hypothesis of `Course.run`. -/
structure Course (R : Workspace → List Deed → Workspace → Prop) : Prop where
  nil : ∀ w, R w [] w
  append : ∀ {w w' w'' front back}, R w front w' → R w' back w'' → R w (front ++ back) w''
  table : ∀ (t : Table) call w, R w [t.deed call w] (t.serve call w).2
  stream : ∀ (l : LogStream) call w, R w [l.deed call w] (l.serve call w).2

namespace Course

variable {R : Workspace → List Deed → Workspace → Prop}

/-- **A script is a course of calls**, whatever it makes of what it is told — the induction is on
the script, at every answer. -/
theorem script (h : Course R) (script : Script) (w : Workspace) :
    R w (script.trace w) (script.run w).2 := by
  induction script generalizing w with
  | answer output => exact h.nil w
  | put table data next ih => exact h.append (h.table table (.put data) w) (ih _ _)
  | update table key data next ih => exact h.append (h.table table (.update key data) w) (ih _)
  | delete table key next ih => exact h.append (h.table table (.delete key) w) (ih _)
  | get table key next ih => exact h.append (h.table table (.get key) w) (ih _ w)
  | scan table next ih => exact h.append (h.table table .scan w) (ih _ w)
  | info stream time message fields next ih =>
    exact h.append (h.stream stream (.info time message fields) w) (ih _)
  | audit stream time message fields next ih =>
    exact h.append (h.stream stream (.audit time message fields) w) (ih _)
  | write stream time data next ih => exact h.append (h.stream stream (.write time data) w) (ih _ _)
  | entries stream next ih => exact h.append (h.stream stream .entries w) (ih _ w)

/-- So is every operation through handles — a call is the course of one deed. -/
theorem localOp (h : Course R) (op : LocalOp) (w : Workspace) : R w (op.trace w) (op.run w).2 := by
  cases op with
  | put table data => exact h.table table (.put data) w
  | update table key data => exact h.table table (.update key data) w
  | delete table key => exact h.table table (.delete key) w
  | get table key => exact h.table table (.get key) w
  | scan table => exact h.table table .scan w
  | info stream time message fields => exact h.stream stream (.info time message fields) w
  | audit stream time message fields => exact h.stream stream (.audit time message fields) w
  | write stream time data => exact h.stream stream (.write time data) w
  | entries stream => exact h.stream stream .entries w
  | call handler input => exact h.script (handler.body input) w

/-- **A request is a course of calls, or an operation on a registry** — of a registry with a
property `I`, where the session has no others. -/
theorem step (h : Course R) {I : Registry → Prop}
    (hR : ∀ (b : Workbench) (op : RegistryOp), I b.registry →
      R b.workspace [] (op.run b).2.workspace)
    {s : Session}
    (hs : ∀ (i : Nat) (registry : Registry), s.registries[i]? = some registry → I registry)
    (request : Request) :
    R s.workspace (request.trace s.workspace) (s.step request).2.workspace := by
  cases request with
  | locally op => exact h.localOp op s.workspace
  | on i op =>
    cases hr : s.registries[i]? with
    | none =>
      rw [Session.step_on_of_getElem?_eq_none hr]
      exact h.nil s.workspace
    | some registry =>
      rw [Session.step_on hr]
      exact hR ⟨registry, s.workspace⟩ op (hs i registry hr)

/-- **What every call keeps, a run of requests keeps** — if operations on registries keep it too, of
registries with a property `I` that they keep themselves. -/
theorem run (h : Course R) {I : Registry → Prop}
    (hI : ∀ (b : Workbench) (op : RegistryOp), I b.registry → I (op.run b).2.registry)
    (hR : ∀ (b : Workbench) (op : RegistryOp), I b.registry →
      R b.workspace [] (op.run b).2.workspace)
    {s : Session}
    (hs : ∀ (i : Nat) (registry : Registry), s.registries[i]? = some registry → I registry)
    (requests : List Request) : R s.workspace (s.trace requests) (s.run requests).2.workspace := by
  induction requests generalizing s with
  | nil => exact h.nil s.workspace
  | cons request requests ih =>
    exact h.append (h.step hR hs request) (ih (Session.forall_registries_step hI hs request))

end Course

end BackendPlan
