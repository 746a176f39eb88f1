import BackendPlan.Registry.Workbench
import BackendPlan.Snapshot
import BackendPlan.Workspace

/-!
# Session — operations on registries and on local objects, as data

A session has any number of registries over one workspace.  What may be done to a registry is a
`RegistryOp`, what may be done through handles alone a `LocalOp`; both answer with a reply.  Runs of
operations are lists, so that statements about whole histories are statements about lists.

* `RegistryOp.run` — one operation on a workbench.
* `LocalOp.run` — one operation on the workspace; it has no registry to change.
* `Session.step` — one request to a session.
-/

namespace BackendPlan

/-! ## Operations on a registry -/

/-- **What may be done to a registry**: declarations, registering what exists, decorations, import,
edit and reset. -/
inductive RegistryOp where
  | declareApplication (config : AppConfig)
  | declareTable (config : TableConfig)
  | declareLogStream (config : LogStreamConfig)
  | declareIdentityPool (config : IdentityPoolConfig)
  | setApplication (app : Application)
  | putResource (resource : Resource)
  | route (handler : Handler) (spec : RouteSpec)
  | auth (handler : Handler) (spec : AuthSpec)
  | middleware (handler : Handler)
  | appendRoute (record : Route)
  | editRoute (handler : HandlerId) (edit : Route.Edit)
  | reset

/-- What an operation on a registry answers. -/
inductive RegistryReply where
  | done
  | application (app : Application)
  | resource (resource : Resource)
  | handler (handler : Handler)
  /-- Whether there was a record to edit. -/
  | edited (found : Bool)
  | refused (cause : DeclareError)

namespace RegistryReply

/-- The reply of an operation that may be refused. -/
def ofResult {α : Type} (reply : α → RegistryReply) : Except DeclareError α → RegistryReply
  | .ok a => reply a
  | .error cause => refused cause

end RegistryReply

namespace RegistryOp

/-- **One operation on a registry** — its reply, and what became of registry, contents and
journal. -/
def run (op : RegistryOp) (b : Workbench) : RegistryReply × Workbench :=
  match op with
  | declareApplication config => (b.declareApplication config).map (.ofResult .application) id
  | declareTable config =>
    (b.declareTable config).map (.ofResult fun t => .resource (.table t)) id
  | declareLogStream config =>
    (b.declareLogStream config).map (.ofResult fun l => .resource (.logStream l)) id
  | declareIdentityPool config =>
    (b.declareIdentityPool config).map (.ofResult fun p => .resource (.identityPool p)) id
  | setApplication app => (b.setApplication app).map (.ofResult fun () => .done) id
  | putResource resource => (b.putResource resource).map (.ofResult fun () => .done) id
  | route handler spec => (b.route handler spec).map .handler id
  | auth handler spec => (b.auth handler spec).map .handler id
  | middleware handler => (b.middleware handler).map .handler id
  | appendRoute record => (.done, b.modifyRegistry (·.appendRoute record))
  | editRoute handler edit =>
    (.edited (b.registry.findRoute? handler).isSome,
      b.modifyRegistry (·.updateRoute handler (·.edit edit)))
  | reset => (.done, b.modifyRegistry Registry.reset)

end RegistryOp

/-! ## Operations through handles -/

/-- **What may be done through handles**, without any registry — calling a handler included. -/
inductive LocalOp where
  | put (table : Table) (data : Payload)
  | update (table : Table) (key data : Json)
  | delete (table : Table) (key : Json)
  | get (table : Table) (key : Json)
  | scan (table : Table)
  | info (stream : LogStream) (time : Timestamp) (message : String) (fields : Members Json)
  | audit (stream : LogStream) (time : Timestamp) (message : String) (fields : Members Json)
  | write (stream : LogStream) (time : Timestamp) (data : Payload)
  | entries (stream : LogStream)
  | call (handler : Handler) (input : Json)

inductive LocalReply where
  | done
  /-- Whether the data was stored or recorded. -/
  | stored (on : Bool)
  | item (item : Option Json)
  | items (items : List Json)
  | entries (entries : List LogEntry)
  | output (value : Json)

namespace LocalOp

/-- **One operation through a handle**: it has no registry to change. -/
def run (op : LocalOp) (w : Workspace) : LocalReply × Workspace :=
  match op with
  | put table data => (table.put data w).map .stored id
  | update table key data => (.done, table.update key data w)
  | delete table key => (.done, table.delete key w)
  | get table key => (.item (table.get? key w), w)
  | scan table => (.items (table.scan w), w)
  | info stream time message fields => (.done, stream.info time message fields w)
  | audit stream time message fields => (.done, stream.audit time message fields w)
  | write stream time data => (stream.write time data w).map .stored id
  | entries stream => (.entries (stream.entries w), w)
  | call handler input => (handler.call input w).map .output id

end LocalOp

/-! ## Sessions -/

/-- **Registries over one workspace** — so a handle reaches its object whichever registry handed it
out. -/
structure Session where
  registries : Array Registry
  workspace : Workspace := {}

/-- A request to a session: to one of its registries by number, or through handles. -/
inductive Request where
  | on (registry : Nat) (op : RegistryOp)
  | locally (op : LocalOp)

inductive Reply where
  | on (reply : RegistryReply)
  | locally (reply : LocalReply)
  /-- The session has no registry of that number. -/
  | noRegistry

namespace Session

/-- A session of new registries, one for each of the settings. -/
def start (settings : List Settings) : Session where
  registries := (settings.map Registry.withSettings).toArray

/-- **Serve one request**: one to a registry that is not there changes nothing. -/
def step (s : Session) : Request → Reply × Session
  | .on i op =>
    match s.registries[i]? with
    | some registry =>
      let (reply, b) := op.run ⟨registry, s.workspace⟩
      (.on reply, ⟨s.registries.setIfInBounds i b.registry, b.workspace⟩)
    | none => (.noRegistry, s)
  | .locally op =>
    let (reply, workspace) := op.run s.workspace
    (.locally reply, { s with workspace := workspace })

/-- **Serve requests one after another** — all replies, and the session at the end. -/
def run (s : Session) : List Request → List Reply × Session
  | [] => ([], s)
  | request :: requests =>
    let (reply, s) := s.step request
    let (replies, s) := s.run requests
    (reply :: replies, s)

end Session

end BackendPlan
