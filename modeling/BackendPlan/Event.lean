import BackendPlan.Payload
import BackendPlan.Record
import BackendPlan.Resource

/-!
# Event — the entries of logs, and what operations report as they go

A log entry has a level, which says how it was made: a message of level `info` or `audit` with
fields beside it, or a payload of level `write`.

Every operation reports what it did, and a local operation also what it left undone and why.  An
event says what happened; its message and its fields are texts made from that.
-/

namespace BackendPlan

/-! ## Log entries -/

/-- **How an entry was made**: by `info`, by `audit` or by `write`. -/
inductive Level where
  | info
  | audit
  | write
deriving DecidableEq, Repr

namespace Level

def text : Level → String
  | info => "INFO"
  | audit => "AUDIT"
  | write => "WRITE"

def variants : List (String × Level) := [info, audit, write].map fun level => (level.text, level)

def ofJson (v : Json) : Except Record.Error Level := Record.variant variants v

def written (level : Level) : Json := .str level.text

end Level

/-- **An entry of a log**: a `message` with `fields`, or a payload in `entry`; the time is when it
was appended. -/
structure LogEntry where
  level : Level
  message : Option String := none
  entry : Option Json := none
  fields : Members Json := []
  time : Timestamp
deriving DecidableEq, Repr

namespace LogEntry

/-- An entry on its way: `level` and time are required, the rest may stay missing. -/
structure Draft where
  level : Option Level := none
  message : Option String := none
  entry : Option Json := none
  fields : Members Json := []
  time : Option Timestamp := none

def timeOfJson : Json → Except Record.Error Timestamp
  | .str s =>
    match Timestamp.ofText? s with
    | .ok time => .ok time
    | .error cause => .error (.badTimestamp cause)
  | v => .error (.wrongType v .timestamp)

/-- **The layout of an entry**: a payload of null reads as no payload, so `some .null` does not
survive reading. -/
def layout : Record.Layout Draft LogEntry where
  name := "LogEntry"
  fields := ["level", "message", "entry", "fields", "at"]
  start := {}
  set draft key value :=
    match key with
    | "level" => return { draft with level := some (← Level.ofJson value) }
    | "message" => return { draft with message := ← Record.optional Record.text value }
    | "entry" => return { draft with entry := ← Record.optional .ok value }
    | "fields" => return { draft with fields := ← Record.map value }
    | "at" => return { draft with time := some (← timeOfJson value) }
    | _ => return draft
  finish draft := do
    let level ← Record.required "level" draft.level
    let time ← Record.required "at" draft.time
    return ⟨level, draft.message, draft.entry, draft.fields, time⟩

def ofJson (v : Json) : Except Record.Error LogEntry := layout.read v

/-- The members as written but for the time — what is absent or empty is left out. -/
def timelessMembers (e : LogEntry) : Members Json :=
  [("level", e.level.written)] ++
    (e.message.map fun message => ("message", Json.str message)).toList ++
    (e.entry.map fun entry => ("entry", entry)).toList ++
    if e.fields.isEmpty then [] else [("fields", .obj e.fields)]

def members (e : LogEntry) : Members Json := e.timelessMembers ++ [("at", .str e.time.text)]

def written (e : LogEntry) : Json := .obj e.members

end LogEntry

/-! ## Events -/

/-- **Something an operation reports**: a constructor for every message, with the texts that go into
it. -/
inductive Event where
  | applicationDeclared (app stage region : String)
  | applicationReplaced (previous next : String)
  | resourceDeclared (resource : String) (kind : ResourceKind)
  | resourceOverwritten (resource : String) (kind : ResourceKind)
  | middlewareDeclared (handler : String)
  | routeDeclared (handler path : String)
  | routeUpdated (handler path : String)
  | itemNotEncodable (table : String) (cause : Payload.Error)
  | itemWithoutKey (table partitionKey : String)
  | entryAppended (stream : String) (level : Level) (text : String)
  | entryNotEncodable (stream : String) (cause : Payload.Error)
deriving DecidableEq, Repr

namespace Event

inductive Source where
  | application
  | registry
  | table
  | logStream
deriving DecidableEq, Repr

/-- The part of the library that reports the event — listeners may choose by it. -/
def source : Event → Source
  | applicationDeclared .. | middlewareDeclared .. | routeDeclared .. | routeUpdated .. =>
    .application
  | applicationReplaced .. | resourceDeclared .. | resourceOverwritten .. => .registry
  | itemNotEncodable .. | itemWithoutKey .. => .table
  | entryAppended .. | entryNotEncodable .. => .logStream

/-- **What happened, in words**: the same words for every event of a constructor. -/
def message : Event → String
  | applicationDeclared .. => "application declared"
  | applicationReplaced .. => "application replaced"
  | resourceDeclared .. => "resource declared"
  | resourceOverwritten .. => "resource overwritten"
  | middlewareDeclared .. => "middleware declared"
  | routeDeclared .. => "route declared"
  | routeUpdated .. => "route updated"
  | itemNotEncodable .. => "put skipped: item not serializable"
  | itemWithoutKey .. => "put skipped: no partition key"
  | entryAppended .. => "log append"
  | entryNotEncodable .. => "write skipped: entry not serializable"

/-- What it happened to, as named texts in declared order. -/
def fields : Event → List (String × String)
  | applicationDeclared app stage region => [("app", app), ("stage", stage), ("region", region)]
  | applicationReplaced previous next => [("previous", previous), ("next", next)]
  | resourceDeclared resource kind | resourceOverwritten resource kind =>
    [("resource", resource), ("kind", kind.text)]
  | middlewareDeclared handler => [("handler", handler)]
  | routeDeclared handler path | routeUpdated handler path => [("handler", handler), ("path", path)]
  | itemNotEncodable table cause => [("table", table), ("error", cause.message)]
  | itemWithoutKey table partitionKey => [("table", table), ("partition_key", partitionKey)]
  | entryAppended stream level text =>
    [("stream", stream), ("severity", level.text), ("text", text)]
  | entryNotEncodable stream cause => [("stream", stream), ("error", cause.message)]

end Event

end BackendPlan
