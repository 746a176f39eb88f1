import BackendPlan.Record
import BackendPlan.Text.Quoted
import BackendPlan.Workspace

/-!
# Handler — named callables, and what they do when they are called

A handler has an identity, a name and a script for every input.  It gets its identity when it is
made, and copies of it share it; routes are merged by identity, never by a name or a path.
Declaring a handler never calls it; `Handler.call` is for trying it out locally.

A `Script` is a tree: it answers at once, or does one thing to a table or a log and goes on
according to what that said.  So a handler can use its input, tables and logs and nothing else, and
a call always ends.
-/

namespace BackendPlan

/-! ## Identities -/

/-- **The identity of a handler**: a `Uuid`, and the only thing that tells handlers apart. -/
structure HandlerId where
  uuid : Uuid
deriving DecidableEq, Repr

namespace HandlerId

def text (id : HandlerId) : String := id.uuid.text

def ofJson : Json → Except Record.Error HandlerId
  | .str s =>
    match Uuid.ofText? s with
    | .ok uuid => .ok ⟨uuid⟩
    | .error cause => .error (.badUuid cause)
  | v => .error (.wrongType v .uuid)

def written (id : HandlerId) : Json := .str id.text

end HandlerId

/-! ## Scripts -/

/-- **A computation that may use tables and logs**: the continuation `next` of a step is given what
the step said. -/
inductive Script where
  | answer (output : Json)
  | put (table : Table) (data : Payload) (next : Bool → Script)
  | update (table : Table) (key data : Json) (next : Script)
  | delete (table : Table) (key : Json) (next : Script)
  | get (table : Table) (key : Json) (next : Option Json → Script)
  | scan (table : Table) (next : List Json → Script)
  | info (stream : LogStream) (time : Timestamp) (message : String) (fields : Members Json)
    (next : Script)
  | audit (stream : LogStream) (time : Timestamp) (message : String) (fields : Members Json)
    (next : Script)
  | write (stream : LogStream) (time : Timestamp) (data : Payload) (next : Bool → Script)
  | entries (stream : LogStream) (next : List LogEntry → Script)

namespace Script

/-- **Run a script** — its answer, and the `Workspace` with what became of the tables and logs. -/
def run : Script → Workspace → Json × Workspace
  | answer output, w => (output, w)
  | put table data next, w =>
    let (stored, w) := table.put data w
    (next stored).run w
  | update table key data next, w => next.run (table.update key data w)
  | delete table key next, w => next.run (table.delete key w)
  | get table key next, w => (next (table.get? key w)).run w
  | scan table next, w => (next (table.scan w)).run w
  | info stream time message fields next, w => next.run (stream.info time message fields w)
  | audit stream time message fields next, w => next.run (stream.audit time message fields w)
  | write stream time data next, w =>
    let (recorded, w) := stream.write time data w
    (next recorded).run w
  | entries stream next, w => (next (stream.entries w)).run w

end Script

/-! ## Handlers -/

/-- **A handler**: its `body` gives the script for an input, and is run by a call only. -/
structure Handler where
  id : HandlerId
  name : String
  body : Json → Script

namespace Handler

/-- Handlers are the same when their identities are, whatever their names and scripts. -/
instance : BEq Handler := ⟨fun a b => a.id == b.id⟩

/-- **Call the handler** — no registry and no route has to know of it. -/
def call (h : Handler) (input : Json) (w : Workspace) : Json × Workspace := (h.body input).run w

/-- The handler as one line for a human to read, its identity written by `label`. -/
def describe (label : HandlerId → String) (h : Handler) : String :=
  "Handler \x7b id: HandlerId(" ++ label h.id ++ "), name: " ++ Text.quoted h.name ++ " \x7d"

end Handler

end BackendPlan
