import BackendPlan.Event
import BackendPlan.Resource
import BackendPlan.Table.Items

/-!
# Workspace — what declared objects contain, and the operations through their handles

Objects are numbered per kind in the order of their making.  `Contents` holds the items of every
table and the entries of every log under these numbers; nothing else is shared between handles.  A
`Workspace` is the contents with the journal of all events reported so far.

* `items_modifyItems`, `entries_modifyEntries` — changing one object changes no other.
* `items_newTable`, `entries_newLog` — a new object is empty and the old ones stay.

A table stores any data that encodes to an object with a value other than null under the partition
key; what it does not store it skips, and says why in the journal.  Updating and deleting go by a
key value and pass over absent keys in silence.  A log only grows, and every entry appended is
reported with its level and its message; the time of an entry is given by the caller.
-/

namespace BackendPlan

/-! ## Contents -/

/-- **What the declared objects contain** — a pool contains nothing, so its kind is a count. -/
structure Contents where
  tables : Array Items := #[]
  logs : Array (List LogEntry) := #[]
  /-- The number of identity pools, which contain nothing. -/
  pools : Nat := 0

namespace Contents

/-! ### Tables -/

/-- The items of a table; a number that no table has shows none. -/
def items (c : Contents) (id : Nat) : Items := c.tables[id]?.getD {}

def modifyItems (c : Contents) (id : Nat) (f : Items → Items) : Contents :=
  { c with tables := c.tables.modify id f }

def newTable (c : Contents) : Contents := { c with tables := c.tables.push {} }

/-- **`modifyItems` changes no other table** — nor anything under a number that no table has. -/
theorem items_modifyItems (c : Contents) (id : Nat) (f : Items → Items) (other : Nat) :
    (c.modifyItems id f).items other =
      if other = id ∧ id < c.tables.size then f (c.items id) else c.items other := by
  simp only [items, modifyItems, Array.getElem?_modify]
  by_cases h : other = id
  · subst h
    by_cases hlt : other < c.tables.size <;> simp [hlt]
  · simp [h, Ne.symm h]

/-- **A new table is empty and the others stay** — its number was no table's, so `items` showed none
before. -/
theorem items_newTable (c : Contents) (id : Nat) : c.newTable.items id = c.items id := by
  simp only [items, newTable, Array.getElem?_push]
  split
  · next h => simp [h]
  · rfl

/-! ### Logs -/

/-- The entries of a log, in the order of their appending. -/
def entries (c : Contents) (id : Nat) : List LogEntry := c.logs[id]?.getD []

def modifyEntries (c : Contents) (id : Nat) (f : List LogEntry → List LogEntry) : Contents :=
  { c with logs := c.logs.modify id f }

def newLog (c : Contents) : Contents := { c with logs := c.logs.push [] }

/-- **`modifyEntries` changes no other log.** -/
theorem entries_modifyEntries (c : Contents) (id : Nat) (f : List LogEntry → List LogEntry)
    (other : Nat) :
    (c.modifyEntries id f).entries other =
      if other = id ∧ id < c.logs.size then f (c.entries id) else c.entries other := by
  simp only [entries, modifyEntries, Array.getElem?_modify]
  by_cases h : other = id
  · subst h
    by_cases hlt : other < c.logs.size <;> simp [hlt]
  · simp [h, Ne.symm h]

/-- **A new log is empty and the others stay.** -/
theorem entries_newLog (c : Contents) (id : Nat) : c.newLog.entries id = c.entries id := by
  simp only [entries, newLog, Array.getElem?_push]
  split
  · next h => simp [h]
  · rfl

/-! ### Identity pools -/

def newPool (c : Contents) : Contents := { c with pools := c.pools + 1 }

end Contents

/-- **The contents of all objects, with the journal of events**: all that operations through handles
can reach. -/
structure Workspace where
  contents : Contents := {}
  journal : List Event := []

namespace Workspace

/-- Report an event: it goes to the end of the journal. -/
def report (w : Workspace) (e : Event) : Workspace := { w with journal := w.journal ++ [e] }

@[simp] theorem contents_report (w : Workspace) (e : Event) : (w.report e).contents = w.contents :=
  rfl

end Workspace

/-! ## Operations on tables -/

namespace Table

def name (t : Table) : String := t.config.name

/-- The text of the key under which an item belongs, if it can be stored: the item has a value other
than null as its partition key. -/
def keyOf? (t : Table) (item : Json) : Option String :=
  (item.get? t.config.partitionKey).bind Items.keyText

/-- **Store an item**, in the place of one with its key if there is one — and tell whether it was
stored; the journal says why it was not. -/
def put (t : Table) (data : Payload) (w : Workspace) : Bool × Workspace :=
  match data.encode with
  | .error cause => (false, w.report (.itemNotEncodable t.name cause))
  | .ok item =>
    match t.keyOf? item with
    | none => (false, w.report (.itemWithoutKey t.name t.config.partitionKey))
    | some key => (true, { w with contents := w.contents.modifyItems t.id (·.insert key item) })

/-- **Merge data into the item under a key value** — in silence if there is none. -/
def update (t : Table) (key data : Json) (w : Workspace) : Workspace :=
  match Items.keyText key with
  | some key => { w with contents := w.contents.modifyItems t.id (·.update key data) }
  | none => w

/-- **Remove the item under a key value**: in silence if there is none. -/
def delete (t : Table) (key : Json) (w : Workspace) : Workspace :=
  match Items.keyText key with
  | some key => { w with contents := w.contents.modifyItems t.id (·.remove key) }
  | none => w

def items (t : Table) (w : Workspace) : Items := w.contents.items t.id

/-- The item under a key value; null is no key. -/
def get? (t : Table) (key : Json) (w : Workspace) : Option Json :=
  (Items.keyText key).bind (t.items w).get?

def scan (t : Table) (w : Workspace) : List Json := (t.items w).scan

def size (t : Table) (w : Workspace) : Nat := (t.items w).size

end Table

/-! ## Operations on log streams -/

namespace LogStream

def name (l : LogStream) : String := l.config.name

/-- Append an entry, and report it with its level and its message. -/
def append (l : LogStream) (entry : LogEntry) (w : Workspace) : Workspace :=
  let w := w.report (.entryAppended l.name entry.level (entry.message.getD ""))
  { w with contents := w.contents.modifyEntries l.id (· ++ [entry]) }

/-- **Append a message** of level `info`, with fields beside it. -/
def info (l : LogStream) (time : Timestamp) (message : String) (fields : Members Json)
    (w : Workspace) : Workspace :=
  l.append { level := .info, message := some message, fields := fields, time := time } w

/-- **Append a message** of level `audit`, with fields beside it. -/
def audit (l : LogStream) (time : Timestamp) (message : String) (fields : Members Json)
    (w : Workspace) : Workspace :=
  l.append { level := .audit, message := some message, fields := fields, time := time } w

/-- **Append a payload** of level `write` — and tell whether it was recorded; the journal says why
it was not. -/
def write (l : LogStream) (time : Timestamp) (data : Payload) (w : Workspace) : Bool × Workspace :=
  match data.encode with
  | .error cause => (false, w.report (.entryNotEncodable l.name cause))
  | .ok entry => (true, l.append { level := .write, entry := some entry, time := time } w)

def entries (l : LogStream) (w : Workspace) : List LogEntry := w.contents.entries l.id

end LogStream

end BackendPlan
