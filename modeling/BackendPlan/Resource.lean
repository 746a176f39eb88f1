import BackendPlan.Config
import BackendPlan.Record

/-!
# Resource — declared resources, their handles and references to them

A resource is a table, a log stream or an identity pool.  Declaring one makes an **object** with a
number of its own among those of its kind.  A **handle** is that number with the configuration,
which never changes; whoever holds the handle reaches the same object, so two handles are of one
object exactly when their kind and number agree, whatever their configurations say
(`Resource.sameAs_iff`).  What an object contains is kept elsewhere (`Contents`).

A **reference** names a resource by kind and name; it is not resolved here, so it may point at
nothing.
-/

namespace BackendPlan

/-! ## Kinds and references -/

/-- **The kinds of resources.** -/
inductive ResourceKind where
  | table
  | logStream
  | identityPool
deriving DecidableEq, Repr

namespace ResourceKind

def text : ResourceKind → String
  | table => "table"
  | logStream => "log_stream"
  | identityPool => "identity_pool"

def variants : List (String × ResourceKind) :=
  [table, logStream, identityPool].map fun kind => (kind.text, kind)

def ofJson (v : Json) : Except Record.Error ResourceKind := Record.variant variants v

def written (kind : ResourceKind) : Json := .str kind.text

end ResourceKind

/-- **A reference to a resource**: by kind and name, so it may point at nothing. -/
structure ResourceRef where
  kind : ResourceKind
  name : String
deriving DecidableEq, Repr

namespace ResourceRef

/-- A reference on its way: both fields are required, and either may still be missing. -/
structure Draft where
  kind : Option ResourceKind := none
  name : Option String := none

def layout : Record.Layout Draft ResourceRef where
  name := "ResourceRef"
  fields := ["kind", "name"]
  start := {}
  set draft key value :=
    match key with
    | "kind" => return { draft with kind := some (← ResourceKind.ofJson value) }
    | "name" => return { draft with name := some (← Record.text value) }
    | _ => return draft
  finish draft := do
    let kind ← Record.required "kind" draft.kind
    let name ← Record.required "name" draft.name
    return ⟨kind, name⟩

def ofJson (v : Json) : Except Record.Error ResourceRef := layout.read v

def written (ref : ResourceRef) : Json :=
  .obj [("kind", ref.kind.written), ("name", .str ref.name)]

end ResourceRef

/-! ## Handles -/

/-- **A declared table**: the handle is the number `id` of its object and the configuration it was
declared with. -/
structure Table where
  id : Nat
  config : TableConfig
deriving DecidableEq, Repr

/-- **A declared log stream**, by the number `id` of its object. -/
structure LogStream where
  id : Nat
  config : LogStreamConfig
deriving DecidableEq, Repr

/-- **A declared identity pool**, by its number `id`; there is no content behind it. -/
structure IdentityPool where
  id : Nat
  config : IdentityPoolConfig
deriving DecidableEq, Repr

/-- **A declared resource** of any kind: what a registry keeps, and what a declaration hands out. -/
inductive Resource where
  | table (t : Table)
  | logStream (l : LogStream)
  | identityPool (p : IdentityPool)
deriving DecidableEq, Repr

namespace Resource

/-- The name, under which a registry has at most one resource. -/
def name : Resource → String
  | table t => t.config.name
  | logStream l => l.config.name
  | identityPool p => p.config.name

def kind : Resource → ResourceKind
  | table _ => .table
  | logStream _ => .logStream
  | identityPool _ => .identityPool

/-- The number of the object among those of its kind: numbers of two kinds may agree. -/
def id : Resource → Nat
  | table t => t.id
  | logStream l => l.id
  | identityPool p => p.id

/-- **The two handles are of one object**, by kind and `id`: names and configurations have no say in
it. -/
def sameAs (a b : Resource) : Bool := a.kind == b.kind && a.id == b.id

/-- **The declared configuration**, without anything the object contains. -/
def configJson : Resource → Json
  | table t => t.config.toJson
  | logStream l => l.config.toJson
  | identityPool p => p.config.toJson

def toRef (r : Resource) : ResourceRef := ⟨r.kind, r.name⟩

/-- The table, if the resource is one; `logStream?` and `identityPool?` are the same for the other
kinds. -/
def table? : Resource → Option Table
  | table t => some t
  | _ => none

def logStream? : Resource → Option LogStream
  | logStream l => some l
  | _ => none

def identityPool? : Resource → Option IdentityPool
  | identityPool p => some p
  | _ => none

theorem sameAs_iff {a b : Resource} : a.sameAs b = true ↔ a.kind = b.kind ∧ a.id = b.id := by
  simp [sameAs]

theorem sameAs_symm {a b : Resource} (h : a.sameAs b = true) : b.sameAs a = true :=
  sameAs_iff.2 ((sameAs_iff.1 h).imp Eq.symm Eq.symm)

end Resource

end BackendPlan
