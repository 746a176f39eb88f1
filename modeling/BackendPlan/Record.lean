import BackendPlan.Json.Printer
import BackendPlan.Text.Quoted
import BackendPlan.Time
import BackendPlan.Uuid

/-!
# Record — records read from objects and from lists

A record is read field by field into a **draft**, whose fields may still be missing, and finished
when the value has been visited.  A `Layout` holds what that takes; `Layout.read` accepts two forms
with it:

* an object, visited in the order of its keys; keys that are no field are passed over,
* a list of the fields in their declared order, which may end early where the rest has defaults.

Both forms feed the same `set`, so they read a field alike; they differ in the order of the fields
and in the error for one that is missing.  Reading stops at the first thing wrong with the value,
and the `Error` says which: a value of another type, a field that is missing, a list of the wrong
length, a name that is no variant, or a text that is no identifier or no timestamp.
-/

namespace BackendPlan

/-! ## Why a value is no record -/

namespace Record

inductive Wanted where
  | text
  | flag
  | list
  | map
  | unit
  | variant
  | record (name : String)
  | uuid
  | timestamp
deriving DecidableEq, Repr

/-- **Why a value could not be read**: only the first thing wrong with it is told. -/
inductive Error where
  /-- The value has another type than the one wanted. -/
  | wrongType (found : Json) (wanted : Wanted)
  /-- An object lacks a field. -/
  | missingField (name : String)
  /-- A list ends before the fields of the record do; `found` fields could be filled. -/
  | tooShort (found : Nat) (record : String) (size : Nat)
  /-- A list has more items than the record has fields. -/
  | tooLong (found : Nat)
  /-- A name is none of the variants. -/
  | unknownVariant (name : String) (variants : List String)
  /-- A variant is given by an object without exactly one key. -/
  | notSingleKey
  | badUuid (cause : Uuid.Error)
  | badTimestamp (cause : Timestamp.Error)
deriving DecidableEq, Repr

def Wanted.describe : Wanted → String
  | text => "a string"
  | flag => "a boolean"
  | list => "a sequence"
  | map => "a map"
  | unit => "unit"
  | variant => "string or map"
  | record name => "struct " ++ name
  | uuid => "a formatted UUID string"
  | timestamp => "an RFC 3339 formatted date and time string"

/-- How a message names what it found: scalars by their value, containers by their kind. -/
def describeFound : Json → String
  | .null => "null"
  | .bool b => "boolean `" ++ String.ofList (Json.boolChars b) ++ "`"
  | .whole n => "integer `" ++ String.ofList (Json.intChars n.val) ++ "`"
  | .float x => "floating point `" ++ String.ofList x.text ++ "`"
  | .str s => "string " ++ Text.quoted s
  | .arr _ => "sequence"
  | .obj _ => "map"

/-- **The wording of an error**: the only place where causes get words. -/
def Error.message : Error → String
  | wrongType found wanted =>
    "invalid type: " ++ describeFound found ++ ", expected " ++ wanted.describe
  | missingField name => "missing field `" ++ name ++ "`"
  | tooShort found record size =>
    s!"invalid length {found}, expected struct {record} with {size} elements"
  | tooLong found => s!"invalid length {found}, expected fewer elements in array"
  | unknownVariant name variants =>
    "unknown variant `" ++ name ++ "`, expected one of " ++
      String.intercalate ", " (variants.map fun v => "`" ++ v ++ "`")
  | notSingleKey => "invalid value: map, expected map with a single key"
  | badUuid cause => "UUID parsing failed: " ++ cause.message
  | badTimestamp cause => cause.message

/-! ## Single values -/

def text : Json → Except Error String
  | .str s => .ok s
  | v => .error (.wrongType v .text)

def flag : Json → Except Error Bool
  | .bool b => .ok b
  | v => .error (.wrongType v .flag)

def texts : Json → Except Error (List String)
  | .arr items => items.mapM text
  | v => .error (.wrongType v .list)

def map : Json → Except Error (Members Json)
  | .obj members => .ok members
  | v => .error (.wrongType v .map)

/-- A value that may be null — null and a missing field read alike as `none`. -/
def optional {α : Type} (read : Json → Except Error α) : Json → Except Error (Option α)
  | .null => .ok none
  | v => (read v).map some

/-! ## Variants -/

/-- **One of several named variants**: as its name, or as an object from the name to `null`. -/
def variant {α : Type} (variants : List (String × α)) : Json → Except Error α
  | .str name => named name
  | .obj [(name, content)] => do
    let a ← named name
    match content with
    | .null => return a
    | v => throw (.wrongType v .unit)
  | .obj _ => .error .notSingleKey
  | v => .error (.wrongType v .variant)
where
  /-- The variant of a name. -/
  named (name : String) : Except Error α :=
    match variants.lookup name with
    | some a => .ok a
    | none => .error (.unknownVariant name (variants.map (·.1)))

/-! ## Records -/

/-- **How a record is laid out**: its name, its fields in declared order, and how a draft is begun,
has a field `set`, and is finished; finishing names the first required field that is missing. -/
structure Layout (δ α : Type) where
  name : String
  fields : List String
  start : δ
  set : δ → String → Json → Except Error δ
  finish : δ → Except String α

namespace Layout

variable {δ α : Type}

/-- The draft with the given fields set, one after another. -/
def fill (l : Layout δ α) (given : List (String × Json)) : Except Error δ :=
  given.foldlM (fun draft (key, value) => l.set draft key value) l.start

/-- The record of an object: its members are visited in the order of their keys. -/
def readObject (l : Layout δ α) (members : Members Json) : Except Error α := do
  let draft ← l.fill members
  match l.finish draft with
  | .ok a => return a
  | .error field => throw (.missingField field)

/-- The record of a list: its items are the `fields` in declared order, and a longer list is
refused. -/
def readList (l : Layout δ α) (items : List Json) : Except Error α := do
  let draft ← l.fill (l.fields.zip items)
  match l.finish draft with
  | .ok a => if l.fields.length < items.length then throw (.tooLong items.length) else return a
  | .error field => throw (.tooShort (l.fields.idxOf field) l.name l.fields.length)

/-- **Read a record** in either form — both go through `fill`, so they read a field alike. -/
def read (l : Layout δ α) : Json → Except Error α
  | .obj members => l.readObject members
  | .arr items => l.readList items
  | v => .error (.wrongType v (.record l.name))

end Layout

/-- A field that has to be there: its name is the error when it is not. -/
def required {α : Type} (name : String) : Option α → Except String α
  | some a => .ok a
  | none => .error name

end Record

end BackendPlan
