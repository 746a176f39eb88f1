import BackendPlan.Decimal
import BackendPlan.Json.Members

/-!
# Json/Basic — JSON documents and values

A **document** is a tree as it is written down, with the members of each object in their written
order.  A **value** is a document in canonical form: in every object the keys increase, so no key
occurs twice and equal values are equal trees.  `canonical` reads the value of a document.

Whole numbers and floating-point numbers are different values: `1` is not `1.0`.
-/

namespace BackendPlan

/-- **A whole number of JSON** — one that fits a signed or an unsigned 64-bit word. -/
structure Whole where
  val : Int
  ge : -0x8000000000000000 ≤ val
  lt : val < 0x10000000000000000
deriving DecidableEq, Repr

namespace Whole

def ofInt? (n : Int) : Option Whole :=
  if h : -0x8000000000000000 ≤ n ∧ n < 0x10000000000000000 then some ⟨n, h.1, h.2⟩ else none

@[simp] theorem ofInt?_val (n : Whole) : ofInt? n.val = some n := by
  simp only [ofInt?, n.ge, n.lt, and_self, dite_true]

end Whole

/-- **A JSON document**: a tree as it is written down; its *value* is its `canonical` form. -/
inductive Json where
  | null
  | bool (b : Bool)
  | whole (n : Whole)
  | float (x : Binary64)
  | str (s : String)
  | arr (items : List Json)
  | obj (members : List (String × Json))
deriving Repr

namespace Json

instance : Inhabited Json := ⟨.null⟩

/-! ## Equality

Equality is decided constructor by constructor, lists of items and of members beside the
documents. -/

mutual
/-- Equality of documents is decided along the two trees, since deriving does not reach through the
lists. -/
def decEq : (a b : Json) → Decidable (a = b)
  | .null, .null => isTrue rfl
  | .bool a, .bool b => decidable_of_iff (a = b) (by simp)
  | .whole a, .whole b => decidable_of_iff (a = b) (by simp)
  | .float a, .float b => decidable_of_iff (a = b) (by simp)
  | .str a, .str b => decidable_of_iff (a = b) (by simp)
  | .arr a, .arr b =>
    match decEqItems a b with
    | isTrue h => isTrue (congrArg arr h)
    | isFalse h => isFalse fun e => h (by injection e)
  | .obj a, .obj b =>
    match decEqMembers a b with
    | isTrue h => isTrue (congrArg obj h)
    | isFalse h => isFalse fun e => h (by injection e)
  | .null, .bool _ | .null, .whole _ | .null, .float _ | .null, .str _ | .null, .arr _
  | .null, .obj _ => isFalse nofun
  | .bool _, .null | .bool _, .whole _ | .bool _, .float _ | .bool _, .str _ | .bool _, .arr _
  | .bool _, .obj _ => isFalse nofun
  | .whole _, .null | .whole _, .bool _ | .whole _, .float _ | .whole _, .str _ | .whole _, .arr _
  | .whole _, .obj _ => isFalse nofun
  | .float _, .null | .float _, .bool _ | .float _, .whole _ | .float _, .str _ | .float _, .arr _
  | .float _, .obj _ => isFalse nofun
  | .str _, .null | .str _, .bool _ | .str _, .whole _ | .str _, .float _ | .str _, .arr _
  | .str _, .obj _ => isFalse nofun
  | .arr _, .null | .arr _, .bool _ | .arr _, .whole _ | .arr _, .float _ | .arr _, .str _
  | .arr _, .obj _ => isFalse nofun
  | .obj _, .null | .obj _, .bool _ | .obj _, .whole _ | .obj _, .float _ | .obj _, .str _
  | .obj _, .arr _ => isFalse nofun

def decEqItems : (a b : List Json) → Decidable (a = b)
  | [], [] => isTrue rfl
  | [], _ :: _ | _ :: _, [] => isFalse nofun
  | x :: xs, y :: ys =>
    match decEq x y, decEqItems xs ys with
    | isTrue h, isTrue hs => isTrue (by rw [h, hs])
    | isFalse h, _ => isFalse fun e => h (List.cons.inj e).1
    | _, isFalse hs => isFalse fun e => hs (List.cons.inj e).2

def decEqMembers : (a b : List (String × Json)) → Decidable (a = b)
  | [], [] => isTrue rfl
  | [], _ :: _ | _ :: _, [] => isFalse nofun
  | (k, x) :: xs, (l, y) :: ys =>
    match decEq x y, decEqMembers xs ys with
    | isTrue h, isTrue hs =>
      if hk : k = l then isTrue (by rw [hk, h, hs])
      else isFalse fun e => hk (Prod.mk.inj (List.cons.inj e).1).1
    | isFalse h, _ => isFalse fun e => h (Prod.mk.inj (List.cons.inj e).1).2
    | _, isFalse hs => isFalse fun e => hs (List.cons.inj e).2
end

instance : DecidableEq Json := decEq

/-! ## Values -/

mutual
/-- **The value that a document stands for**: members sorted at every level (`Members.ofList`), the
later of two with one key kept. -/
def canonical : Json → Json
  | .null => .null
  | .bool b => .bool b
  | .whole n => .whole n
  | .float x => .float x
  | .str s => .str s
  | .arr items => .arr (canonicalItems items)
  | .obj members => .obj (Members.ofList (canonicalMembers members))

def canonicalItems : List Json → List Json
  | [] => []
  | v :: vs => v.canonical :: canonicalItems vs

/-- The members with the values of their documents, in their written order — `canonical` sorts
them. -/
def canonicalMembers : List (String × Json) → List (String × Json)
  | [] => []
  | (k, v) :: ms => (k, v.canonical) :: canonicalMembers ms
end

mutual
/-- **The document is a value**: its objects are `Members.Sorted` at every level, so equal values
are equal trees. -/
def IsCanonical : Json → Prop
  | .null | .bool _ | .whole _ | .float _ | .str _ => True
  | .arr items => AreCanonical items
  | .obj members => Members.Sorted members ∧ AreCanonicalMembers members

def AreCanonical : List Json → Prop
  | [] => True
  | v :: vs => v.IsCanonical ∧ AreCanonical vs

def AreCanonicalMembers : List (String × Json) → Prop
  | [] => True
  | (_, v) :: ms => v.IsCanonical ∧ AreCanonicalMembers ms
end

/-- The value of `key`, when the document is an object that has it. -/
def get? : Json → String → Option Json
  | .obj members, key => Members.get? members key
  | _, _ => none

/-- A list of texts as JSON. -/
def ofStrings (texts : List String) : Json := .arr (texts.map .str)

end Json

end BackendPlan
