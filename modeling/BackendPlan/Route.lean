import BackendPlan.Handler
import BackendPlan.Resource
import BackendPlan.Text.Basic
import BackendPlan.Text.Case

/-!
# Route — routes as an author declares them and as a registry keeps them

A route record joins a path, the methods it answers to and the handler that serves it.  Records are
found by the handler alone; of several for one handler the first counts, and `Route.updateFirst`
changes just that one.

* `AuthSpec.descriptor` — a route may ask for authorization by a resource, by the user pool, and by
  scopes.
* `RouteSpec.resolvedMethods` — methods are named one at a time or as a list, and a list wins over a
  single method.  The resolved ones are trimmed, in upper case, without blanks and duplicates, and
  never empty: `GET` stands for no method at all.
* `Placeholder.names` — a placeholder is a name between braces, where a name is an ASCII letter or
  an underscore followed by letters, digits and underscores.  A path is searched from the left: at
  each character a placeholder either starts there, and the search goes on behind it, or the search
  goes on at the next character.
-/

namespace BackendPlan

/-! ## Authorization -/

/-- **The authorization a route asks for.** -/
structure AuthDescriptor where
  resource : Option ResourceRef := none
  cognito : Option Bool := none
  scopes : List String := []
deriving DecidableEq, Repr

namespace AuthDescriptor

/-- The layout of a descriptor: every field has a default, so the draft is a descriptor. -/
def layout : Record.Layout AuthDescriptor AuthDescriptor where
  name := "AuthDescriptor"
  fields := ["resource", "cognito", "scopes"]
  start := {}
  set draft key value :=
    match key with
    | "resource" => return { draft with resource := ← Record.optional ResourceRef.ofJson value }
    | "cognito" => return { draft with cognito := ← Record.optional Record.flag value }
    | "scopes" => return { draft with scopes := ← Record.texts value }
    | _ => return draft
  finish draft := .ok draft

def ofJson (v : Json) : Except Record.Error AuthDescriptor := layout.read v

/-- The members as written: what is absent is left out, but the `scopes` are always there. -/
def members (a : AuthDescriptor) : Members Json :=
  (a.resource.map fun ref => ("resource", ref.written)).toList ++
    (a.cognito.map fun on => ("cognito", Json.bool on)).toList ++
    [("scopes", .arr (a.scopes.map .str))]

def written (a : AuthDescriptor) : Json := .obj a.members

end AuthDescriptor

/-- **An authorization as an author declares it.** -/
structure AuthSpec where
  resource : Option ResourceRef := none
  cognito : Option Bool := none
  scopes : List String := []
deriving DecidableEq, Repr

namespace AuthSpec

inductive Setting where
  | resource (ref : ResourceRef)
  | cognito (on : Bool)
  | scopes (names : List String)
deriving DecidableEq, Repr

def apply (spec : AuthSpec) : Setting → AuthSpec
  | .resource ref => { spec with resource := some ref }
  | .cognito on => { spec with cognito := some on }
  | .scopes names => { spec with scopes := names }

/-- **The authorization declared in steps**: `scopes` replace those before them. -/
def build (settings : List Setting) : AuthSpec := settings.foldl apply {}

/-- What a route keeps of the declaration: all of it. -/
def descriptor (spec : AuthSpec) : AuthDescriptor := ⟨spec.resource, spec.cognito, spec.scopes⟩

end AuthSpec

/-! ## Parameters of a path -/

namespace Placeholder

def isNameStart (c : Char) : Bool := c.isAlpha || c == '_'

def isNameChar (c : Char) : Bool := c.isAlphanum || c == '_'

/-- The name at the front up to its closing brace, and what follows the brace — `none` if another
character comes first. -/
def closed? (cs : List Char) : Option (List Char × List Char) :=
  match cs.dropWhile isNameChar with
  | '\x7d' :: rest => some (cs.takeWhile isNameChar, rest)
  | _ => none

/-- **A placeholder at the front** — its name, and what follows it. -/
def first? : List Char → Option (List Char × List Char)
  | '\x7b' :: c :: cs => if isNameStart c then closed? (c :: cs) else none
  | _ => none

theorem length_lt_of_closed? {cs name rest : List Char} (h : closed? cs = some (name, rest)) :
    rest.length < cs.length := by
  have hle : (cs.dropWhile isNameChar).length ≤ cs.length :=
    (List.dropWhile_suffix isNameChar).length_le
  unfold closed? at h
  split at h
  · next rest' hdrop =>
    obtain ⟨-, rfl⟩ := Prod.mk.inj (Option.some.inj h)
    rw [hdrop] at hle
    exact hle
  · simp at h

/-- What follows a placeholder is shorter than the text — so `names` ends. -/
theorem length_lt_of_first? {cs name rest : List Char} (h : first? cs = some (name, rest)) :
    rest.length < cs.length := by
  unfold first? at h
  split at h
  · split at h
    · exact Nat.lt_succ_of_lt (length_lt_of_closed? h)
    · simp at h
  · simp at h

/-- **The names of the placeholders**, in the order of the text: the search goes on behind a
placeholder, so they do not overlap. -/
def names (cs : List Char) : List (List Char) :=
  match _found : first? cs with
  | some (name, rest) => name :: names rest
  | none =>
    match cs with
    | [] => []
    | _ :: cs => names cs
termination_by cs.length
decreasing_by
  · exact length_lt_of_first? _found
  · exact Nat.lt_succ_self _

end Placeholder

/-! ## Routes as they are declared -/

/-- **A route as an author declares it**: `methods` win over a single `method`, whichever was given
later. -/
structure RouteSpec where
  path : String
  method : Option String := none
  methods : Option (List String) := none
  isPublic : Bool := false
deriving DecidableEq, Repr

namespace RouteSpec

/-- One step of declaring a route. -/
inductive Setting where
  | method (name : String)
  | methods (names : List String)
  | isPublic (on : Bool)
deriving DecidableEq, Repr

def apply (spec : RouteSpec) : Setting → RouteSpec
  | .method name => { spec with method := some name }
  | .methods names => { spec with methods := some names }
  | .isPublic on => { spec with isPublic := on }

/-- **The route declared in steps**: of each field the last step counts. -/
def build (path : String) (settings : List Setting) : RouteSpec :=
  settings.foldl apply { path := path }

def defaultMethod : String := "GET"

/-- The methods as the author gave them: the `methods`, else the single `method`. -/
def rawMethods (spec : RouteSpec) : List String :=
  match spec.methods, spec.method with
  | some list, _ => list
  | none, some method => [method]
  | none, none => []

/-- A method in its normal spelling: trimmed and in upper case. -/
def normalMethod (method : String) : String := Text.upper (Text.trim method)

/-- Add a method in its normal spelling to those before it, unless it is blank or among them. -/
def addMethod (methods : List String) (method : String) : List String :=
  let method := normalMethod method
  if method ≠ "" ∧ method ∉ methods then methods ++ [method] else methods

/-- **The methods a route answers to**: in normal spelling, without blanks and repetitions, and
`GET` if none is left. -/
def resolvedMethods (spec : RouteSpec) : List String :=
  let methods := spec.rawMethods.foldl addMethod []
  if methods.isEmpty then [defaultMethod] else methods

end RouteSpec

/-! ## Routes as they are kept -/

/-- **A route record** — found by its handler alone; of several for one handler the first counts. -/
structure Route where
  path : String
  methods : List String
  isPublic : Bool
  handler : HandlerId
  handlerName : String
  auth : Option AuthDescriptor := none
deriving DecidableEq, Repr

/-- The names of the placeholders in a path, in order and with repetitions. -/
def pathParams (path : String) : List String :=
  (Placeholder.names path.toList).map String.ofList

namespace Route

def params (r : Route) : List String := pathParams r.path

/-- **The route answers to the method**: in any ASCII case, though its methods are in upper case by
the full mappings. -/
def allows (r : Route) (method : String) : Bool :=
  r.methods.any fun m => Text.equalsIgnoringAsciiCase m method

/-! ### Editing -/

/-- **An edit of a record** — what is given replaces what was there, the handler included. -/
structure Edit where
  path : Option String := none
  methods : Option (List String) := none
  isPublic : Option Bool := none
  handler : Option HandlerId := none
  handlerName : Option String := none
  auth : Option (Option AuthDescriptor) := none
deriving DecidableEq, Repr

def edit (r : Route) (e : Edit) : Route where
  path := e.path.getD r.path
  methods := e.methods.getD r.methods
  isPublic := e.isPublic.getD r.isPublic
  handler := e.handler.getD r.handler
  handlerName := e.handlerName.getD r.handlerName
  auth := e.auth.getD r.auth

/-! ### Lists of records -/

def findFirst? (id : HandlerId) (routes : List Route) : Option Route :=
  routes.find? fun r => r.handler == id

/-- **Change the first record of a handler**, if it has one — the others stay, also those of the
same handler. -/
def updateFirst (id : HandlerId) (f : Route → Route) : List Route → List Route
  | [] => []
  | r :: rs => if r.handler = id then f r :: rs else r :: updateFirst id f rs

@[simp] theorem length_updateFirst (id : HandlerId) (f : Route → Route) (rs : List Route) :
    (updateFirst id f rs).length = rs.length := by
  induction rs with
  | nil => rfl
  | cons r rs ih => by_cases h : r.handler = id <;> simp [updateFirst, h, ih]

theorem updateFirst_of_findFirst?_eq_none {id : HandlerId} {f : Route → Route} {rs : List Route}
    (h : findFirst? id rs = none) : updateFirst id f rs = rs := by
  induction rs with
  | nil => rfl
  | cons r rs ih =>
    simp only [findFirst?, List.find?_cons] at h
    split at h
    · simp at h
    · next hne =>
      have : r.handler ≠ id := by simpa using hne
      simp only [updateFirst, this, if_false]
      rw [ih h]

/-- **The record found after a change is the changed one** — if the change keeps its handler; else
it may be found for another. -/
theorem findFirst?_updateFirst {id : HandlerId} {f : Route → Route} {rs : List Route}
    (hf : ∀ r, (f r).handler = r.handler) :
    findFirst? id (updateFirst id f rs) = (findFirst? id rs).map f := by
  induction rs with
  | nil => rfl
  | cons r rs ih =>
    by_cases h : r.handler = id
    · simp [updateFirst, findFirst?, h, hf]
    · simpa [updateFirst, findFirst?, h, List.find?_cons] using ih

end Route

end BackendPlan
