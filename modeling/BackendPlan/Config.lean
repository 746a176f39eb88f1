import BackendPlan.Record
import BackendPlan.Text.Basic

/-!
# Config — the configurations of the application and of the resources

A configuration is an **open record**: it has a few typed fields, each with a default, and keeps
every other key as it is.  It is read from objects only, in the order of the keys, and the first
typed field of a wrong type decides the error.  It is written as its typed fields followed by the
other keys.

    AppConfig            a name; stage and region may be left to the settings
    TableConfig          a name and a partition key; the rest concerns the backend alone
    LogStreamConfig      a name and a retention label such as `7d`, which is passed on uninterpreted
    IdentityPoolConfig   a name and configuration only: a pool keeps no local content

A name given in code may be blank; `Config.requireText` is the check that a declaration makes, and a
`DeclareError` says why a declaration is refused.
-/

namespace BackendPlan

/-! ## Why a declaration is refused -/

/-- **Why a declaration is refused** — a required field is blank, a strict registry has the name
already, or the configuration could not be read. -/
inductive DeclareError where
  | missingField (kind field : String)
  | collision (kind name : String)
  | config (cause : Record.Error)
deriving DecidableEq, Repr

namespace DeclareError

def message : DeclareError → String
  | missingField kind field => "missing required field: " ++ kind ++ " '" ++ field ++ "'"
  | collision kind name =>
    "duplicate declaration: " ++ kind ++ " '" ++ name ++ "' is already registered"
  | config cause => "config parse: " ++ cause.message

end DeclareError

/-! ## Open records -/

namespace Config

/-- **Read an open record**: `set` takes in one member after another, from the defaults on, and the
first that it refuses decides the error. -/
def read {α : Type} (record : String) (set : α → String → Json → Except Record.Error α)
    (defaults : α) : Json → Except DeclareError α
  | .obj members =>
    (members.foldlM (fun config (key, value) => set config key value) defaults).mapError
      DeclareError.config
  | v => .error (.config (.wrongType v (.record record)))

/-- Refuse a required text that is blank — `kind` and `field` go into the error. -/
def requireText (kind field value : String) : Except DeclareError Unit :=
  if Text.isBlankText value then .error (.missingField kind field) else .ok ()

theorem requireText_eq_ok_iff {kind field value : String} :
    requireText kind field value = .ok () ↔ Text.isBlankText value = false := by
  by_cases h : Text.isBlankText value = true <;> simp [requireText, h]

/-- A text that may be missing, as JSON: `null` when it is. -/
def optionalText (s : Option String) : Json := (s.map Json.str).getD .null

end Config

/-! ## Applications -/

/-- **The configuration of an application**: `stage` and `region` may be left to the settings. -/
structure AppConfig where
  name : String := ""
  stage : Option String := none
  region : Option String := none
  options : Members Json := []
deriving DecidableEq, Repr

namespace AppConfig

/-! ### Building -/

/-- One step of building a configuration. -/
inductive Setting where
  | stage (value : String)
  | region (value : String)
  | option (key : String) (value : Json)
deriving DecidableEq, Repr

def apply (config : AppConfig) : Setting → AppConfig
  | .stage value => { config with stage := some value }
  | .region value => { config with region := some value }
  | .option key value => { config with options := Members.insert key value config.options }

/-- **The configuration built in steps**, from `name` and the defaults on — a later step wins over
an earlier one. -/
def build (name : String) (settings : List Setting) : AppConfig :=
  settings.foldl apply { name := name }

/-! ### Reading and writing -/

/-- **Take in a member of an object**: under its typed field, or among the `options`. -/
def set (config : AppConfig) (key : String) (value : Json) : Except Record.Error AppConfig :=
  match key with
  | "name" => return { config with name := ← Record.text value }
  | "stage" => return { config with stage := ← Record.optional Record.text value }
  | "region" => return { config with region := ← Record.optional Record.text value }
  | key => return { config with options := Members.insert key value config.options }

/-- **Read a configuration** — from an object only, unlike a record. -/
def ofJson (v : Json) : Except DeclareError AppConfig := Config.read "AppConfig" set {} v

/-- The typed fields as they are written, in declared order. -/
def typed (config : AppConfig) : Members Json :=
  [("name", .str config.name), ("stage", Config.optionalText config.stage),
    ("region", Config.optionalText config.region)]

/-- The members as written: the `typed` fields, then the options — a key may stand in both. -/
def written (config : AppConfig) : Members Json := config.typed ++ config.options

/-- **The value of the written form**: an option named like a typed field stands in its stead, as
`canonical` keeps the later of two. -/
def toJson (config : AppConfig) : Json := (Json.obj config.written).canonical

/-- The text of the written form; no key is left out of it. -/
def text (config : AppConfig) : String := (Json.obj config.written).text

/-- **An application needs a name.** -/
def validate (config : AppConfig) : Except DeclareError Unit :=
  Config.requireText "application" "name" config.name

end AppConfig

/-! ## Tables -/

/-- **The configuration of a table** — items are stored under the value of `partitionKey`; the rest
concerns the backend alone. -/
structure TableConfig where
  name : String := ""
  partitionKey : String := "id"
  sortKey : Option String := none
  encryption : Bool := true
  backups : Bool := true
  /-- The attribute that holds the expiry of an item. -/
  ttl : Option String := none
  extra : Members Json := []
deriving DecidableEq, Repr

namespace TableConfig

/-! ### Building -/

inductive Setting where
  | partitionKey (value : String)
  | sortKey (value : String)
  | encryption (value : Bool)
  | backups (value : Bool)
  | ttl (value : String)
  | extra (key : String) (value : Json)
deriving DecidableEq, Repr

def apply (config : TableConfig) : Setting → TableConfig
  | .partitionKey value => { config with partitionKey := value }
  | .sortKey value => { config with sortKey := some value }
  | .encryption value => { config with encryption := value }
  | .backups value => { config with backups := value }
  | .ttl value => { config with ttl := some value }
  | .extra key value => { config with extra := Members.insert key value config.extra }

/-- **The configuration built in steps**, from `name` and the defaults on. -/
def build (name : String) (settings : List Setting) : TableConfig :=
  settings.foldl apply { name := name }

/-! ### Reading and writing -/

/-- **Take in a member of an object**: under its typed field, or among the `extra` keys. -/
def set (config : TableConfig) (key : String) (value : Json) : Except Record.Error TableConfig :=
  match key with
  | "name" => return { config with name := ← Record.text value }
  | "partition_key" => return { config with partitionKey := ← Record.text value }
  | "sort_key" => return { config with sortKey := ← Record.optional Record.text value }
  | "encryption" => return { config with encryption := ← Record.flag value }
  | "backups" => return { config with backups := ← Record.flag value }
  | "ttl" => return { config with ttl := ← Record.optional Record.text value }
  | key => return { config with extra := Members.insert key value config.extra }

def ofJson (v : Json) : Except DeclareError TableConfig := Config.read "TableConfig" set {} v

def typed (config : TableConfig) : Members Json :=
  [("name", .str config.name), ("partition_key", .str config.partitionKey),
    ("sort_key", Config.optionalText config.sortKey), ("encryption", .bool config.encryption),
    ("backups", .bool config.backups), ("ttl", Config.optionalText config.ttl)]

/-- The members as written: the `typed` fields, then the extra keys — a key may stand in both. -/
def written (config : TableConfig) : Members Json := config.typed ++ config.extra

/-- **The value of the written form**: an `extra` key named like a typed field stands in its
stead. -/
def toJson (config : TableConfig) : Json := (Json.obj config.written).canonical

def text (config : TableConfig) : String := (Json.obj config.written).text

/-- **A table needs a name and a partition key**, and is asked for them in this order. -/
def validate (config : TableConfig) : Except DeclareError Unit := do
  Config.requireText "table" "name" config.name
  Config.requireText "table" "partition_key" config.partitionKey

end TableConfig

/-! ## Log streams -/

/-- **The configuration of a log stream**: `retention` is a label that nothing here interprets. -/
structure LogStreamConfig where
  name : String := ""
  retention : String := "7d"
  encryption : Bool := true
  extra : Members Json := []
deriving DecidableEq, Repr

namespace LogStreamConfig

/-! ### Building -/

inductive Setting where
  | retention (value : String)
  | encryption (value : Bool)
  | extra (key : String) (value : Json)
deriving DecidableEq, Repr

def apply (config : LogStreamConfig) : Setting → LogStreamConfig
  | .retention value => { config with retention := value }
  | .encryption value => { config with encryption := value }
  | .extra key value => { config with extra := Members.insert key value config.extra }

def build (name : String) (settings : List Setting) : LogStreamConfig :=
  settings.foldl apply { name := name }

/-! ### Reading and writing -/

def set (config : LogStreamConfig) (key : String) (value : Json) :
    Except Record.Error LogStreamConfig :=
  match key with
  | "name" => return { config with name := ← Record.text value }
  | "retention" => return { config with retention := ← Record.text value }
  | "encryption" => return { config with encryption := ← Record.flag value }
  | key => return { config with extra := Members.insert key value config.extra }

def ofJson (v : Json) : Except DeclareError LogStreamConfig :=
  Config.read "LogStreamConfig" set {} v

def typed (config : LogStreamConfig) : Members Json :=
  [("name", .str config.name), ("retention", .str config.retention),
    ("encryption", .bool config.encryption)]

def written (config : LogStreamConfig) : Members Json := config.typed ++ config.extra

def toJson (config : LogStreamConfig) : Json := (Json.obj config.written).canonical

def text (config : LogStreamConfig) : String := (Json.obj config.written).text

def validate (config : LogStreamConfig) : Except DeclareError Unit :=
  Config.requireText "log stream" "name" config.name

end LogStreamConfig

/-! ## Identity pools -/

/-- **The configuration of an identity pool** — which is all there is to a pool. -/
structure IdentityPoolConfig where
  name : String := ""
  mfa : Bool := false
  /-- A label of strength. -/
  passwordPolicy : String := "strong"
  tokenTtl : String := "1h"
  extra : Members Json := []
deriving DecidableEq, Repr

namespace IdentityPoolConfig

/-! ### Building -/

inductive Setting where
  | mfa (value : Bool)
  | passwordPolicy (value : String)
  | tokenTtl (value : String)
  | extra (key : String) (value : Json)
deriving DecidableEq, Repr

def apply (config : IdentityPoolConfig) : Setting → IdentityPoolConfig
  | .mfa value => { config with mfa := value }
  | .passwordPolicy value => { config with passwordPolicy := value }
  | .tokenTtl value => { config with tokenTtl := value }
  | .extra key value => { config with extra := Members.insert key value config.extra }

def build (name : String) (settings : List Setting) : IdentityPoolConfig :=
  settings.foldl apply { name := name }

/-! ### Reading and writing -/

def set (config : IdentityPoolConfig) (key : String) (value : Json) :
    Except Record.Error IdentityPoolConfig :=
  match key with
  | "name" => return { config with name := ← Record.text value }
  | "mfa" => return { config with mfa := ← Record.flag value }
  | "password_policy" => return { config with passwordPolicy := ← Record.text value }
  | "token_ttl" => return { config with tokenTtl := ← Record.text value }
  | key => return { config with extra := Members.insert key value config.extra }

def ofJson (v : Json) : Except DeclareError IdentityPoolConfig :=
  Config.read "IdentityPoolConfig" set {} v

def typed (config : IdentityPoolConfig) : Members Json :=
  [("name", .str config.name), ("mfa", .bool config.mfa),
    ("password_policy", .str config.passwordPolicy), ("token_ttl", .str config.tokenTtl)]

def written (config : IdentityPoolConfig) : Members Json := config.typed ++ config.extra

def toJson (config : IdentityPoolConfig) : Json := (Json.obj config.written).canonical

def text (config : IdentityPoolConfig) : String := (Json.obj config.written).text

def validate (config : IdentityPoolConfig) : Except DeclareError Unit :=
  Config.requireText "identity pool" "name" config.name

end IdentityPoolConfig

end BackendPlan
