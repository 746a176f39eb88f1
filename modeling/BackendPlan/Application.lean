import BackendPlan.Config
import BackendPlan.Text.Basic
import BackendPlan.Text.Case

/-!
# Application — the application of a registry, and the settings behind it

A declared application always has a stage and a region: its own, or those of the registry's
settings.  Settings are given outright or read from named variables of the environment.  A variable
counts only if something is left of it after trimming; strictness is switched on by one of four
words, in any case.
-/

namespace BackendPlan

/-! ## Settings -/

/-- **The settings of a registry**: a `strict` one refuses a second application and a second
resource of one name; stage and region are those of applications that name none. -/
structure Settings where
  strict : Bool := false
  defaultStage : String := "dev"
  defaultRegion : String := "us-east-1"
deriving DecidableEq, Repr

namespace Settings

/-- The variable that switches strictness on; `stageVariable` and `regionVariable` have the
defaults. -/
def strictVariable : String := "CSC_STRICT"

def stageVariable : String := "CSC_DEFAULT_STAGE"

def regionVariable : String := "CSC_DEFAULT_REGION"

/-- **The word says yes**: in `Text.lower` it is one of the four; which form a final sigma gets
there makes no difference to them. -/
def isTruthy (word : String) : Bool := ["1", "true", "yes", "on"].contains (Text.lower word)

/-- The trimmed value of a variable, if `lookup` has one that is not blank. -/
def value? (lookup : String → Option String) (name : String) : Option String :=
  ((lookup name).map Text.trim).filter (· ≠ "")

/-- **The settings in an environment**: a variable that is not set or blank leaves the default, as
`value?` has it. -/
def ofLookup (lookup : String → Option String) : Settings :=
  let defaults : Settings := {}
  { strict := ((value? lookup strictVariable).map isTruthy).getD defaults.strict
    defaultStage := (value? lookup stageVariable).getD defaults.defaultStage
    defaultRegion := (value? lookup regionVariable).getD defaults.defaultRegion }

end Settings

/-! ## The application -/

/-- **A declared application** — with a stage and a region, whoever named them. -/
structure Application where
  name : String
  stage : String
  region : String
  config : Members Json := []
deriving DecidableEq, Repr

namespace Application

/-- An application on its way: all fields but the configuration are required. -/
structure Draft where
  name : Option String := none
  stage : Option String := none
  region : Option String := none
  config : Members Json := []

def layout : Record.Layout Draft Application where
  name := "Application"
  fields := ["name", "stage", "region", "config"]
  start := {}
  set draft key value :=
    match key with
    | "name" => return { draft with name := some (← Record.text value) }
    | "stage" => return { draft with stage := some (← Record.text value) }
    | "region" => return { draft with region := some (← Record.text value) }
    | "config" => return { draft with config := ← Record.map value }
    | _ => return draft
  finish draft := do
    let name ← Record.required "name" draft.name
    let stage ← Record.required "stage" draft.stage
    let region ← Record.required "region" draft.region
    return ⟨name, stage, region, draft.config⟩

def ofJson (v : Json) : Except Record.Error Application := layout.read v

/-- The members as written; an empty `config` is left out. -/
def members (a : Application) : Members Json :=
  [("name", .str a.name), ("stage", .str a.stage), ("region", .str a.region)] ++
    if a.config.isEmpty then [] else [("config", .obj a.config)]

def written (a : Application) : Json := .obj a.members

end Application

end BackendPlan
