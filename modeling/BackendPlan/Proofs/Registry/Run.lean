import BackendPlan.Session
import Mathlib.Data.List.DropRight

/-!
# Proofs/Registry/Run — runs of operations on one registry

A run starts from a new registry and serves a list of operations.  Its **history** is what came
since the last reset: a reset drops every declaration, so nothing older can show.

* `sinceReset_concat` — the history grows by one operation at a time, and a reset empties it.
* `declareResource_cases`, `declareApplication_cases` — a declaration is refused without a trace, or
  served.
-/

namespace BackendPlan

/-- A handler that echoes its input, told from others by one digit. -/
def Handler.echo (digit : Fin 16) (name : String) : Handler where
  id := ⟨⟨List.replicate 32 digit, List.length_replicate⟩⟩
  name := name
  body := .answer

namespace Workbench

/-- A new registry beside a workspace. -/
def new (settings : Settings) (w : Workspace) : Workbench := ⟨.withSettings settings, w⟩

/-- **The workbench after operations on its registry**, their replies dropped — a fold of `run`. -/
def after (b : Workbench) (ops : List RegistryOp) : Workbench :=
  ops.foldl (fun b op => (op.run b).2) b

theorem after_concat (b : Workbench) (ops : List RegistryOp) (op : RegistryOp) :
    b.after (ops ++ [op]) = (op.run (b.after ops)).2 := by
  rw [after, List.foldl_append]
  rfl

end Workbench

namespace RegistryOp

/-- The operation drops every declaration. -/
def isReset : RegistryOp → Bool
  | reset => true
  | _ => false

/-- The operation is about routes: a decoration, an import, an edit or a `reset`. -/
def touchesRoutes : RegistryOp → Bool
  | route .. | auth .. | appendRoute _ | editRoute .. | reset => true
  | _ => false

/-- The operation edits a record in place. -/
def isEdit : RegistryOp → Bool
  | editRoute .. => true
  | _ => false

/-- **The history since the last `reset`**: the longest end of the run without one. -/
def sinceReset (ops : List RegistryOp) : List RegistryOp := ops.rtakeWhile fun op => !op.isReset

theorem sinceReset_concat (ops : List RegistryOp) (op : RegistryOp) :
    sinceReset (ops ++ [op]) = if op.isReset then [] else sinceReset ops ++ [op] := by
  rw [sinceReset, List.rtakeWhile_concat, sinceReset]
  cases op.isReset <;> rfl

end RegistryOp

/-! ## What a declaration does

A refused declaration leaves the workbench as it was.  One that is served registers, with an event,
and a resource makes its object; the three kinds of resource differ in the object they make and in
nothing else. -/

namespace Workbench

/-- `putResource` is refused, or it registers. -/
theorem putResource_cases (b : Workbench) (resource : Resource) :
    (∃ cause, b.putResource resource = (.error cause, b)) ∨
      ∃ event, b.putResource resource =
        (.ok (), (b.report event).modifyRegistry (·.putResource resource)) := by
  unfold putResource
  split
  · split
    · exact .inl ⟨_, rfl⟩
    · exact .inr ⟨_, rfl⟩
  · exact .inr ⟨_, rfl⟩

/-- `setApplication` is refused, or it sets it; only a replacement is an event. -/
theorem setApplication_cases (b : Workbench) (app : Application) :
    (∃ cause, b.setApplication app = (.error cause, b)) ∨
      ∃ reported, (reported = b ∨ ∃ event, reported = b.report event) ∧
        b.setApplication app =
          (.ok (), reported.modifyRegistry fun r => { r with application := some app }) := by
  unfold setApplication
  split
  · split
    · exact .inl ⟨_, rfl⟩
    · exact .inr ⟨_, .inr ⟨_, rfl⟩, rfl⟩
  · exact .inr ⟨b, .inl rfl, rfl⟩

/-- **`declareResource` is refused, or it registers the resource and makes its object** — the check
or the slot refuses, and then nothing is made. -/
theorem declareResource_cases {α : Type} (b : Workbench) (check : Except DeclareError Unit)
    (resource : Resource) (handle : α) (make : Contents → Contents) :
    (∃ cause, b.declareResource check resource handle make = (.error cause, b)) ∨
      ∃ event, b.declareResource check resource handle make =
        (.ok handle,
          ((b.report event).modifyRegistry (·.putResource resource)).modifyContents make) := by
  cases check with
  | error e => exact .inl ⟨e, rfl⟩
  | ok u =>
    rcases b.putResource_cases resource with ⟨cause, hput⟩ | ⟨event, hput⟩
    · exact .inl ⟨cause, by rw [declareResource, hput]⟩
    · exact .inr ⟨event, by rw [declareResource, hput]⟩

/-- **Declaring the application is refused, or it sets the application** — `applicationOf` the
settings and its configuration. -/
theorem declareApplication_cases (b : Workbench) (config : AppConfig) :
    let app := applicationOf b.registry.settings config
    (∃ cause, b.declareApplication config = (.error cause, b)) ∨
      ∃ reported, (reported = b ∨ ∃ event, reported = b.report event) ∧
        b.declareApplication config =
          (.ok app,
            (reported.modifyRegistry fun r => { r with application := some app }).report
              (.applicationDeclared app.name app.stage app.region)) := by
  unfold declareApplication
  dsimp only
  cases config.validate with
  | error e => exact .inl ⟨e, rfl⟩
  | ok u =>
    rcases b.setApplication_cases (applicationOf b.registry.settings config) with
      ⟨cause, hset⟩ | ⟨reported, hreported, hset⟩
    · exact .inl ⟨cause, by simp only [hset]⟩
    · exact .inr ⟨reported, hreported, by simp only [hset]⟩

end Workbench

end BackendPlan
