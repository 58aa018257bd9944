import ClientMigration.Number.Numeral
import ClientMigration.Supplied.Field

/-! # Dependency analyses

An analysis of a project's packages, made elsewhere: the phases of their migration and its risks. -/

namespace ClientMigration

structure DependencyPhase where
  name : String
  order : Int := 0
  actions : List String := []
  dependencies : List String := []
deriving DecidableEq, Repr

structure DependencyRisk where
  dependency : String
  risk : String
  probability : Severity := .medium
  impact : Severity := .medium
  mitigation : String := ""
deriving DecidableEq, Repr

structure Dependencies where
  phases : List DependencyPhase := []
  risks : List DependencyRisk := []
deriving DecidableEq, Repr

open Supplied

namespace DependencyPhase

/-- The integer that a value stands for: a number is cut to its integer part, and a text must write one.
    Infinity has none, which is a failure of the number and no fault of the data's form. -/
def orderOf (given : Value) : Except Failure Int :=
  match given with
  | .num (.int i) => .ok i
  | .num (.float .nan) => .error (.reporting given (.phaseOrder given))
  | .num (.float (.infinite _)) => .error (.number .infinite)
  | .num (.float x) => .ok (x.truncate?.getD 0)
  | .bool b => .ok (if b then 1 else 0)
  | .str s =>
    match looseInt? s with
    | some i => .ok i
    | none => .error (.reporting given (.phaseOrder given))
  | _ => .error (.reporting given (.phaseOrder given))

/-- An action as text; of an object, the first of the fields that tell what to do. -/
def actionText (v : Value) : Except Failure String :=
  match v.fields? with
  | some fields => firstText fields ["description", "command", "target"]
  | none => textOf v

def ofValue (v : Value) : Except Failure DependencyPhase := do
  let fields ← object "Dependency phase" v
  let name ← required "Dependency phase" "name" fields
  let order ← orderOf ((first? fields ["order"]).getD (.ofNat 0))
  let name ← textOf name
  let actions ← items "Phase actions" (first? fields ["actions"])
  let actions ← actions.mapM actionText
  let dependencies ← itemTexts "Phase dependencies" (first? fields ["dependencies"])
  return ⟨name, order, actions, dependencies⟩

def toValue (p : DependencyPhase) : Value :=
  .object [("name", .str p.name), ("order", .ofInt p.order), ("actions", .texts p.actions),
    ("dependencies", .texts p.dependencies)]

end DependencyPhase

namespace DependencyRisk

def ofValue (v : Value) : Except Failure DependencyRisk := do
  let fields ← object "Dependency risk" v
  let dependency ← text fields "dependency"
  let risk ← text fields "risk"
  let mitigation ← text fields "mitigation"
  return ⟨dependency, risk, severity fields "probability", severity fields "impact", mitigation⟩

def toValue (r : DependencyRisk) : Value :=
  .object [("dependency", .str r.dependency), ("risk", .str r.risk), ("probability", .str r.probability.name),
    ("impact", .str r.impact.name), ("mitigation", .str r.mitigation)]

end DependencyRisk

namespace Dependencies

/-- The analysis that an object holds under its migration plan; null holds none. -/
def ofValue (v : Value) : Except Failure Dependencies := do
  if v.isNull then return {}
  let fields ← object "Dependency analysis" v
  let plan := (first? fields ["migration_plan", "migrationPlan"]).getD (.object [])
  let plan ← object "migration_plan" plan
  let phases ← items "phases" (first? plan ["phases"])
  let phases ← phases.mapM DependencyPhase.ofValue
  let risks ← items "risks" (first? plan ["risks"])
  let risks ← risks.mapM DependencyRisk.ofValue
  return ⟨phases, risks⟩

def toValue (d : Dependencies) : Value :=
  .object [("migration_plan", .object [("phases", .list (d.phases.map (·.toValue))),
    ("risks", .list (d.risks.map (·.toValue)))])]

end Dependencies

end ClientMigration
