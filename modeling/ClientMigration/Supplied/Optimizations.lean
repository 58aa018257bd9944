import ClientMigration.Supplied.Field

/-! # Optimization reports

Recommendations for the migrated program, made elsewhere. -/

namespace ClientMigration

structure Optimization where
  title : String
  description : String := ""
  priority : Severity := .medium
  actionItems : List String := []
deriving DecidableEq, Repr

structure Optimizations where
  recommendations : List Optimization := []
deriving DecidableEq, Repr

open Supplied

namespace Optimization

def ofValue (v : Value) : Except Failure Optimization := do
  let fields ← object "Recommendation" v
  let title ← required "Recommendation" "title" fields
  let title ← textOf title
  let description ← text fields "description"
  let listed := first? fields ["action_items", "actionItems", "implementation_steps", "implementationSteps"]
  let actions ← itemTexts "action_items" listed
  return ⟨title, description, severity fields "priority", actions⟩

def toValue (o : Optimization) : Value :=
  .object [("title", .str o.title), ("description", .str o.description), ("priority", .str o.priority.name),
    ("action_items", .texts o.actionItems)]

end Optimization

namespace Optimizations

/-- The report that an object holds; null holds none. -/
def ofValue (v : Value) : Except Failure Optimizations := do
  if v.isNull then return {}
  let fields ← object "Optimization report" v
  let listed := first? fields ["recommendations", "performance_optimizations", "performanceOptimizations"]
  let recommendations ← items "recommendations" listed
  return ⟨← recommendations.mapM Optimization.ofValue⟩

def toValue (r : Optimizations) : Value := .object [("recommendations", .list (r.recommendations.map (·.toValue)))]

end Optimizations

end ClientMigration
