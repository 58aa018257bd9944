import ClientMigration.Plan
import ClientMigration.Text.Literal

/-! # Guides

The guide for the people who migrate: four phases that every migration goes through, one for optimizations
if they are wanted, and what to look out for. -/

namespace ClientMigration

structure Guide where
  overview : String
  phases : List Phase
  criticalSteps : List String
  rollbackPlan : List String
  validationSteps : List String
deriving DecidableEq, Repr

namespace Guide

def preparation : Phase where
  title := "Preparation and Analysis"
  description := "Analyze current codebase and prepare for migration"
  tasks := ["Backup current codebase", "Document current Redis usage patterns", "Set up development environment",
    "Create migration branch"]
  duration := "2-4 hours"

/-- The phases of the dependencies that speak of dependencies, or else the exchange of the package. -/
def dependencyTasks (s : Settings.Plan) (d : Dialect) (deps : Dependencies) : List String :=
  let tasks := (deps.phases.map (·.name)).filter fun name => Text.contains (Text.lower name) "dependency"
  if tasks.isEmpty then ["Replace " ++ d.name ++ " with " ++ s.targetPackage] else tasks

def dependencyMigration (tasks : List String) : Phase where
  title := "Dependency Migration"
  description := "Update package dependencies and configuration"
  tasks := tasks
  dependencies := ["Phase 1"]
  duration := "1-2 hours"

def codeConversion : Phase where
  title := "Code Conversion"
  description := "Convert Redis operations to GLIDE API"
  tasks := ["Update import statements", "Convert method calls", "Update parameter formats", "Handle breaking changes"]
  dependencies := ["Phase 2"]
  duration := "4-8 hours"

def testing : Phase where
  title := "Testing and Validation"
  description := "Ensure converted code works correctly"
  tasks := ["Run existing tests", "Add migration-specific tests", "Validate Redis operations", "Performance testing"]
  dependencies := ["Phase 3"]
  duration := "2-6 hours"

def optimization (r : Optimizations) : Phase where
  title := "Performance Optimization"
  description := "Apply performance improvements"
  tasks := r.recommendations.map (·.title)
  dependencies := ["Phase 4"]
  duration := "2-4 hours"

def make (s : Settings.Plan) (a : Analysis) (d : Dependencies) (r : Optimizations) (o : Options) : Guide where
  overview := "Migration from " ++ a.dialect.name ++ s!" to GLIDE with {a.findings.length} patterns detected"
  phases := Phase.numbered ([preparation, dependencyMigration (dependencyTasks s a.dialect d), codeConversion, testing] ++
    if o.includeOptimizations then [optimization r] else [])
  criticalSteps := ["Backup codebase before starting", "Test each converted component individually",
    "Validate Redis connections and operations", "Monitor performance after migration"]
  rollbackPlan := ["Restore from backup", "Revert dependency changes", "Switch back to previous Redis client",
    "Validate system functionality"]
  validationSteps := ["All tests pass", "Redis operations work correctly", "Performance meets requirements",
    "No critical warnings or errors"]

def toValue (g : Guide) : Value :=
  .object [("overview", .str g.overview), ("phases", .list (g.phases.map (·.toValue))),
    ("critical_steps", .texts g.criticalSteps), ("rollback_plan", .texts g.rollbackPlan),
    ("validation_steps", .texts g.validationSteps)]

end Guide

end ClientMigration
