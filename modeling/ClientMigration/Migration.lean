import ClientMigration.ConvertedFile
import ClientMigration.Guide
import ClientMigration.Recommendation
import ClientMigration.TimeEstimate

/-! # Migrations

The answer to a request: the analysis of the text, what others supplied about its dependencies and
optimizations, and all that follows from them. -/

namespace ClientMigration

structure MigrationRequest where
  dialect : Dialect
  source : String := ""
  fileName : String := "input.ts"
  scope : Scope := .file
  options : Options := {}
deriving DecidableEq, Repr

structure Migration where
  analysis : Analysis
  dependencies : Dependencies
  optimizations : Optimizations
  recommendations : List Recommendation
  plan : Plan
  convertedFiles : List ConvertedFile
  guide : Guide
  timeEstimate : TimeEstimate
deriving DecidableEq, Repr

namespace Migration

/-- The migration that follows from finished analyses. -/
def assemble (s : Settings) (q : MigrationRequest) (a : Analysis) (d : Dependencies) (o : Optimizations) :
    Except Failure Migration := do
  let convertedFiles ←
    if q.source.isEmpty then .ok [] else (ConvertedFile.convert s.conversion q.source a q.fileName).map ([·])
  let plan ← (Plan.make s.plan a d o q.options).mapError .number
  return { analysis := a
           dependencies := d
           optimizations := o
           recommendations := Recommendation.rank a.findings d o
           plan := plan
           convertedFiles := convertedFiles
           guide := .make s.plan a d o q.options
           timeEstimate := .make a d q.scope }

/-- The migration that a request asks for. -/
def perform (t : Detector) (q : MigrationRequest) (d : Dependencies) (o : Optimizations) : Except Failure Migration :=
  assemble t.settings q (t.analyze q.source q.dialect) d o

/-- The migration as data, with the time at which it was made. -/
def toValue (m : Migration) (generatedAt : String) : Value :=
  .object [("source_analysis", m.analysis.toValue), ("dependency_analysis", m.dependencies.toValue),
    ("optimization_report", m.optimizations.toValue),
    ("recommendations", .list (m.recommendations.map (·.toValue))), ("migration_plan", m.plan.toValue),
    ("converted_files", .list (m.convertedFiles.map (·.toValue))), ("migration_guide", m.guide.toValue),
    ("time_estimate", m.timeEstimate.toValue), ("generated_at", .str generatedAt)]

end Migration

end ClientMigration
