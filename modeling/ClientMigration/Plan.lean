import ClientMigration.Analysis
import ClientMigration.Supplied.Dependencies
import ClientMigration.Supplied.Optimizations

/-! # Plans

A plan numbers the stages of the outline, the phases of the dependencies and the optimizations, in this
order, and gives a range of hours for the whole. -/

namespace ClientMigration

/-- A numbered phase of a plan or a guide. -/
structure Phase where
  number : Nat := 0
  title : String
  description : String
  tasks : List String := []
  dependencies : List String := []
  duration : String := ""
deriving DecidableEq, Repr

namespace Phase

def toValue (p : Phase) : Value :=
  .object [("phase", .ofNat p.number), ("title", .str p.title), ("description", .str p.description),
    ("tasks", .texts p.tasks), ("dependencies", .texts p.dependencies), ("estimated_time", .str p.duration)]

/-- The phases with their places, from one, as numbers. -/
def numbered (ps : List Phase) : List Phase := ps.zipIdx.map fun (p, i) => { p with number := i + 1 }

/-- The phase of a stage: its idioms are to be converted, or else its deliverables made. -/
def ofStage (s : Stage) : Phase where
  title := s.name
  description := s.description
  tasks := if s.idioms.isEmpty then s.deliverables else s.idioms.map fun name => "Convert " ++ name ++ " pattern"
  dependencies := s.dependencies
  duration := s.duration

def ofDependencyPhase (s : Settings.Plan) (p : DependencyPhase) : Phase where
  title := p.name
  description := "Dependency migration: " ++ p.name
  tasks := p.actions
  dependencies := p.dependencies
  duration := s.phaseEstimate

def ofOptimization (s : Settings.Plan) (o : Optimization) : Phase where
  title := "Apply " ++ o.title
  description := o.description
  tasks := o.actionItems
  duration := s.phaseEstimate

end Phase

/-- What the user wants of a migration. -/
structure Options where
  includeOptimizations : Bool := true
  generateTests : Bool := true
deriving DecidableEq, Repr

/-- The optimizations to plan for, by descending priority; equal priorities keep their order. -/
def Options.optimizations (o : Options) (r : Optimizations) : List Optimization :=
  if o.includeOptimizations then r.recommendations.mergeSort fun a b => b.priority.rank ≤ a.priority.rank else []

structure Plan where
  phases : List Phase
  totalSteps : Nat
  duration : String
  dependencies : List String
  checkpoints : List String
deriving DecidableEq, Repr

namespace Plan

/-- The hours of the whole: the effort, or a default in place of none, and more for each optimization,
    rounded up. -/
def lowerHours (s : Settings.Plan) (effort : Number) (optimizations : Nat) : Except Number.ConversionFailure Int :=
  let base := if effort.isZero then .int s.defaultHours else effort
  let more : Number := .int (s.optimizationHours * optimizations)
  if base.mixable more then (base + more).ceiling else .error .tooLarge

/-- Half as much again, rounded up. -/
def upperHours (hours : Int) : Except Number.ConversionFailure Int :=
  if (Number.int hours).beyondRange then .error .tooLarge else (Number.int hours * .decimal 15 1).ceiling

/-- The range of hours as text. -/
def durationOf (s : Settings.Plan) (effort : Number) (optimizations : Nat) : Except Number.ConversionFailure String := do
  let lower ← lowerHours s effort optimizations
  let upper ← upperHours lower
  return s!"{lower}-{upper} hours"

/-- The phases of a plan in order. -/
def phasesOf (s : Settings.Plan) (a : Analysis) (d : Dependencies) (optimizations : List Optimization) : List Phase :=
  Phase.numbered (a.outline.stages.map .ofStage ++ d.phases.map (.ofDependencyPhase s) ++
    optimizations.map (.ofOptimization s))

def make (s : Settings.Plan) (a : Analysis) (d : Dependencies) (r : Optimizations) (o : Options) :
    Except Number.ConversionFailure Plan := do
  let optimizations := o.optimizations r
  let phases := phasesOf s a d optimizations
  return { phases := phases
           totalSteps := phases.length
           duration := ← durationOf s a.effort.total optimizations.length
           dependencies := a.outline.dependencies.eraseDups
           checkpoints := phases.map fun p => "Validate " ++ p.title }

def toValue (p : Plan) : Value :=
  .object [("phases", .list (p.phases.map (·.toValue))), ("total_steps", .ofNat p.totalSteps),
    ("estimated_time", .str p.duration), ("dependencies", .texts p.dependencies),
    ("validation_checkpoints", .texts p.checkpoints)]

end Plan

end ClientMigration
