import ClientMigration.CommandLine.Workspace
import ClientMigration.Migration
import ClientMigration.Supplied.File

/-! # The command that plans a migration

The plan rests on a source file, if one is given, and on what others supply in files. -/

namespace ClientMigration.CommandLine

structure MakePlan where
  path : Option String
  dialect : String
  dependencies : Option String
  optimizations : Option String
  scope : Scope
  includeOptimizations : Bool
  json : Bool
deriving DecidableEq, Repr

namespace MakePlan

def synopsis : Synopsis := ⟨some "plan", "[OPTIONS] [PATH]"⟩

def dependenciesOption : OptionSpec := ⟨["--dependencies"], true⟩

def optimizationsOption : OptionSpec := ⟨["--optimizations"], true⟩

def scopeOption : OptionSpec := ⟨["--scope"], true⟩

def plainOption : OptionSpec := .flag "--no-optimizations"

def options : List OptionSpec :=
  [dialectOption, dependenciesOption, optimizationsOption, scopeOption, plainOption, jsonOption, helpOption]

def scopeFault? (s : String) : Option ValueFault :=
  if (Scope.ofName? s).isNone then some (.notAChoice s (Scope.all.map (·.name))) else none

def ofWords (env : Environment) (folder : Folder) (w : Words) : Except UsageFault MakePlan := do
  Check.all w
    [⟨none, (w.rest.head?.bind (fileFault? folder)).map (.invalidValue "'[PATH]'")⟩, dialectCheck env w,
     valueCheck w dependenciesOption (fileFault? folder), valueCheck w optimizationsOption (fileFault? folder),
     valueCheck w scopeOption scopeFault?] (w.rest.drop 1)
  return { path := w.rest.head?.map Path.normal
           dialect := (dialectGiven? env w).getD ""
           dependencies := w.value? dependenciesOption
           optimizations := w.value? optimizationsOption
           scope := ((w.value? scopeOption).bind Scope.ofName?).getD .file
           includeOptimizations := !w.has plainOption
           json := w.has jsonOption }

/-- The text to plan for; empty without a file. -/
def source (q : MakePlan) (folder : Folder) : Except Fault String :=
  match q.path with
  | none => .ok ""
  | some path => readSource folder path

/-- The request and what is supplied for it. -/
def gather (q : MakePlan) (flaw : String → String) (folder : Folder) :
    Except Failure (MigrationRequest × Dependencies × Optimizations) := do
  let source ← (q.source folder).mapError .fault
  let d ← (readDialect q.dialect).mapError .fault
  let dependencies ← Supplied.readDependencies flaw folder q.dependencies
  let optimizations ← Supplied.readOptimizations flaw folder q.optimizations
  return ({ dialect := d, source := source, fileName := q.path.getD "input.ts", scope := q.scope
            options := { includeOptimizations := q.includeOptimizations } }, dependencies, optimizations)

/-- The lines that show a phase. -/
def phaseLines (p : Phase) : List String :=
  (s!"  {p.number}. " ++ Display.plain p.title ++ Display.plain (" (" ++ p.duration ++ ")")) ::
  p.tasks.map fun task => "       - " ++ Display.plain task

/-- The lines that show recommendations. -/
def recommendationLines (rs : List Recommendation) : List String :=
  if rs.isEmpty then []
  else ["", "Recommendations"] ++ rs.map fun r => "  [" ++ r.priority.name ++ "] " ++ Display.plain r.title

/-- The lines that show a migration. -/
def lines (m : Migration) : List String :=
  ["Migration Plan",
   "  Dialect: " ++ m.analysis.dialect.name ++ s!"  Patterns: {m.analysis.findings.length}  Complexity: " ++
     m.analysis.complexity.band.name,
   "  Estimated: " ++ Display.plain m.plan.duration, ""] ++
  m.plan.phases.flatMap phaseLines ++ recommendationLines m.recommendations ++
  ["", s!"Time estimate: {m.timeEstimate.totalHours}h (" ++ m.timeEstimate.confidence ++ " confidence)"] ++
  m.timeEstimate.factors.map ("  " ++ ·)

def run (q : MakePlan) (c : Context) : Step Ending := do
  match q.gather c.documentFlaw (← get).folder with
  | .error f => .ofFailure c.console f
  | .ok (request, dependencies, optimizations) =>
    let t ← Step.detector c
    match Migration.perform t request dependencies optimizations with
    | .error f => throw (.failure f)
    | .ok m =>
      if q.json then Step.print (Json.indented (m.toValue c.now)) else Step.printAll (lines m)
      return .success

end MakePlan

end ClientMigration.CommandLine
