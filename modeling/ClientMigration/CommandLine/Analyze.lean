import ClientMigration.Batch
import ClientMigration.CommandLine.Workspace
import ClientMigration.Number.Numeral
import ClientMigration.Tally

/-! # The command that analyses files

Every path is accounted for: a file that can be read is analysed, any other is skipped and reported. -/

namespace ClientMigration.CommandLine

structure Analyze where
  paths : List String
  dialect : String
  concurrency : Int
  json : Bool
deriving DecidableEq, Repr

namespace Analyze

def synopsis : Synopsis := ⟨some "analyze", "[OPTIONS] PATHS..."⟩

def concurrencyOption : OptionSpec := ⟨["--concurrency"], true⟩

def options : List OptionSpec := [dialectOption, concurrencyOption, jsonOption, helpOption]

/-- A number of files at once is a positive integer. -/
def concurrencyFault? (s : String) : Option ValueFault :=
  match looseInt? s with
  | none => some (.notAnInteger s)
  | some i => if i < 1 then some (.belowOne i) else none

def ofWords (env : Environment) (w : Words) : Except UsageFault Analyze := do
  Check.all w
    [⟨none, if w.rest.isEmpty then some (.missingArgument "'PATHS...'") else none⟩, dialectCheck env w,
     valueCheck w concurrencyOption concurrencyFault?] []
  return { paths := w.rest.map Path.normal
           dialect := (dialectGiven? env w).getD ""
           concurrency := ((w.value? concurrencyOption).bind looseInt?).getD 4
           json := w.has jsonOption }

/-- The unit of a path, or why the path is skipped. -/
def unitOf (folder : Folder) (d : Dialect) (path : String) : Except SkippedFile SourceUnit :=
  match readSource folder path with
  | .ok source => .ok ⟨path, source, d⟩
  | .error f => .error ⟨path, f.message⟩

/-- The units of the paths that can be read, in order. -/
def units (folder : Folder) (d : Dialect) (paths : List String) : List SourceUnit :=
  paths.filterMap fun p => (unitOf folder d p).toOption

/-- The paths that cannot be read, in order. -/
def skipped (folder : Folder) (d : Dialect) (paths : List String) : List SkippedFile :=
  paths.filterMap fun p =>
    match unitOf folder d p with
    | .ok _ => none
    | .error s => some s

/-- What became of the paths. -/
def tally (folder : Folder) (d : Dialect) (paths : List String) : Tally where
  processed := (units folder d paths).map (·.name)
  skipped := skipped folder d paths

/-- The lines that show a finding. -/
def findingLines (f : Finding) : List String :=
  ("    [" ++ f.idiom.name ++ s!"] {f.sightings.length} occurrence(s)  Confidence: " ++ f.confidence.percent ++
    "  Complexity: " ++ f.rating.name) ::
  (f.sightings.take 3).map fun s => s!"      line {s.lineNumber}"

/-- The line that counts findings. -/
def countLine (a : Analysis) : String :=
  if a.findings.isEmpty then "  No migration patterns detected" else s!"  Found {a.findings.length} pattern(s)"

/-- The lines that show an analysis behind its findings. -/
def closingLines (a : Analysis) : List String :=
  ["  Complexity: " ++ a.complexity.band.name ++ " (" ++ a.complexity.score.fixed 1 ++
     s!")  Relevant lines: {a.complexity.relevantLines}/{a.complexity.totalLines}",
   "  Approach: " ++ a.outline.approach.name ++ "  Effort: " ++ a.effort.total.fixed 1 ++ "h"] ++
  a.outline.risks.map (fun r => "    ! " ++ r.risk) ++ [""]

/-- Print how many findings there are. -/
def showCount (k : Console) (a : Analysis) : Step Unit :=
  if a.findings.isEmpty then .say k (countLine a) else .succeed k (countLine a)

/-- Print an analysis. -/
def showAnalysis (k : Console) (name : String) (a : Analysis) : Step Unit := do
  Step.print (Display.plain name)
  showCount k a
  Step.printAll (a.findings.flatMap findingLines ++ closingLines a)

def toValue (results : List (SourceUnit × Analysis)) (t : Tally) : Value :=
  .object [("results", .list (results.map fun (u, a) => .object [("path", .str u.name), ("analysis", a.toValue)])),
    ("summary", t.toValue)]

/-- What is said of a file that is skipped. -/
def skipMessage (s : SkippedFile) : String := "Skipping " ++ s.path ++ ": " ++ s.reason

/-- Warn of the files that are skipped. -/
def reportSkipped (q : Analyze) (k : Console) (t : Tally) : Step Unit :=
  if q.json then pure () else .warnAll k (t.skipped.map skipMessage)

/-- Print the results, and how many files were skipped. -/
def showResults (k : Console) (results : List (SourceUnit × Analysis)) (t : Tally) : Step Unit := do
  results.forM fun (u, a) => showAnalysis k u.name a
  unless t.skipped.isEmpty do Step.warn k s!"{t.skipped.length} file(s) skipped"

/-- Print the results and the tally. -/
def reportResults (q : Analyze) (k : Console) (results : List (SourceUnit × Analysis)) (t : Tally) : Step Unit :=
  if q.json then .print (Json.indented (toValue results t)) else showResults k results t

def run (q : Analyze) (c : Context) : Step Ending :=
  match readDialect q.dialect with
  | .error f => .ofFailure c.console (.fault f)
  | .ok d => do
    let folder := (← get).folder
    let units := units folder d q.paths
    let tally := tally folder d q.paths
    q.reportSkipped c.console tally
    let t ← Step.detector c
    q.reportResults c.console (units.zip (t.analyzeUnits units q.concurrency)) tally
    return tally.ending

end Analyze

end ClientMigration.CommandLine
