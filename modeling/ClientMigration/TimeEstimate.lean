import ClientMigration.Analysis
import ClientMigration.Supplied.Dependencies

/-! # Time estimates

The hours of a migration by its scope: the analysis grows with the scope, the changes of code with the
findings, twice as fast for a text of high complexity. Testing takes half as long as the changes, and
validation half as long as the analysis. -/

namespace ClientMigration

inductive Scope where
  | file
  | component
  | project
deriving DecidableEq, Repr

namespace Scope

def name : Scope → String
  | .file => "file"
  | .component => "module"
  | .project => "project"

def all : List Scope := [.file, .component, .project]

def ofName? (s : String) : Option Scope := all.find? (·.name == s)

def multiplier : Scope → Nat
  | .file => 1
  | .component => 3
  | .project => 10

end Scope

/-- Hours of a migration, held as quarters of an hour; those of the analysis are whole. -/
structure TimeEstimate where
  analysisHours : Nat
  codeQuarters : Nat
  testingQuarters : Nat
  validationQuarters : Nat
  factors : List String
deriving DecidableEq, Repr

namespace TimeEstimate

/-- The hours in all, rounded up. -/
def totalHours (t : TimeEstimate) : Nat :=
  (4 * t.analysisHours + t.codeQuarters + t.testingQuarters + t.validationQuarters + 3) / 4

/-- The more hours, the less the estimate can be relied on. -/
def confidence (t : TimeEstimate) : String :=
  if t.totalHours < 8 then "high" else if t.totalHours < 20 then "medium" else "low"

def make (a : Analysis) (d : Dependencies) (s : Scope) : TimeEstimate :=
  let weight := if a.complexity.band.isLarge then 2 else 1
  { analysisHours := 2 * s.multiplier
    codeQuarters := 2 * a.findings.length * weight
    testingQuarters := a.findings.length * weight
    validationQuarters := 4 * s.multiplier
    factors := [s!"{a.findings.length} patterns detected", a.complexity.band.name ++ " complexity", s.name ++ " scope",
      s!"{d.phases.length} dependency phases"] }

/-- Quarters of an hour as hours. -/
def hours (quarters : Nat) : Value := .num ((Number.int quarters / 4).roundTo 2)

def toValue (t : TimeEstimate) : Value :=
  .object [("total_hours", .ofNat t.totalHours),
    ("breakdown", .object [("analysis", .ofNat t.analysisHours), ("code_changes", hours t.codeQuarters),
      ("testing", hours t.testingQuarters), ("validation", hours t.validationQuarters)]),
    ("confidence", .str t.confidence), ("factors", .texts t.factors)]

end TimeEstimate

end ClientMigration
