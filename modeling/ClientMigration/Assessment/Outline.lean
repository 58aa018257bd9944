import ClientMigration.Assessment.Complexity

/-! # Outlines

The approach to a migration, the stages of an incremental one, and its risks. -/

namespace ClientMigration

inductive Approach where
  | incremental
  | bigBang
  | parallel
deriving DecidableEq, Repr

namespace Approach

def name : Approach → String
  | .incremental => "incremental"
  | .bigBang => "big-bang"
  | .parallel => "parallel"

def ofBand : Band → Approach
  | .low => .bigBang
  | .medium => .incremental
  | .high | .veryHigh => .parallel

end Approach

/-- A stage of an incremental migration. -/
structure Stage where
  name : String
  description : String
  idioms : List String
  duration : String
  dependencies : List String
  deliverables : List String
deriving DecidableEq, Repr

def Stage.toValue (s : Stage) : Value :=
  .object [("name", .str s.name), ("description", .str s.description), ("patterns", .texts s.idioms),
    ("estimated_duration", .str s.duration), ("dependencies", .texts s.dependencies),
    ("deliverables", .texts s.deliverables)]

structure Risk where
  risk : String
  probability : Severity
  impact : Severity
  mitigation : String
deriving DecidableEq, Repr

def Risk.toValue (r : Risk) : Value :=
  .object [("risk", .str r.risk), ("probability", .str r.probability.name), ("impact", .str r.impact.name),
    ("mitigation", .str r.mitigation)]

structure Outline where
  approach : Approach
  stages : List Stage := []
  dependencies : List String := []
  risks : List Risk := []
deriving DecidableEq, Repr

namespace Outline

def toValue (o : Outline) : Value :=
  .object [("approach", .str o.approach.name), ("phases", .list (o.stages.map (·.toValue))),
    ("dependencies", .texts o.dependencies), ("risks", .list (o.risks.map (·.toValue)))]

/-- The names of the idioms with a rating, in the order of the findings. -/
def rated (fs : List Finding) (r : Rating) : List String :=
  (fs.filter fun f => f.rating = r).map (·.idiom.name)

/-- The stages of an incremental migration: the simple idioms first, each stage after the one before. -/
def stagesFor (fs : List Finding) : List Stage :=
  [⟨"Phase 1", "Simple patterns", rated fs .simple, "1-2 days", [], ["Updated connection code"]⟩,
   ⟨"Phase 2", "Moderate patterns", rated fs .moderate, "3-5 days", ["Phase 1"], ["Converted patterns"]⟩,
   ⟨"Phase 3", "Complex patterns", rated fs .complex, "1-2 weeks", ["Phase 2"], ["Full migration"]⟩]

/-- A confident finding is likely to cause what it requires. -/
def probabilityOf (f : Finding) : Severity :=
  if (Number.decimal 8 1).atMost f.confidence then .high else .medium

/-- The risks of a finding: its grave requirements. -/
def findingRisks (f : Finding) : List Risk :=
  (f.requirements.filter (·.severity.isGrave)).map fun q =>
    ⟨f.idiom.name ++ ": " ++ q.description, probabilityOf f, q.severity, q.solution⟩

/-- The risk of a large migration. -/
def surfaceRisk (fs : List Finding) (c : Complexity) : Risk :=
  ⟨s!"Large migration surface: {c.relevantLines} dialect-touching lines across {fs.length} pattern types",
    .medium, .high, "Run old and new clients side by side and compare results before cutover"⟩

/-- The risks of all findings, and of a large migration. -/
def risksOf (fs : List Finding) (c : Complexity) : List Risk :=
  fs.flatMap findingRisks ++ if c.band.isLarge then [surfaceRisk fs c] else []

/-- The outline of a migration with these findings. -/
def ofFindings (s : Settings.Plan) (fs : List Finding) (c : Complexity) : Outline where
  approach := .ofBand c.band
  stages := if Approach.ofBand c.band = .incremental then stagesFor fs else []
  dependencies := [s.targetPackage]
  risks := risksOf fs c

end Outline

end ClientMigration
