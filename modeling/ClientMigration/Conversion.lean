import ClientMigration.Finding

/-! # Conversions

A recipe is carried out edit by edit, each on the text that the one before it left. An edit replaces every
literal occurrence of its target in the whole text, also outside the window where the idiom was sighted.
Each edit leaves an outcome: applied if it changed the text, skipped if its target does not occur, and
neither if its target stands for itself. -/

namespace ClientMigration

/-- The text after an edit, and how often its target occurred. -/
def Edit.apply (e : Edit) (text : String) : String × Nat :=
  if e.target.isEmpty then (text, 0)
  else
    let count := Text.countOf e.target.toList text.toList
    if count = 0 then (text, 0) else (Text.replace text e.target e.replacement, count)

structure EditOutcome where
  order : Int
  action : EditAction
  target : String
  newCode : String
  explanation : String
  replacements : Nat
  occurrences : Option Nat := none
deriving DecidableEq, Repr

namespace EditOutcome

/-- The target occurs; unless known otherwise, as often as it was replaced. -/
def found (o : EditOutcome) : Bool := 0 < o.occurrences.getD o.replacements

def applied (o : EditOutcome) : Bool := 0 < o.replacements

def skipped (o : EditOutcome) : Bool := !o.found

def toValue (o : EditOutcome) : Value :=
  .object [("order", .ofInt o.order), ("action", .str o.action.name), ("target", .str o.target),
    ("new_code", .str o.newCode), ("explanation", .str o.explanation), ("replacements", .ofNat o.replacements),
    ("applied", .bool o.applied), ("skipped", .bool o.skipped)]

end EditOutcome

/-- The text after an edit, and the outcome. An edit that leaves the text as it was replaced nothing. -/
def Edit.carryOut (e : Edit) (text : String) : String × EditOutcome :=
  let (after, count) := e.apply text
  (after,
    { order := e.order, action := e.action, target := e.target, newCode := e.newCode, explanation := e.explanation
      replacements := if after = text then 0 else count
      occurrences := some count })

/-- The text after some edits, one upon the other, and their outcomes. -/
def Edit.carryOutAll : List Edit → String → String × List EditOutcome
  | [], text => (text, [])
  | e :: rest, text =>
    let (after, outcome) := e.carryOut text
    let (final, outcomes) := carryOutAll rest after
    (final, outcome :: outcomes)

/-- The text after a recipe, and the outcomes of its edits. -/
def Recipe.apply (r : Recipe) (text : String) : String × List EditOutcome := Edit.carryOutAll r.ordered text

def countApplied (os : List EditOutcome) : Nat := os.countP (·.applied)

def countSkipped (os : List EditOutcome) : Nat := os.countP (·.skipped)

/-! ### Cautions, tests and notes -/

inductive CautionKind where
  | behaviorChange
  | manualReview
deriving DecidableEq, Repr

def CautionKind.name : CautionKind → String
  | .behaviorChange => "behavior-change"
  | .manualReview => "manual-review"

/-- A caution that goes with a conversion, at a line counted from one. -/
structure Caution where
  kind : CautionKind
  message : String
  line : Int
  suggestion : Option String := none
deriving DecidableEq, Repr

def Caution.toValue (c : Caution) : Value :=
  .object [("type", .str c.kind.name), ("severity", .str "warning"), ("message", .str c.message),
    ("location", .object [("line", .ofInt c.line), ("column", .ofNat 1)]), ("suggestion", .ofText? c.suggestion)]

def reviewMessage : String :=
  "Complex pattern detected - manual review recommended. " ++
  "Replacements were applied to every literal match in the file, " ++
  "not only inside the detected occurrences."

namespace Finding

/-- The line of the first sighting, counted from one; the first line without one. -/
def firstLine (f : Finding) : Int := (f.sightings.head?.map (·.lineNumber)).getD 1

/-- A review for an idiom rated complex, and each risk of the recipe. -/
def cautions (f : Finding) (r : Recipe) : List Caution :=
  (if f.rating = .complex then
    [{ kind := .manualReview, message := reviewMessage, line := f.firstLine,
       suggestion := some "Review converted code carefully and test thoroughly" }]
   else []) ++
  r.risks.map fun risk => { kind := .behaviorChange, message := risk, line := f.firstLine }

/-- The tests suggested after converting an idiom. -/
def validationTests (f : Finding) : List String :=
  match f.idiom with
  | .pipeline =>
    ["Test pipeline execution order", "Verify error handling in pipeline", "Check result array structure"]
  | .transaction => ["Test transaction atomicity", "Verify rollback behavior", "Check error handling"]
  | .clustering => ["Test cluster connectivity", "Verify failover behavior", "Check slot distribution"]
  | .pubsub | .streaming | .connection => []

/-- What a conversion did, for people to read. -/
def notes (f : Finding) (r : Recipe) (outcomes : List EditOutcome) : List String :=
  ["Pattern: " ++ f.idiom.name ++ " (" ++ f.rating.name ++ " complexity)",
   "Strategy: " ++ r.name,
   "Confidence: " ++ (f.confidence * 100).fixed 1 ++ "%"] ++
  f.requirements.map (fun q => q.kind.name ++ ": " ++ q.description) ++
  (if outcomes.isEmpty then []
   else [s!"Steps applied: {countApplied outcomes}/{outcomes.length}"])

end Finding

/-! ### The conversion of one finding -/

structure Conversion where
  before : String
  converted : String
  finding : Finding
  recipe : Recipe
  cautions : List Caution
  validationTests : List String
  notes : List String
  outcomes : List EditOutcome
deriving DecidableEq, Repr

namespace Conversion

def changed (c : Conversion) : Bool := c.converted != c.before

def appliedEdits (c : Conversion) : Nat := countApplied c.outcomes

def skippedEdits (c : Conversion) : Nat := countSkipped c.outcomes

/-- The conversion of a text for a finding, with the recipe for the dialect. -/
def ofFinding (f : Finding) (text : String) (d : Option Dialect) : Conversion :=
  let recipe := f.recipeFor d
  let (converted, outcomes) := recipe.apply text
  { before := text
    converted := converted
    finding := f
    recipe := recipe
    cautions := f.cautions recipe
    validationTests := f.validationTests
    notes := f.notes recipe outcomes
    outcomes := outcomes }

def toValue (c : Conversion) : Value :=
  .object [("original_code", .str c.before), ("converted_code", .str c.converted),
    ("pattern", c.finding.toValue), ("strategy", c.recipe.toValue),
    ("warnings", .list (c.cautions.map (·.toValue))), ("validation_tests", .texts c.validationTests),
    ("migration_notes", .texts c.notes), ("step_outcomes", .list (c.outcomes.map (·.toValue))),
    ("applied_steps", .ofNat c.appliedEdits), ("skipped_steps", .ofNat c.skippedEdits)]

end Conversion

end ClientMigration
