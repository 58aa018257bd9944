import ClientMigration.Assessment.Effort
import ClientMigration.Assessment.Outline
import ClientMigration.Catalog.Builtin
import ClientMigration.Conversion

/-! # Analyses

A detector holds a catalog, the settings and the relevance pattern. It analyses a text: what is found in
it, how complex it is, how to migrate it and with what effort. -/

namespace ClientMigration

structure Analysis where
  dialect : Dialect
  findings : List Finding
  complexity : Complexity
  outline : Outline
  effort : Effort
deriving DecidableEq, Repr

namespace Analysis

/-- The analysis of no text. -/
def empty (d : Dialect) : Analysis where
  dialect := d
  findings := []
  complexity := { totalLines := 0, relevantLines := 0, band := .low }
  outline := { approach := .bigBang }
  effort := { total := .decimal 0 1 }

/-- The finding of an idiom. -/
def finding? (a : Analysis) (i : Idiom) : Option Finding := a.findings.find? (·.idiom == i)

def toValue (a : Analysis) : Value :=
  .object [("source_dialect", .str a.dialect.name), ("detected_patterns", .list (a.findings.map (·.toValue))),
    ("code_complexity", a.complexity.toValue), ("migration_strategy", a.outline.toValue),
    ("estimated_effort", a.effort.toValue)]

end Analysis

structure Detector where
  catalog : Catalog
  settings : Settings
  relevance : Regex
deriving DecidableEq, Repr

namespace Detector

/-- The detector of a catalog, or of the built-in one in place of an empty one. It is refused if the
    relevance pattern cannot be read. -/
def make (c : Catalog) (s : Settings) : Except RegexError Detector := do
  return ⟨c.orBuiltin, s, ← Regex.read s.scanner.relevance⟩

/-- What the catalog finds in a text. -/
def detect (t : Detector) (source : String) (d : Dialect) : List Finding := Finding.detect t.settings t.catalog source d

/-- The analysis of a text. -/
def analyze (t : Detector) (source : String) (d : Dialect) : Analysis :=
  if source.isEmpty then .empty d
  else
    let findings := t.detect source d
    let complexity := Complexity.ofSource t.settings.complexity t.relevance source findings
    { dialect := d
      findings := findings
      complexity := complexity
      outline := .ofFindings t.settings.plan findings complexity
      effort := .ofFindings t.settings.effort findings complexity.band }

/-- The conversion of every finding, each of the text itself. -/
def convertAll (t : Detector) (source : String) (d : Dialect) : List Conversion :=
  (t.detect source d).map fun f => .ofFinding f source (some d)

end Detector

end ClientMigration
