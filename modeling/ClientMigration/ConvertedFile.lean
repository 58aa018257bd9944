import ClientMigration.Analysis
import ClientMigration.Change

/-! # Converted files

A file is converted finding by finding, each conversion on the text that the one before it left, and last
the methods of the dialect are renamed. Every edit that was applied and every rename is logged. -/

namespace ClientMigration

namespace Conversion

/-- The conversions of a text for some findings, one upon the other. -/
def chain (d : Dialect) : List Finding → String → List Conversion
  | [], _ => []
  | f :: rest, text =>
    let c := ofFinding f text (some d)
    c :: chain d rest c.converted

/-- The text that some conversions of a text leave. -/
def finalText (text : String) (cs : List Conversion) : String := (cs.getLast?.map (·.converted)).getD text

/-- The change that an applied edit made, at the line where its target first occurs in the text before the
    conversion, or else at a given line. -/
def changeOf (c : Conversion) (otherwise : Int) (o : EditOutcome) : Change where
  kind := .conversion
  line := ((Text.firstLine? o.target.toList c.before.toList).map Int.ofNat).getD otherwise
  before := o.target
  converted := o.newCode
  reasoning := c.recipe.name ++ ": " ++ o.explanation ++ s!" ({o.replacements} occurrence(s))"

/-- The changes that a conversion made; a finding without a sighting has no place to log them at. -/
def changes (c : Conversion) : Except Failure (List Change) :=
  match c.finding.sightings with
  | [] => .error .noSighting
  | s :: _ => .ok ((c.outcomes.filter (·.applied)).map (c.changeOf s.lineNumber))

/-- A conversion in the report on its file. -/
def toSummary (c : Conversion) : Value :=
  .object [("pattern", .str c.finding.idiom.name), ("strategy", .str c.recipe.name),
    ("warnings", .list (c.cautions.map (·.toValue))), ("validation_tests", .texts c.validationTests),
    ("migration_notes", .texts c.notes), ("applied_steps", .ofNat c.appliedEdits),
    ("skipped_steps", .ofNat c.skippedEdits)]

end Conversion

structure ConvertedFile where
  name : String
  code : String
  changes : List Change
  confidence : Number
  warnings : List String
  skippedEdits : Nat
  conversions : List Conversion
deriving DecidableEq, Repr

namespace ConvertedFile

/-- The confidence in a converted file. It is full if nothing was changed or skipped. -/
def confidenceOf (s : Settings.Conversion) (changes : List Change) (findings : List Finding) (skipped : Nat) : Number :=
  if changes.isEmpty && skipped = 0 then .decimal 10 1
  else
    let complex : Number := .int (findings.countP (·.rating == .complex))
    let renames : Number := .int (changes.countP (·.kind == .rename))
    let score := s.base - s.complexPenalty * complex + s.renameBonus * renames - s.skippedPenalty * .int skipped
    s.least.greatest (s.most.least score) / 100

/-- The warnings of a converted file, each once. -/
def warningsOf (changes : List Change) (findings : List Finding) (conversions : List Conversion) : List String :=
  ((if findings.any (·.idiom == .pipeline) then ["Pipeline operations detected - requires manual review"] else []) ++
   (if findings.any (·.idiom == .streaming) then
      ["Stream operations detected - parameter format changes required"] else []) ++
   (if changes.any (·.kind == .conversion) then
      ["Complex pattern conversions applied - thorough testing recommended"] else []) ++
   conversions.flatMap (·.cautions.map (·.message))).eraseDups

/-- The conversion of a text by an analysis, which may be one of another text. -/
def convert (s : Settings.Conversion) (text : String) (a : Analysis) (name : String) : Except Failure ConvertedFile := do
  let conversions := Conversion.chain a.dialect a.findings text
  let edits ← conversions.mapM (·.changes)
  let (code, renames) := Rename.apply a.dialect (Conversion.finalText text conversions)
  let changes := edits.flatten ++ renames
  let skipped := conversions.foldl (fun n c => n + c.skippedEdits) 0
  return { name := name
           code := code
           changes := changes
           confidence := confidenceOf s changes a.findings skipped
           warnings := warningsOf changes a.findings conversions
           skippedEdits := skipped
           conversions := conversions }

def toValue (f : ConvertedFile) : Value :=
  .object [("original_file", .str f.name), ("converted_code", .str f.code),
    ("changes", .list (f.changes.map (·.toValue))), ("confidence", .num (f.confidence.roundTo 3)),
    ("warnings", .texts f.warnings), ("skipped_steps", .ofNat f.skippedEdits),
    ("conversions", .list (f.conversions.map (·.toSummary)))]

end ConvertedFile

end ClientMigration
