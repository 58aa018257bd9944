import ClientMigration.Assessment.Complexity

/-! # Effort

The hours of a migration: a base for the band, hours for each sighting, and fixed shares by activity. -/

namespace ClientMigration

/-- Hours by activity. -/
structure EffortShares where
  analysis : Number := .decimal 0 1
  conversion : Number := .decimal 0 1
  testing : Number := .decimal 0 1
  validation : Number := .decimal 0 1
  documentation : Number := .decimal 0 1
deriving DecidableEq, Repr

namespace EffortShares

def total (e : EffortShares) : Number := e.analysis + e.conversion + e.testing + e.validation + e.documentation

def toValue (e : EffortShares) : Value :=
  .object [("analysis", .num (e.analysis.roundTo 2)), ("conversion", .num (e.conversion.roundTo 2)),
    ("testing", .num (e.testing.roundTo 2)), ("validation", .num (e.validation.roundTo 2)),
    ("documentation", .num (e.documentation.roundTo 2))]

end EffortShares

structure Effort where
  total : Number
  shares : EffortShares := {}
  confidence : Number := .decimal 0 1
  assumptions : List String := []
deriving DecidableEq, Repr

namespace Effort

def toValue (e : Effort) : Value :=
  .object [("total_hours", .num (e.total.roundTo 2)), ("breakdown", e.shares.toValue),
    ("confidence", .num (e.confidence.roundTo 3)), ("assumptions", .texts e.assumptions)]

def base (s : Settings.Effort) : Band → Number
  | .low => s.lowBase
  | .medium => s.mediumBase
  | .high => s.highBase
  | .veryHigh => s.veryHighBase

def perSighting (s : Settings.Effort) : Rating → Number
  | .simple => s.simple
  | .moderate => s.moderate
  | .complex => s.complex

def assumed : List String :=
  ["Existing test coverage", "Development team familiarity", "No major architectural changes"]

/-- The hours of a migration with these findings in a band. -/
def hours (s : Settings.Effort) (fs : List Finding) (band : Band) : Number :=
  fs.foldl (fun total f => total + perSighting s f.rating * .int f.sightings.length) (base s band)

/-- The effort of a migration with these findings in a band. -/
def ofFindings (s : Settings.Effort) (fs : List Finding) (band : Band) : Effort :=
  let total := hours s fs band
  { total := total
    shares :=
      { analysis := total * s.analysisShare, conversion := total * s.conversionShare
        testing := total * s.testingShare, validation := total * s.validationShare
        documentation := total * s.documentationShare }
    confidence := s.confidence
    assumptions := assumed }

end Effort

end ClientMigration
