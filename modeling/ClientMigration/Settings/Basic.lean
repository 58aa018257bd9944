import ClientMigration.Number.Basic
import ClientMigration.Value.Basic

/-! # Settings

Every constant of the heuristics. A setting keeps the kind of its number: the defaults are integers where
they are written without a fraction, while a supplied number is always floating point unless the setting
is an integer. -/

namespace ClientMigration.Settings

/-- How much code around a sighting is kept, and which lines count as touching the client library. -/
structure Scanner where
  contextBefore : Nat := 2
  contextAfter : Nat := 5
  relevance : String := "redis|Redis|REDIS"
deriving DecidableEq, Repr

/-- The weights of a finding's confidence. -/
structure Scoring where
  base : Number := .decimal 5 1
  perSighting : Number := .decimal 1 1
  sightingCap : Number := .decimal 3 1
  contextBonus : Number := .decimal 2 1
  threshold : Number := .decimal 0 1
deriving DecidableEq, Repr

/-- The weights of a complexity score and the cut points of its bands. -/
structure Complexity where
  simple : Number := 5
  moderate : Number := 10
  complex : Number := 20
  perSighting : Number := 2
  sizeDivisor : Number := 50
  sizeCap : Number := 20
  density : Number := 30
  maxScore : Number := 100
  mediumAt : Number := 20
  highAt : Number := 50
  veryHighAt : Number := 80
deriving DecidableEq, Repr

/-- The hours of an effort estimate and their shares by activity. -/
structure Effort where
  lowBase : Number := 8
  mediumBase : Number := 24
  highBase : Number := 60
  veryHighBase : Number := 120
  simple : Number := 2
  moderate : Number := 8
  complex : Number := 16
  analysisShare : Number := .decimal 2 1
  conversionShare : Number := .decimal 4 1
  testingShare : Number := .decimal 3 1
  validationShare : Number := .decimal 5 2
  documentationShare : Number := .decimal 5 2
  confidence : Number := .decimal 7 1
deriving DecidableEq, Repr

/-- The weights of a converted file's confidence, in percent. -/
structure Conversion where
  base : Number := 90
  complexPenalty : Number := 15
  renameBonus : Number := 2
  skippedPenalty : Number := 5
  least : Number := 50
  most : Number := 100
deriving DecidableEq, Repr

/-- The constants of a migration plan. -/
structure Plan where
  defaultHours : Int := 8
  optimizationHours : Int := 2
  phaseEstimate : String := "2-4 hours"
  targetPackage : String := "@valkey/valkey-glide"
deriving DecidableEq, Repr

/-- The total of the shares of an effort estimate. -/
def Effort.shareTotal (e : Effort) : Number :=
  e.analysisShare + e.conversionShare + e.testingShare + e.validationShare + e.documentationShare

end ClientMigration.Settings

namespace ClientMigration

structure Settings where
  version : String := "1.0"
  scanner : Settings.Scanner := {}
  scoring : Settings.Scoring := {}
  complexity : Settings.Complexity := {}
  effort : Settings.Effort := {}
  conversion : Settings.Conversion := {}
  plan : Settings.Plan := {}
deriving DecidableEq, Repr

end ClientMigration
