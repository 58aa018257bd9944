import ClientMigration.Finding

/-! # Complexity

The size and difficulty of a text: a score from its findings, its length and the share of its lines that
touch the client library, and the band in which the score lies. -/

namespace ClientMigration

/-- The band of a complexity score. -/
inductive Band where
  | low
  | medium
  | high
  | veryHigh
deriving DecidableEq, Repr, Inhabited

namespace Band

def name : Band → String
  | .low => "low"
  | .medium => "medium"
  | .high => "high"
  | .veryHigh => "very-high"

def all : List Band := [.low, .medium, .high, .veryHigh]

/-- High or very high. -/
def isLarge : Band → Bool
  | .high | .veryHigh => true
  | .low | .medium => false

/-- The band of a score; each cut point belongs to the band above it. -/
def ofScore (s : Settings.Complexity) (score : Number) : Band :=
  if score.less s.mediumAt then .low
  else if score.less s.highAt then .medium
  else if score.less s.veryHighAt then .high
  else .veryHigh

end Band

/-- A part of a complexity score. -/
structure Factor where
  name : String
  impact : Number
  description : String
deriving DecidableEq, Repr

def Factor.toValue (f : Factor) : Value :=
  .object [("factor", .str f.name), ("impact", .num (f.impact.roundTo 2)), ("description", .str f.description)]

structure Complexity where
  totalLines : Int
  relevantLines : Int
  band : Band
  score : Number := .decimal 0 1
  factors : List Factor := []
deriving DecidableEq, Repr

namespace Complexity

def toValue (c : Complexity) : Value :=
  .object [("total_lines", .ofInt c.totalLines), ("relevant_lines", .ofInt c.relevantLines),
    ("complexity", .str c.band.name), ("score", .num (c.score.roundTo 2)),
    ("factors", .list (c.factors.map (·.toValue)))]

/-- Whether a line lies in the window of a sighting. -/
def covered (fs : List Finding) (index : Nat) : Bool :=
  fs.any fun f => f.sightings.any fun s => s.first ≤ index && index ≤ s.last

/-- How many lines match the relevance pattern or lie in the window of a sighting. -/
def countRelevant (relevance : Regex) (lines : List String) (fs : List Finding) : Nat :=
  lines.zipIdx.countP fun (line, index) => covered fs index || relevance.matches? line.toList

def weight (s : Settings.Complexity) : Rating → Number
  | .simple => s.simple
  | .moderate => s.moderate
  | .complex => s.complex

/-- The parts of a score, for so many lines and so many relevant ones. -/
def factorsOf (s : Settings.Complexity) (fs : List Finding) (total relevant : Int) : List Factor :=
  let patterns := Number.sum (fs.map fun f => weight s f.rating + s.perSighting * .int f.sightings.length)
  let size := Number.least (.int total / s.sizeDivisor) s.sizeCap
  let density := if total = 0 then .decimal 0 1 else Number.int relevant / .int total
  [⟨"Pattern Complexity", patterns, "Complexity and repetition of detected patterns"⟩,
   ⟨"Code Size", size, "Total lines of code"⟩,
   ⟨"Dialect Usage", density * s.density, "Share of lines touching the source client library"⟩]

/-- The sum of the parts, cut to its bounds. -/
def scoreOf (s : Settings.Complexity) (factors : List Factor) : Number :=
  Number.greatest (.decimal 0 1) (Number.least (Number.sum (factors.map (·.impact))) s.maxScore)

/-- The complexity of findings in so many lines and so many relevant ones. -/
def ofCounts (s : Settings.Complexity) (fs : List Finding) (total relevant : Int) : Complexity :=
  let factors := factorsOf s fs total relevant
  let score := scoreOf s factors
  ⟨total, relevant, .ofScore s score, score, factors⟩

/-- Why so many lines have no complexity: their shares lie beyond the range of floating-point numbers. No
    text has so many. -/
def countFailure? (s : Settings.Complexity) (total relevant : Int) : Option Number.ConversionFailure :=
  match Number.divisionFailure? (.int total) s.sizeDivisor with
  | some f => some f
  | none => if total = 0 then none else Number.divisionFailure? (.int relevant) (.int total)

/-- The complexity of findings in counts of lines that come from elsewhere. -/
def ofGivenCounts (s : Settings.Complexity) (fs : List Finding) (total relevant : Int) :
    Except Number.ConversionFailure Complexity :=
  match countFailure? s total relevant with
  | some f => .error f
  | none => .ok (ofCounts s fs total relevant)

/-- The complexity of a text with its findings; the empty text has no lines here. -/
def ofSource (s : Settings.Complexity) (relevance : Regex) (source : String) (fs : List Finding) : Complexity :=
  let lines := if source.isEmpty then [] else Text.lines source
  ofCounts s fs lines.length (countRelevant relevance lines fs)

end Complexity

end ClientMigration
