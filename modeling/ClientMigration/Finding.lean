import ClientMigration.Sighting
import ClientMigration.Text.Literal
import ClientMigration.Text.Lowercase

/-! # Findings

An idiom found in a text, with its sightings and a confidence between zero and one. Repeated sightings
raise the confidence up to a cap, corroborating words in a window once. Findings come by falling
confidence; equal ones keep the order of the catalog. -/

namespace ClientMigration

structure Finding where
  idiom : Idiom
  confidence : Number
  sightings : List Sighting
  rating : Rating
  requirements : List Requirement
  recipes : List Recipe
deriving DecidableEq, Repr

namespace Finding

/-- Whether one of the words occurs in one of the snippets, in any letter case. -/
def corroborated (keywords snippets : List String) : Bool :=
  let lowered := snippets.map fun s => (Text.lower s).toList
  keywords.any fun k =>
    let word := (Text.lower k).toList
    lowered.any (Text.occursIn word)

/-- The confidence of so many sightings before it is cut to its bounds. -/
def rawConfidence (s : Settings.Scoring) (count : Nat) (supported : Bool) : Number :=
  let seen := s.base + Number.least (.int count * s.perSighting) s.sightingCap
  if supported then seen + s.contextBonus else seen

/-- The confidence of an idiom with these snippets around its sightings. -/
def confidenceOf (s : Settings.Scoring) (keywords snippets : List String) : Number :=
  Number.greatest (.decimal 0 1)
    (Number.least (rawConfidence s snippets.length (corroborated keywords snippets)) (.decimal 10 1))

/-- The finding of a signature with its sightings. -/
def ofSightings (s : Settings.Scoring) (e : Signature) (sightings : List Sighting) : Finding where
  idiom := e.idiom
  confidence := confidenceOf s e.keywords (sightings.map (·.code))
  sightings := sightings
  rating := e.rating
  requirements := e.requirements
  recipes := e.recipes

/-- The finding of a signature in some lines; none without a sighting or below the threshold. -/
def ofSignature? (s : Settings) (lines : List String) (around : List Enclosing) (d : Dialect) (e : Signature) :
    Option Finding :=
  let sightings := Sighting.ofPatterns s.scanner lines around (e.patternsFor d)
  if sightings.isEmpty then none
  else
    let found := ofSightings s.scoring e sightings
    if found.confidence.less s.scoring.threshold then none else some found

/-- The findings of a catalog in a text. -/
def detect (s : Settings) (c : Catalog) (source : String) (d : Dialect) : List Finding :=
  if source.isEmpty then []
  else
    let lines := Text.lines source
    let around := Enclosing.ofLines lines
    (c.entries.filterMap (ofSignature? s lines around d)).mergeSort fun a b => !a.confidence.less b.confidence

def toValue (f : Finding) : Value :=
  .object [("type", .str f.idiom.name), ("confidence", .num (f.confidence.roundTo 3)),
    ("occurrences", .list (f.sightings.map (·.toValue))), ("complexity", .str f.rating.name),
    ("migration_requirements", .list (f.requirements.map (·.toValue))),
    ("conversion_strategies", .list (f.recipes.map (·.toValue)))]

/-- The recipe for a finding: the first that applies to the dialect, else the first of all, else one that
    edits nothing. -/
def recipeFor (f : Finding) (d : Option Dialect) : Recipe :=
  match d.bind fun d => f.recipes.find? (·.appliesTo d) with
  | some r => r
  | none => f.recipes.head?.getD Recipe.fallback

end Finding

end ClientMigration
