import ClientMigration.Idiom
import ClientMigration.Recipe
import ClientMigration.Regex.Reader
import ClientMigration.Severity

/-! # Signatures

A signature says how an idiom is recognized in each dialect, which words around it corroborate a find,
what its migration requires and which recipes convert it. -/

namespace ClientMigration

/-- The kind of change that a migration requires. -/
inductive RequirementKind where
  | api
  | syntactic
  | behavioral
  | dependency
deriving DecidableEq, Repr, Inhabited

namespace RequirementKind

def name : RequirementKind → String
  | .api => "api-change"
  | .syntactic => "syntax-change"
  | .behavioral => "behavioral-change"
  | .dependency => "dependency-change"

def all : List RequirementKind := [.api, .syntactic, .behavioral, .dependency]

def ofName? (s : String) : Option RequirementKind := all.find? (·.name == s)

end RequirementKind

structure Requirement where
  kind : RequirementKind
  severity : Severity
  description : String
  impact : String
  solution : String
  codeExample : Option String := none
deriving DecidableEq, Repr

def Requirement.toValue (r : Requirement) : Value :=
  .object [("type", .str r.kind.name), ("severity", .str r.severity.name), ("description", .str r.description),
    ("impact", .str r.impact), ("solution", .str r.solution), ("code_example", .ofText? r.codeExample)]

structure Signature where
  idiom : Idiom
  patterns : List (Dialect × List Pattern)
  keywords : List String
  rating : Rating
  requirements : List Requirement
  recipes : List Recipe
deriving DecidableEq, Repr

namespace Signature

/-- The patterns of a dialect; a dialect without an entry has none. -/
def patternsFor (s : Signature) (d : Dialect) : List Pattern := (s.patterns.lookup d).getD []

def patternTexts (ps : List Pattern) : Value := .texts (ps.map (·.text))

/-- The signature as data, with the patterns of some dialects. -/
def toValueWith (s : Signature) (patterns : List (Dialect × List Pattern)) : Value :=
  .object [("type", .str s.idiom.name),
    ("signatures", .object (patterns.map fun (d, ps) => (d.name, patternTexts ps))),
    ("context_requirements", .texts s.keywords), ("complexity", .str s.rating.name),
    ("migration_requirements", .list (s.requirements.map (·.toValue))),
    ("conversion_strategies", .list (s.recipes.map (·.toValue)))]

def toValue (s : Signature) : Value := s.toValueWith s.patterns

end Signature

end ClientMigration
