import ClientMigration.Text.Blank
import ClientMigration.Text.Lowercase

/-! # Idioms

The ways of using a client library that the tool recognizes, and how hard each is to migrate. -/

namespace ClientMigration

inductive Idiom where
  | pipeline
  | transaction
  | clustering
  | pubsub
  | streaming
  | connection
deriving DecidableEq, Repr, Inhabited

namespace Idiom

def name : Idiom → String
  | .pipeline => "pipeline"
  | .transaction => "transaction"
  | .clustering => "clustering"
  | .pubsub => "pubsub"
  | .streaming => "streaming"
  | .connection => "connection"

def all : List Idiom := [.pipeline, .transaction, .clustering, .pubsub, .streaming, .connection]

/-- The idiom of exactly this name. -/
def ofName? (s : String) : Option Idiom := all.find? (·.name == s)

/-- The idiom of a name in any letter case, with surrounding blanks. -/
def parse? (s : String) : Option Idiom := ofName? (Text.lower (Text.strip s))

end Idiom

/-- How hard an idiom is to migrate. -/
inductive Rating where
  | simple
  | moderate
  | complex
deriving DecidableEq, Repr, Inhabited

namespace Rating

def name : Rating → String
  | .simple => "simple"
  | .moderate => "moderate"
  | .complex => "complex"

def all : List Rating := [.simple, .moderate, .complex]

def ofName? (s : String) : Option Rating := all.find? (·.name == s)

end Rating

end ClientMigration
