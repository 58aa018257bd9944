import ClientMigration.Text.Blank
import ClientMigration.Text.Lowercase
import ClientMigration.Value.Basic

/-! # Severity

One scale for the severity of requirements, the priority of recommendations and the likelihood and impact
of risks. -/

namespace ClientMigration

inductive Severity where
  | low
  | medium
  | high
  | critical
deriving DecidableEq, Repr, Inhabited

namespace Severity

def name : Severity → String
  | .low => "low"
  | .medium => "medium"
  | .high => "high"
  | .critical => "critical"

def all : List Severity := [.low, .medium, .high, .critical]

/-- The place on the scale; higher is more severe. -/
def rank : Severity → Nat
  | .low => 1
  | .medium => 2
  | .high => 3
  | .critical => 4

/-- The severity of a name in any letter case, with surrounding blanks. -/
def parse? (s : String) : Option Severity := all.find? (·.name == Text.lower (Text.strip s))

/-- The severity that a value names by its text. -/
def ofValue? (v : Value) : Option Severity := parse? v.text

/-- The severity that a value names, or a default for a value that names none. -/
def ofValueD (default : Severity) (v : Option Value) : Severity := (v.bind ofValue?).getD default

/-- High or critical. -/
def isGrave (s : Severity) : Bool := high.rank ≤ s.rank

end Severity

end ClientMigration
