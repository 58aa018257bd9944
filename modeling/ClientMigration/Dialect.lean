import ClientMigration.Text.Blank
import ClientMigration.Text.Literal
import ClientMigration.Text.Lowercase

/-! # Source dialects

The client libraries that code can be migrated from. A dialect is named in any letter case, with
surrounding blanks, and with an underscore in place of the hyphen. -/

namespace ClientMigration

inductive Dialect where
  | ioredis
  | nodeRedis
deriving DecidableEq, Repr, Inhabited

namespace Dialect

def name : Dialect → String
  | .ioredis => "ioredis"
  | .nodeRedis => "node-redis"

def all : List Dialect := [.ioredis, .nodeRedis]

/-- Why a name is no dialect: there is none, or it is an unknown one. -/
inductive NameFault where
  | missing
  | unknown (given : String)
deriving DecidableEq, Repr

/-- The form of a name in which dialects are compared. -/
def normalize (s : String) : String := Text.replace (Text.lower (Text.strip s)) "_" "-"

/-- The dialect of a name. -/
def parse (s : String) : Except NameFault Dialect :=
  if (Text.strip s).isEmpty then .error .missing
  else
    match all.find? (·.name == normalize s) with
    | some d => .ok d
    | none => .error (.unknown s)

end Dialect

end ClientMigration
