import ClientMigration.Number.Numeral
import ClientMigration.Value.Moment

/-! # Trouble with YAML

Why a YAML document has no value: it is not well formed, or a scalar in it has the form of a day, a number
or a character that does not exist. -/

namespace ClientMigration.Yaml

inductive Trouble where
  | malformed
  | noCharacter (code : Nat)
  | noMoment (f : MomentFault)
  | noInteger (base : Nat) (digits : String)
  | longInteger (digits : Nat)
  | noFloat (text : String)
  | emptyNumber
  | noTruthValue (text : String)
deriving DecidableEq, Repr

def Trouble.message : Trouble → String
  | .malformed => "malformed document"
  | .noCharacter _ => "chr() arg not in range(0x110000)"
  | .noMoment f => f.message
  | .noInteger base digits => s!"invalid literal for int() with base {base}: " ++ Text.quoted digits
  | .longInteger digits => longIntegerMessage digits
  | .noFloat text => "could not convert string to float: " ++ Text.quoted text
  | .emptyNumber => "string index out of range"
  | .noTruthValue text => Text.quoted text

end ClientMigration.Yaml
