import ClientMigration.Text.Quoted

/-! # Faults of patterns

Why a pattern cannot be read, and where in it. -/

namespace ClientMigration

inductive RegexFault where
  | openGroup
  | strayClose
  | nothingToRepeat
  | repeatedRepeat
  | crossedBounds
  | tooManyTimes
  | openSet
  | badRange (first last : String)
  | lastBackslash
  | badEscape (text : String)
  | incompleteEscape (text : String)
  | octalTooLarge (text : String)
  | missingBrace
  | missingWord (what : String)
  | openWord (closing : Char)
  | noSuchCharacter (name : String)
  | noSuchGroup (index : Nat)
  | groupStillOpen
  | groupOfSameLook
  | unexpectedEnd
  | unknownExtension (text : String)
  | openComment
  | badName (name : String)
  | noSuchName (name : String)
  | nameTaken (name : String) (now before : Nat)
  | badGroupNumber
  | thirdBranch
  | lateFlags
  | flags (text : String)
  | mixedFlags
  | barredRepetition
  | looseLook
deriving DecidableEq, Repr

namespace RegexFault

def text : RegexFault → String
  | .openGroup => "missing ), unterminated subpattern"
  | .strayClose => "unbalanced parenthesis"
  | .nothingToRepeat => "nothing to repeat"
  | .repeatedRepeat => "multiple repeat"
  | .crossedBounds => "min repeat greater than max repeat"
  | .tooManyTimes => "the repetition number is too large"
  | .openSet => "unterminated character set"
  | .badRange a b => "bad character range " ++ a ++ "-" ++ b
  | .lastBackslash => "bad escape (end of pattern)"
  | .badEscape text => "bad escape " ++ text
  | .incompleteEscape text => "incomplete escape " ++ text
  | .octalTooLarge text => "octal escape value " ++ text ++ " outside of range 0-0o377"
  | .missingBrace => "missing \x7b"
  | .missingWord what => "missing " ++ what
  | .openWord closing => "missing " ++ String.ofList [closing] ++ ", unterminated name"
  | .noSuchCharacter name => "undefined character name " ++ Text.quoted name
  | .noSuchGroup index => "invalid group reference " ++ toString index
  | .groupStillOpen => "cannot refer to an open group"
  | .groupOfSameLook => "cannot refer to group defined in the same lookbehind subpattern"
  | .unexpectedEnd => "unexpected end of pattern"
  | .unknownExtension text => "unknown extension ?" ++ text
  | .openComment => "missing ), unterminated comment"
  | .badName name => "bad character in group name " ++ Text.quoted name
  | .noSuchName name => "unknown group name " ++ Text.quoted name
  | .nameTaken name now before =>
    "redefinition of group name " ++ Text.quoted name ++ s!" as group {now}; was group {before}"
  | .badGroupNumber => "bad group number"
  | .thirdBranch => "conditional backref with more than two branches"
  | .lateFlags => "global flags not at the start of the expression"
  | .flags text => text
  | .mixedFlags => "ASCII and UNICODE flags are incompatible"
  | .barredRepetition => "internal: unsupported template operator MAX_REPEAT"
  | .looseLook => "look-behind requires fixed-width pattern"

/-- Whether the fault is of the pattern as a whole and has no place in it. -/
def isGeneral : RegexFault → Bool
  | .tooManyTimes | .mixedFlags | .barredRepetition | .looseLook => true
  | _ => false

end RegexFault

/-- A fault and where it is; in a pattern of several lines, also by line and column. -/
structure RegexError where
  fault : RegexFault
  position : Nat
  lineAndColumn : Option (Nat × Nat) := none
deriving DecidableEq, Repr

namespace RegexError

def message (e : RegexError) : String :=
  if e.fault.isGeneral then e.fault.text
  else
    e.fault.text ++ " at position " ++ toString e.position ++
    match e.lineAndColumn with
    | some (line, column) => s!" (line {line}, column {column})"
    | none => ""

/-- The error with its line and column, if the pattern has several lines. -/
def inPattern (e : RegexError) (pattern : List Char) : RegexError :=
  if pattern.contains '\n' then
    let before := pattern.take e.position
    { e with lineAndColumn := some (before.count '\n' + 1, (before.reverse.takeWhile (· != '\n')).length + 1) }
  else e

end RegexError

end ClientMigration
