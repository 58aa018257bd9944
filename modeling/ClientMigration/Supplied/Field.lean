import ClientMigration.Fault

/-! # Fields of supplied data

Data from outside may leave a field out, have null for it, or spell its name in another way. The first
spelling with a value counts. What is wrong with a value is reported together with its text. -/

namespace ClientMigration.Supplied

abbrev Fields := List (String × Value)

/-- The first of some fields that has a value other than null. -/
def first? (fields : Fields) (keys : List String) : Option Value :=
  keys.findSome? fun key => (fields.lookup key).filter fun v => !v.isNull

/-- The text of a value. -/
def textOf (v : Value) : Except Failure String := v.textOrFailure.mapError .number

/-- The text of the first of some fields that has a value; empty without one. -/
def firstText (fields : Fields) (keys : List String) : Except Failure String :=
  match first? fields keys with
  | some v => textOf v
  | none => .ok ""

/-- The text of a field; empty without one. -/
def text (fields : Fields) (key : String) : Except Failure String := firstText fields [key]

/-- The severity that a field names; medium without one. -/
def severity (fields : Fields) (key : String) : Severity := Severity.ofValueD .medium (first? fields [key])

/-- The items of a list, none without a value. -/
def items (what : String) : Option Value → Except Failure (List Value)
  | none => .ok []
  | some (.list vs) => .ok vs
  | some v => .error (.reporting v (.notAList what v))

/-- The texts of the items of a list, none without a value. -/
def itemTexts (what : String) (given : Option Value) : Except Failure (List String) := do
  (← items what given).mapM textOf

/-- The fields of an object. -/
def object (what : String) (v : Value) : Except Failure Fields :=
  match v.fields? with
  | some fields => .ok fields
  | none => .error (.reporting v (.notAnObject what v))

/-- The value of a field that must be there, though it may be null. -/
def required (owner key : String) (fields : Fields) : Except Failure Value :=
  match fields.lookup key with
  | some v => .ok v
  | none => .error (.fault (.missingField owner key))

end ClientMigration.Supplied
