import ClientMigration.Dialect
import ClientMigration.Idiom
import ClientMigration.Number.Basic
import ClientMigration.Regex.Reader
import ClientMigration.Severity
import ClientMigration.Text.Utf8
import ClientMigration.Value.Basic
import ClientMigration.Value.Yaml.Trouble

/-! # Faults

What can be wrong with what a user supplies, as causes; each has one wording, a kind that decides how a
run ends, and the data it is about. -/

namespace ClientMigration

/-- How a run ends. -/
inductive Ending where
  | success
  | inputFault
  | partialSuccess
  | fatal
deriving DecidableEq, Repr

def Ending.code : Ending → Nat
  | .success => 0
  | .inputFault => 1
  | .partialSuccess => 2
  | .fatal => 3

inductive ProblemKind where
  | general
  | input
  | unsupportedDialect
  | catalog
deriving DecidableEq, Repr

namespace ProblemKind

def label : ProblemKind → String
  | .general => "MigrateError"
  | .input => "InputError"
  | .unsupportedDialect => "UnsupportedDialectError"
  | .catalog => "CatalogError"

def all : List ProblemKind := [.general, .input, .unsupportedDialect, .catalog]

def ending : ProblemKind → Ending
  | .general | .catalog => .fatal
  | .input | .unsupportedDialect => .inputFault

end ProblemKind

/-- A reported problem with the data it is about. -/
structure Problem where
  kind : ProblemKind
  message : String
  context : List (String × Value)

/-- The problem as data; the context may overlay the other fields. -/
def Problem.toValue (p : Problem) : Value :=
  Value.ofFields ([("error", .str p.kind.label), ("message", .str p.message),
    ("exit_code", .ofNat p.kind.ending.code)] ++ p.context)

/-- The problem of a dialect that is not supported. -/
def Problem.unsupported (given : Option String) (supported : List String) : Problem where
  kind := .unsupportedDialect
  message := "Unsupported source dialect: " ++ (Value.ofText? given).written ++ " (expected one of: " ++
    String.intercalate ", " supported ++ ")"
  context := [("dialect", .ofText? given), ("supported", .texts supported)]

/-- What is wrong with supplied data. -/
inductive Fault where
  | dialect (f : Dialect.NameFault)
  | severity (given : Value)
  | notAList (what : String) (given : Value)
  | notAnObject (what : String) (given : Value)
  | missingField (owner field : String)
  | phaseOrder (given : Value)
  | duplicateIdiom (idiom : Idiom)
  | unorderedEdits (recipe : String) (orders : List Int)
  | unreadable (path reason : String)
  | notADocument (path reason : String)
  | documentNotAnObject (path : String)

namespace Fault

def supported : List String := Dialect.all.map (·.name)

def toProblem : Fault → Problem
  | .dialect .missing => ⟨.input, "Source dialect is required", [("supported", .texts supported)]⟩
  | .dialect (.unknown given) => Problem.unsupported (some given) supported
  | .severity given => ⟨.input, "Invalid severity: " ++ given.written, [("value", given)]⟩
  | .notAList what given => ⟨.input, what ++ " must be a list", [("value", .str given.written)]⟩
  | .notAnObject what given => ⟨.input, what ++ " must be an object", [("value", .str given.written)]⟩
  | .missingField owner field => ⟨.input, owner ++ " is missing required field: " ++ field, []⟩
  | .phaseOrder given => ⟨.input, "Invalid phase order: " ++ given.written, []⟩
  | .duplicateIdiom idiom =>
    ⟨.catalog, "Duplicate pattern type registered: " ++ idiom.name, [("pattern_type", .str idiom.name)]⟩
  | .unorderedEdits recipe orders =>
    let listed := Value.list (orders.map .ofInt)
    ⟨.catalog, "Strategy " ++ Text.quoted recipe ++ " has non-increasing step orders: " ++ listed.written,
      [("strategy", .str recipe), ("orders", listed)]⟩
  | .unreadable path reason => ⟨.input, "Failed to read file: " ++ reason, [("file_path", .str path)]⟩
  | .notADocument path reason => ⟨.input, "Invalid YAML/JSON: " ++ reason, [("file_path", .str path)]⟩
  | .documentNotAnObject path =>
    ⟨.input, "Collaborator file must contain an object", [("file_path", .str path)]⟩

def message (f : Fault) : String := f.toProblem.message

def ending (f : Fault) : Ending := f.toProblem.kind.ending

end Fault

/-- The dialect that a value names by its text; null names none. -/
def Dialect.ofValue (v : Value) : Except Fault Dialect :=
  match v with
  | .null => .error (.dialect .missing)
  | v => (Dialect.parse v.text).mapError .dialect

/-- The severity that a value names. -/
def Severity.ofValue (v : Value) : Except Fault Severity :=
  match Severity.ofValue? v with
  | some s => .ok s
  | none => .error (.severity v)

/-! ### Failures

Beside the faults of supplied data, work can fail on a number without an integer value, a pattern that
cannot be read, bytes that are no text, a scalar of a document that has no value, or an idiom without a
sighting. -/

inductive Failure where
  | fault (f : Fault)
  | number (f : Number.ConversionFailure)
  | pattern (e : RegexError)
  | undecodable (e : Text.DecodeError)
  | document (t : Yaml.Trouble)
  | noSighting

/-- A fault that is reported with the value it is about. The report fails in turn if the value has no text. -/
def Failure.reporting (given : Value) (f : Fault) : Failure :=
  if given.isWritable then .fault f else .number .unwritable

def Failure.message : Failure → String
  | .fault f => f.message
  | .number f => f.message
  | .pattern e => e.message
  | .undecodable e => e.message
  | .document t => t.message
  | .noSighting => "list index out of range"

end ClientMigration
