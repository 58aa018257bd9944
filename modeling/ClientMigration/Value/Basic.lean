import ClientMigration.Number.Basic
import ClientMigration.Text.Quoted
import ClientMigration.Value.Moment

/-! # Values

The data of JSON, YAML and TOML documents. The fields of an object keep their order, and each key stands
once. An object whose keys are not all texts is a mapping. -/

namespace ClientMigration

inductive Value where
  | null
  | bool (b : Bool)
  | num (n : Number)
  | str (s : String)
  | moment (m : Moment)
  | list (items : List Value)
  | object (fields : List (String × Value))
  | mapping (entries : List (Value × Value))
deriving Inhabited

namespace Value

def ofNat (n : Nat) : Value := .num (.int n)

def ofInt (i : Int) : Value := .num (.int i)

/-- A text, or null. -/
def ofText? : Option String → Value
  | some s => .str s
  | none => .null

def texts (ss : List String) : Value := .list (ss.map .str)

def isNull : Value → Bool
  | .null => true
  | _ => false

/-- The fields of an object, or of a mapping those whose keys are texts. -/
def fields? : Value → Option (List (String × Value))
  | .object fields => some fields
  | .mapping entries =>
    some (entries.filterMap fun
      | (.str key, v) => some (key, v)
      | _ => none)
  | _ => none

/-- The field of an object. -/
def field? (key : String) : Value → Option Value
  | .object fields => fields.lookup key
  | _ => none

/-- The fields with one set: in its place if the key is there, else at the end. -/
def setField (key : String) (v : Value) : List (String × Value) → List (String × Value)
  | [] => [(key, v)]
  | (k, w) :: rest => if k = key then (k, v) :: rest else (k, w) :: setField key v rest

/-- The fields in the order written; a later field of the same key takes the place of the first. -/
def ofFields (fields : List (String × Value)) : Value :=
  .object (fields.foldl (fun acc kv => setField kv.1 kv.2 acc) [])

/-! ### Keys -/

/-- A truth value counts as a number among keys. -/
def asKeyNumber? : Value → Option Number
  | .bool b => some (.int (if b then 1 else 0))
  | .num n => some n
  | _ => none

/-- Whether two values are one key. Collections are no keys. -/
def sameKey (a b : Value) : Bool :=
  match a, b with
  | .null, .null => true
  | .str s, .str t => s == t
  | .moment m, .moment n => m == n
  | _, _ =>
    match asKeyNumber? a, asKeyNumber? b with
    | some m, some n => m.atMost n && n.atMost m
    | _, _ => false

/-- The entries with one set: in its place if the key is there, else at the end. -/
def setEntry (key v : Value) : List (Value × Value) → List (Value × Value)
  | [] => [(key, v)]
  | (k, w) :: rest => if sameKey k key then (k, v) :: rest else (k, w) :: setEntry key v rest

/-- The text that a value is. -/
def asText? : Value → Option String
  | .str s => some s
  | _ => none

/-- The entries in the order written; a later entry of the same key takes the place of the first. -/
def ofEntries (entries : List (Value × Value)) : Value :=
  let merged := entries.foldl (fun acc kv => setEntry kv.1 kv.2 acc) []
  match merged.mapM fun kv => (asText? kv.1).map fun key => (key, kv.2) with
  | some fields => .object fields
  | none => .mapping merged

/-! ### Text of a value -/

mutual

/-- The value as it is written inside other values: strings in quotes. -/
def written : Value → String
  | .null => "None"
  | .bool b => if b then "True" else "False"
  | .num n => n.text
  | .str s => Text.quoted s
  | .moment m => m.written
  | .list items => "[" ++ String.intercalate ", " (writtenItems items) ++ "]"
  | .object fields => "\x7b" ++ String.intercalate ", " (writtenFields fields) ++ "\x7d"
  | .mapping entries => "\x7b" ++ String.intercalate ", " (writtenEntries entries) ++ "\x7d"

def writtenItems : List Value → List String
  | [] => []
  | v :: vs => written v :: writtenItems vs

def writtenFields : List (String × Value) → List String
  | [] => []
  | (k, v) :: rest => (Text.quoted k ++ ": " ++ written v) :: writtenFields rest

def writtenEntries : List (Value × Value) → List String
  | [] => []
  | (k, v) :: rest => (written k ++ ": " ++ written v) :: writtenEntries rest

end

/-- The value as text: a string is itself, and a moment has a form of its own. -/
def text : Value → String
  | .str s => s
  | .moment m => m.text
  | v => v.written

mutual

/-- Whether every number in the value has a text, so that the value has one. -/
def isWritable : Value → Bool
  | .num n => n.isWritable
  | .list items => areWritable items
  | .object fields => fieldsWritable fields
  | .mapping entries => entriesWritable entries
  | _ => true

def areWritable : List Value → Bool
  | [] => true
  | v :: vs => isWritable v && areWritable vs

def fieldsWritable : List (String × Value) → Bool
  | [] => true
  | (_, v) :: rest => isWritable v && fieldsWritable rest

def entriesWritable : List (Value × Value) → Bool
  | [] => true
  | (k, v) :: rest => isWritable k && isWritable v && entriesWritable rest

end

/-- The text of a value that has one. -/
def textOrFailure (v : Value) : Except Number.ConversionFailure String :=
  if v.isWritable then .ok v.text else .error .unwritable

end Value

end ClientMigration
