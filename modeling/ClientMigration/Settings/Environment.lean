import ClientMigration.Folder
import ClientMigration.Settings.Reader
import ClientMigration.Text.Lowercase
import ClientMigration.Text.Literal
import ClientMigration.Text.Utf8
import ClientMigration.Value.Json

/-! # Settings from the environment

An environment variable supplies the version, a whole section as a JSON object, or one setting of a
section. A single setting goes before the section's object, and what a document supplies goes before the
environment. Names of variables, and those at the top of a document, are read in any letter case. -/

namespace ClientMigration

/-- The variables of an environment. -/
abbrev Environment := List (String × String)

namespace Settings

/-- What the names of variables begin with. -/
def variableStem : String := "glide_migrate_"

/-- The mark between a section and a setting in the name of a variable. -/
def delimiter : String := "__"

/-- The sections with the names of their settings. -/
def sections : List (String × List String) :=
  [("scanner", ["context_before", "context_after", "relevance_pattern"]),
   ("scoring", ["base_confidence", "occurrence_weight", "occurrence_cap", "context_bonus", "min_confidence"]),
   ("complexity", ["simple_weight", "moderate_weight", "complex_weight", "occurrence_weight", "size_divisor",
     "size_cap", "density_weight", "max_score", "medium_at", "high_at", "very_high_at"]),
   ("effort", ["low_base_hours", "medium_base_hours", "high_base_hours", "very_high_base_hours",
     "simple_pattern_hours", "moderate_pattern_hours", "complex_pattern_hours", "analysis_share",
     "conversion_share", "testing_share", "validation_share", "documentation_share", "confidence"]),
   ("conversion", ["base_confidence", "complex_pattern_penalty", "rename_bonus", "skipped_step_penalty",
     "min_confidence", "max_confidence"]),
   ("plan", ["default_plan_hours", "optimization_hours", "phase_estimate", "target_package"])]

/-- The variables with their names in lower case; of two that agree then, the later one holds. -/
def lowerNames (env : Environment) : Environment :=
  env.foldl (fun acc kv =>
    let name := Text.lower kv.1
    if acc.any (·.1 == name) then acc.map fun old => if old.1 == name then (name, kv.2) else old
    else acc ++ [(name, kv.2)]) []

/-- The fields with a value put at a path of keys. A value on the way that is no object stays, and nothing
    is put below it. -/
def putAt (v : Value) : List String → List (String × Value) → List (String × Value)
  | [], fields => fields
  | [key], fields => Value.setField key v fields
  | key :: path, fields =>
    match fields.lookup key with
    | none => Value.setField key (.object (putAt v path [])) fields
    | some (.object inner) => Value.setField key (.object (putAt v path inner)) fields
    | some _ => fields

/-- One object laid over another: objects under one key are joined, anything else is replaced. -/
def overlay (under upper : List (String × Value)) : List (String × Value) :=
  upper.foldl (fun acc kv =>
    match acc.lookup kv.1, kv.2 with
    | some (.object a), .object b =>
      Value.setField kv.1 (.object (b.foldl (fun fs field => Value.setField field.1 field.2 fs) a)) acc
    | _, v => Value.setField kv.1 v acc) under

/-- The pieces of a text between the delimiters. -/
def splitName (s : String) : List String :=
  (Text.pieces delimiter.toList s.toList).map String.ofList

/-- The single settings of a section that variables supply. -/
def singles (env : Environment) (name : String) : List (String × Value) :=
  let stem := (variableStem ++ name ++ delimiter).toList
  env.foldl (fun acc kv =>
    if stem.isPrefixOf kv.1.toList then
      putAt (.str kv.2) (splitName (String.ofList (kv.1.toList.drop stem.length))) acc
    else acc) []

/-- The fields with the names of settings in the letter case of the settings. -/
def withNames (names : List String) (fields : List (String × Value)) : List (String × Value) :=
  fields.foldl (fun acc kv =>
    let key := (names.find? (fun n => Text.lower n == Text.lower kv.1)).getD kv.1
    Value.setField key kv.2 acc) []

/-- What variables supply for a section; none if they supply nothing. A section's text must be JSON. -/
def sectionFrom (env : Environment) (name : String) (names : List String) : Except String (Option Value) :=
  match env.lookup (variableStem ++ name) with
  | none =>
    let fs := singles env name
    .ok (if fs.isEmpty then none else some (.object (withNames names fs)))
  | some text =>
    match Json.read? text with
    | none => .error name
    | some (.object fs) => .ok (some (.object (withNames names (overlay fs (singles env name)))))
    | some .null => .ok none
    | some v => .ok (some v)

/-- The document that an environment amounts to. It fails with the name of a section whose text is no
    JSON. -/
def fromEnvironment (env : Environment) : Except String (List (String × Value)) := do
  let env := lowerNames env
  let version :=
    match env.lookup (variableStem ++ "version") with
    | some v => [("version", Value.str v)]
    | none => []
  let parts ← sections.mapM fun (name, names) => do
    match ← sectionFrom env name names with
    | some v => return [(name, v)]
    | none => return []
  return version ++ parts.flatten

/-- Why there are no settings. -/
inductive Refusal where
  | envSection (sectionName : String)
  | objections (os : List Objection)
  | notToml (text : String)
  | longInteger (digits : Nat)
  | undecodable (e : Text.DecodeError)
  | unopenable (f : OpenFault)
  | noHome

/-- What readers of settings say of a text that is no TOML, and of values that are no settings. -/
structure Wording where
  notToml : String → String
  objections : List Objection → String

def Refusal.message (w : Wording) : Refusal → String
  | .envSection name => "error parsing value for field \"" ++ name ++ "\" from source \"EnvSettingsSource\""
  | .objections os => w.objections os
  | .notToml text => w.notToml text
  | .longInteger digits => longIntegerMessage digits
  | .undecodable e => e.message
  | .unopenable f => f.message
  | .noHome => "Could not determine home directory."

/-- The names at the top of a document. -/
def topNames : List String := "version" :: sections.map (·.1)

/-- The field of a document under a name at its top. The name in the letter case of the settings goes before
    others, and of the others the first counts. -/
def topField? (document : List (String × Value)) (name : String) : Option Value :=
  match document.lookup name with
  | some v => some v
  | none => document.findSome? fun (key, v) => if Text.lower key == name then some v else none

/-- The document with the names at its top in the letter case of the settings. -/
def withTopNames (document : List (String × Value)) : List (String × Value) :=
  topNames.filterMap fun name => (topField? document name).map fun v => (name, v)

/-- The settings of a document and an environment. -/
def compose (document : List (String × Value)) (env : Environment) : Except Refusal Settings :=
  match fromEnvironment env with
  | .error name => .error (.envSection name)
  | .ok under => (read (overlay under (withTopNames document))).mapError .objections

end Settings

end ClientMigration
