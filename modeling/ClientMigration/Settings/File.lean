import ClientMigration.Folder
import ClientMigration.Settings.Environment
import ClientMigration.Value.Toml.Document

/-! # Settings files

Settings come from the first file found: the one asked for, the usual one of the working directory, or that of the home
directory. The environment supplies what the file leaves out, and the defaults the rest. -/

namespace ClientMigration.Settings

/-- The usual name of a settings file. -/
def fileName : String := ".glidemigrate.toml"

/-- The working directory, and the home directory that the account has, if it has one. -/
structure Directories where
  working : String
  accountHome : Option String
deriving DecidableEq, Repr

/-- The home directory: the one of the environment, or else of the account. It is not known if a tilde stands for
    it. -/
def home? (accountHome : Option String) (env : Environment) : Option String :=
  let named := ((env.lookup "HOME").or accountHome).map fun home =>
    let trimmed := String.ofList (home.toList.reverse.dropWhile (· == '/')).reverse
    if trimmed.isEmpty then "/" else trimmed
  named.filter fun home => home.toList.head? != some '~'

/-- A place of a settings file: its path in the folder, and the path by which it is opened. -/
structure Location where
  path : String
  opened : String
deriving DecidableEq, Repr

/-- The places of settings files, the first one first. -/
def locations (working home : String) (asked : Option String) : List Location :=
  (asked.map fun path => ⟨path, path⟩).toList ++
  [⟨fileName, Path.within working fileName⟩, ⟨Path.within home fileName, Path.within home fileName⟩]

/-- The file that settings are read from, if there is one. -/
def location? (folder : Folder) (working home : String) (asked : Option String) : Option Location :=
  (locations working home asked).find? fun l => folder.has l.path

/-- The document in a settings file. -/
def readDocument (folder : Folder) (l : Location) : Except Refusal (List (String × Value)) := do
  let bytes ← (folder.readBytes l.path).mapError fun f => .unopenable (f.withPath l.opened)
  let text ← (Text.decode bytes).mapError .undecodable
  (Toml.read text).mapError fun
    | .malformed => .notToml text
    | .longInteger digits => .longInteger digits

/-- The settings of a folder and an environment. -/
def load (folder : Folder) (at_ : Directories) (asked : Option String) (env : Environment) : Except Refusal Settings :=
  match home? at_.accountHome env with
  | none => .error .noHome
  | some home => do
    let document ←
      match location? folder at_.working home (asked.map Path.normal) with
      | some l => readDocument folder l
      | none => .ok []
    compose document env

/-- A settings file with the defaults, to start from. -/
def defaultFile : String :=
  Text.joinLines
    ["# glide-migrate configuration", "",
     "version = \"1.0\"", "",
     "[scanner]", "context_before = 2", "context_after = 5", "relevance_pattern = \"redis|Redis|REDIS\"", "",
     "[scoring]", "base_confidence = 0.5", "occurrence_weight = 0.1", "occurrence_cap = 0.3", "context_bonus = 0.2",
     "min_confidence = 0.0  # Detector drops patterns below this", "",
     "[complexity]", "simple_weight = 5", "moderate_weight = 10", "complex_weight = 20", "occurrence_weight = 2",
     "size_divisor = 50", "size_cap = 20", "density_weight = 30", "medium_at = 20", "high_at = 50",
     "very_high_at = 80", "",
     "[effort]", "low_base_hours = 8", "medium_base_hours = 24", "high_base_hours = 60",
     "very_high_base_hours = 120", "simple_pattern_hours = 2", "moderate_pattern_hours = 8",
     "complex_pattern_hours = 16", "confidence = 0.7", "",
     "[conversion]", "base_confidence = 90", "complex_pattern_penalty = 15", "rename_bonus = 2",
     "skipped_step_penalty = 5", "",
     "[plan]", "default_plan_hours = 8", "optimization_hours = 2", "target_package = \"@valkey/valkey-glide\"", ""]

end ClientMigration.Settings
