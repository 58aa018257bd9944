import ClientMigration.Analysis
import ClientMigration.CommandLine.Markup
import ClientMigration.CommandLine.Words
import ClientMigration.Fault
import ClientMigration.Settings.File

/-! # Workspaces

What a command works on and leaves behind: the files, and what it has printed. Its steps change the workspace one after
the other, and one that breaks off leaves it as it is then. -/

namespace ClientMigration.CommandLine

structure Workspace where
  folder : Folder
  out : String := ""
  err : String := ""

namespace Workspace

def print (w : Workspace) (line : String) : Workspace := { w with out := w.out ++ line ++ "\n" }

def printAll (w : Workspace) (lines : List String) : Workspace := lines.foldl print w

/-- Print a line where faults are reported. -/
def report (w : Workspace) (line : String) : Workspace := { w with err := w.err ++ line ++ "\n" }

end Workspace

/-- Why a command breaks off. -/
inductive Breakdown where
  | failure (f : Failure)
  | settings (r : Settings.Refusal)
  | unwritable (f : OpenFault)
  | unshowable (f : Markup.Flaw)

def Breakdown.message (w : Settings.Wording) : Breakdown → String
  | .failure f => f.message
  | .settings r => r.message w
  | .unwritable f => f.message
  | .unshowable f => f.message

/-- What a run finds around it: the directories, the environment, the time, the console that shows its messages, and
    what readers say of texts that they cannot read. -/
structure Host extends Settings.Directories where
  environment : Environment
  now : String
  console : Console
  wording : Settings.Wording
  documentFlaw : String → String

/-- What a command is run with: the settings, or why there are none. -/
structure Context extends Host where
  settings : Except Settings.Refusal Settings

/-! ### Steps -/

abbrev Step := EStateM Breakdown Workspace

namespace Step

def print (line : String) : Step Unit := modify (·.print line)

def printAll (lines : List String) : Step Unit := modify (·.printAll lines)

/-- What a console shows of a text in markup. -/
def shown (k : Console) (markup : String) : Step String :=
  match k.render markup with
  | .ok line => return line
  | .error f => throw (.unshowable f)

/-- Print a message. -/
def say (k : Console) (message : String) : Step Unit := do print (← shown k message)

/-- Print a message about what is done. -/
def succeed (k : Console) (message : String) : Step Unit := say k (Markup.succeeded message)

/-- Print a message where faults are reported. -/
def report (k : Console) (message : String) : Step Unit := do
  let line ← shown k message
  modify (·.report line)

def error (k : Console) (message : String) : Step Unit := report k (Markup.failed message)

def warn (k : Console) (message : String) : Step Unit := report k (Markup.warned message)

def warnAll (k : Console) (messages : List String) : Step Unit := messages.forM (warn k)

/-- A fault of supplied data ends a command with a message; any other failure breaks it off. -/
def ofFailure (k : Console) : Failure → Step Ending
  | .fault f => do
    error k f.message
    return f.ending
  | f => throw (.failure f)

/-- The detector of the settings, for the idioms of the catalog that is built in. -/
def detector (c : Context) : Step Detector :=
  match c.settings with
  | .error r => throw (.settings r)
  | .ok s =>
    match Detector.make .builtin s with
    | .error e => throw (.failure (.pattern e))
    | .ok t => return t

end Step

/-! ### Options that commands share -/

def dialectOption : OptionSpec := ⟨["-d", "--dialect"], true⟩

def jsonOption : OptionSpec := .flag "--json"

def helpOption : OptionSpec := .flag "--help"

/-- The dialect that is asked for, by the option or else by the environment. -/
def dialectGiven? (env : Environment) (w : Words) : Option String :=
  match w.value? dialectOption with
  | some d => some d
  | none => (env.lookup "GLIDE_MIGRATE_DIALECT").filter fun d => !d.isEmpty

/-- A dialect must be asked for. -/
def dialectCheck (env : Environment) (w : Words) : Check where
  option := some dialectOption
  fault := if (dialectGiven? env w).isNone then some (.missingOption dialectOption.shown) else none

/-- The fault of a path that should lead to a file. -/
def fileFault? (folder : Folder) (path : String) : Option ValueFault :=
  match folder.place path with
  | .file _ => none
  | .directory => some (.isADirectory path)
  | .missing | .insideFile => some (.noSuchFile path)

/-- An option whose value, if given, must be as a test says. -/
def valueCheck (w : Words) (o : OptionSpec) (test : String → Option ValueFault) : Check where
  option := some o
  fault := ((w.value? o).bind test).map (.invalidValue o.shown)

/-- The text of a source file, or why it cannot be read. -/
def readSource (folder : Folder) (path : String) : Except Fault String :=
  (folder.readText path).mapError fun f => .unreadable path f.message

/-- The dialect of a name. -/
def readDialect (name : String) : Except Fault Dialect := (Dialect.parse name).mapError .dialect

end ClientMigration.CommandLine
