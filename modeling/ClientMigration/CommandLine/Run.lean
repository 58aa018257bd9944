import ClientMigration.CommandLine.Analyze
import ClientMigration.CommandLine.Convert
import ClientMigration.CommandLine.ListIdioms
import ClientMigration.CommandLine.MakePlan

/-! # Runs

A run of the program is a function of its words, the files and what it finds around it: it prints, may change a file,
and ends with a code. -/

namespace ClientMigration.CommandLine

def version : String := "0.1.0"

def synopsis : Synopsis := ⟨none, "[OPTIONS] COMMAND [ARGS]..."⟩

def verboseOption : OptionSpec := ⟨["-v", "--verbose"], false⟩

def quietOption : OptionSpec := ⟨["-q", "--quiet"], false⟩

def debugOption : OptionSpec := .flag "--debug"

def configOption : OptionSpec := ⟨["--config"], true⟩

def versionOption : OptionSpec := .flag "--version"

def options : List OptionSpec := [verboseOption, quietOption, debugOption, configOption, versionOption, helpOption]

inductive Command where
  | analyze
  | convert
  | plan
  | patterns
deriving DecidableEq, Repr

namespace Command

def all : List Command := [.analyze, .convert, .plan, .patterns]

def synopsis : Command → Synopsis
  | .analyze => Analyze.synopsis
  | .convert => Convert.synopsis
  | .plan => MakePlan.synopsis
  | .patterns => ListIdioms.synopsis

def options : Command → List OptionSpec
  | .analyze => Analyze.options
  | .convert => Convert.options
  | .plan => MakePlan.options
  | .patterns => ListIdioms.options

def named? (name : String) : Option Command := all.find? fun c => c.synopsis.command == some name

/-- What a command does, if its words are free of faults. -/
def perform (c : Command) (context : Context) (folder : Folder) (words : Words) : Except UsageFault (Step Ending) :=
  match c with
  | .analyze => (Analyze.ofWords context.environment words).map fun q => q.run context
  | .convert => (Convert.ofWords context.environment folder words).map fun q => q.run context
  | .plan => (MakePlan.ofWords context.environment folder words).map fun q => q.run context
  | .patterns => (ListIdioms.ofWords words).map fun q => q.run context

/-- Print how a command is called. -/
def help (c : Command) : Step Ending := do
  Step.print c.synopsis.line
  return .success

/-- Read the words of a command and carry it out. -/
def run (c : Command) (context : Context) (folder : Folder) (args : List String) :
    Except UsageFault (Step Ending) := do
  let words ← Words.read c.options true none args
  if words.has helpOption then return c.help else c.perform context folder words

end Command

/-- What a run leaves: the files, what it has printed, its code, and the failure that nothing has caught. -/
structure Exit where
  workspace : Workspace
  code : Nat
  uncaught : Option Breakdown := none

namespace Exit

/-- The code of a faulty command line. -/
def usageCode : Nat := 2

/-- The code of a failure that nothing catches. -/
def uncaughtCode : Nat := 1

def ofUsage (s : Synopsis) (w : Workspace) (f : UsageFault) : Exit where
  workspace := { w with err := w.err ++ Display.plain (s.report f) }
  code := usageCode

/-- Report what broke a command off, with a hint unless the full report is asked for. -/
def reportBreakdown (host : Host) (debug : Bool) (b : Breakdown) : Step Unit := do
  Step.error host.console ("Error: " ++ b.message host.wording)
  Step.say host.console ""
  Step.say host.console (if debug then "Full traceback (--debug mode):" else "Run with --debug for full traceback.")

/-- A command that breaks off is reported. The report may fail in turn. -/
def ofResult (host : Host) (debug : Bool) : EStateM.Result Breakdown Workspace Ending → Exit
  | .ok e w => { workspace := w, code := e.code }
  | .error b w =>
    match (reportBreakdown host debug b).run w with
    | .ok () w => { workspace := w, code := Ending.fatal.code }
    | .error b w => { workspace := w, code := uncaughtCode, uncaught := some b }

end Exit

/-- The settings for a run. If the file has none, those of the environment alone are used. -/
def settingsFor (folder : Folder) (at_ : Settings.Directories) (asked : Option String) (env : Environment) :
    Except Settings.Refusal Settings :=
  match Settings.load folder at_ asked env with
  | .ok s => .ok s
  | .error _ => Settings.compose [] env

/-- What is said of settings that cannot be loaded. -/
def refusalMessage (w : Settings.Wording) (r : Settings.Refusal) : String :=
  "Failed to load configuration: " ++ r.message w

/-- Say that the settings cannot be loaded, unless they can or the run is quiet. -/
def announceSettings (host : Host) (asked : Option String) (quiet : Bool) : Step Unit := do
  match Settings.load (← get).folder host.toDirectories asked host.environment with
  | .ok _ => return ()
  | .error r =>
    unless quiet do
      Step.error host.console (refusalMessage host.wording r)
      Step.error host.console "Falling back to built-in defaults"

/-- Run a command behind the options of the program. -/
def runCommand (host : Host) (debug : Bool) (words : Words) (w : Workspace) : Exit :=
  match words.rest with
  | [] => .ofUsage synopsis w .missingCommand
  | name :: args =>
    match Command.named? name with
    | none => .ofUsage synopsis w (.noSuchCommand name)
    | some c =>
      let asked := words.value? configOption
      let settings := settingsFor w.folder host.toDirectories asked host.environment
      match (announceSettings host asked (words.has quietOption)).run w with
      | .error b w => .ofResult host debug (.error b w)
      | .ok () w =>
        match c.run { toHost := host, settings := settings } w.folder args with
        | .error f => .ofUsage c.synopsis w f
        | .ok step => .ofResult host debug (step.run w)

/-- A settings file that is asked for must be there. -/
def configFault? (folder : Folder) (path : String) : Option ValueFault :=
  if folder.has path then none else some (.noSuchPath path)

/-- Run the program. -/
def run (host : Host) (folder : Folder) (args : List String) : Exit :=
  let w : Workspace := { folder := folder }
  match Words.read options false none args with
  | .error f => .ofUsage synopsis w f
  | .ok words =>
    match words.given.find? fun g => g.option == versionOption || g.option == helpOption with
    | some g =>
      { workspace :=
          w.print (if g.option == versionOption then programName ++ ", version " ++ version else synopsis.line)
        code := 0 }
    | none =>
      match Check.all words [valueCheck words configOption (configFault? folder)] [] with
      | .error f => .ofUsage synopsis w f
      | .ok () => runCommand host (args.contains "--debug") words w

end ClientMigration.CommandLine
