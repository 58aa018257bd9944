import ClientMigration.Text.Quoted

/-! # Usage

What can be wrong with the words of a command line, and how it is reported. -/

namespace ClientMigration.CommandLine

/-- The name that the program goes by. -/
def programName : String := "glide-migrate"

/-- What is wrong with the value of an option or an argument. -/
inductive ValueFault where
  | noSuchFile (path : String)
  | noSuchPath (path : String)
  | isADirectory (path : String)
  | notAChoice (given : String) (choices : List String)
  | notAnInteger (given : String)
  | belowOne (given : Int)
deriving DecidableEq, Repr

def ValueFault.message : ValueFault → String
  | .noSuchFile path => "File " ++ Text.quoted path ++ " does not exist."
  | .noSuchPath path => "Path " ++ Text.quoted path ++ " does not exist."
  | .isADirectory path => "File " ++ Text.quoted path ++ " is a directory."
  | .notAChoice given choices =>
    Text.quoted given ++ " is not one of " ++ String.intercalate ", " (choices.map Text.quoted) ++ "."
  | .notAnInteger given => Text.quoted given ++ " is not a valid integer range."
  | .belowOne given => toString given ++ " is not in the range x>=1."

/-- What is wrong with a command line. Options and arguments are given as they are shown. -/
inductive UsageFault where
  | noSuchOption (name : String)
  | takesNoValue (name : String)
  | needsValue (name : String)
  | missingOption (shown : String)
  | missingArgument (shown : String)
  | invalidValue (shown : String) (f : ValueFault)
  | extraWords (words : List String)
  | missingCommand
  | noSuchCommand (name : String)
deriving DecidableEq, Repr

def UsageFault.message : UsageFault → String
  | .noSuchOption name => "No such option " ++ Text.quoted name ++ "."
  | .takesNoValue name => "Option " ++ Text.quoted name ++ " does not take a value."
  | .needsValue name => "Option " ++ Text.quoted name ++ " requires an argument."
  | .missingOption shown => "Missing option " ++ shown ++ "."
  | .missingArgument shown => "Missing argument " ++ shown ++ "."
  | .invalidValue shown f => "Invalid value for " ++ shown ++ ": " ++ f.message
  | .extraWords words =>
    "Got unexpected extra " ++ (if words.length = 1 then "argument" else "arguments") ++
    " (" ++ String.intercalate " " words ++ ")"
  | .missingCommand => "Missing command."
  | .noSuchCommand name => "No such command " ++ Text.quoted name ++ "."

/-- How a command is called. The program itself has no command name. -/
structure Synopsis where
  command : Option String
  form : String
deriving DecidableEq, Repr

namespace Synopsis

/-- The program and the command. -/
def called (s : Synopsis) : String := programName ++ (s.command.map (" " ++ ·)).getD ""

/-- The line that shows how to call a command. -/
def line (s : Synopsis) : String := "Usage: " ++ s.called ++ " " ++ s.form

/-- The report of a fault in the call of a command. -/
def report (s : Synopsis) (f : UsageFault) : String :=
  s.line ++ "\nTry '" ++ s.called ++ " --help' for help.\n\nError: " ++ f.message ++ "\n"

end Synopsis

end ClientMigration.CommandLine
