import ClientMigration.CommandLine.Workspace
import ClientMigration.ConvertedFile
import ClientMigration.Text.CaseFold

/-! # The command that converts a file

The whole file is converted, or one idiom of it, and the code goes to a file or is printed. -/

namespace ClientMigration.CommandLine

structure Convert where
  path : String
  dialect : String
  idiom : Option Idiom
  output : Option String
  json : Bool
deriving DecidableEq, Repr

namespace Convert

def synopsis : Synopsis := ⟨some "convert", "[OPTIONS] PATH"⟩

def idiomOption : OptionSpec := ⟨["-p", "--pattern"], true⟩

def outputOption : OptionSpec := ⟨["--output", "-o"], true⟩

def options : List OptionSpec := [dialectOption, idiomOption, outputOption, jsonOption, helpOption]

/-- The idiom of a name in any letter case. -/
def idiomOf? (s : String) : Option Idiom := Idiom.ofName? (Text.folded s)

def idiomFault? (s : String) : Option ValueFault :=
  if (idiomOf? s).isNone then some (.notAChoice s (Idiom.all.map (·.name))) else none

/-- The output may be a new file, but no directory. -/
def outputFault? (folder : Folder) (path : String) : Option ValueFault :=
  if folder.place path = .directory then some (.isADirectory path) else none

/-- The fault of the argument. -/
def pathFault? (folder : Folder) : List String → Option UsageFault
  | [] => some (.missingArgument "'PATH'")
  | path :: _ => (fileFault? folder path).map (.invalidValue "'PATH'")

def ofWords (env : Environment) (folder : Folder) (w : Words) : Except UsageFault Convert := do
  Check.all w
    [⟨none, pathFault? folder w.rest⟩, dialectCheck env w, valueCheck w idiomOption idiomFault?,
     valueCheck w outputOption (outputFault? folder)] (w.rest.drop 1)
  return { path := Path.normal (w.rest.head?.getD "")
           dialect := (dialectGiven? env w).getD ""
           idiom := (w.value? idiomOption).bind idiomOf?
           output := (w.value? outputOption).map Path.normal
           json := w.has jsonOption }

/-- What a conversion yields: the code, the report and the warnings. -/
structure Product where
  code : String
  report : Value
  warnings : List String

/-- The product of one conversion. -/
def ofConversion (path : String) (c : Conversion) : Product where
  code := c.converted
  report := .object [("file", .str path), ("conversion", c.toValue)]
  warnings := c.cautions.map (·.message)

/-- The product of a converted file. -/
def ofFile (path : String) (f : ConvertedFile) : Product where
  code := f.code
  report := .object [("file", .str path), ("converted_file", f.toValue)]
  warnings := f.warnings

/-- The product asked for; none if the idiom asked for was not found. -/
def product (q : Convert) (t : Detector) (source : String) (d : Dialect) : Except Failure (Option Product) :=
  let a := t.analyze source d
  match q.idiom with
  | some i => .ok ((a.finding? i).map fun f => ofConversion q.path (.ofFinding f source (some d)))
  | none => (ConvertedFile.convert t.settings.conversion source a q.path).map fun f => some (ofFile q.path f)

/-- Report a conversion that found nothing of the idiom. -/
def reportAbsent (q : Convert) (k : Console) : Step Unit :=
  if q.json then .print (Json.indented (.object [("file", .str q.path), ("conversion", .null)]))
  else .warn k ("Pattern '" ++ (q.idiom.map (·.name)).getD "" ++ "' not detected in " ++ q.path)

/-- What is said of a file that is written. -/
def writtenMessage (path : String) : String := "Wrote converted code to " ++ path

/-- Write the code, if a file is asked for. -/
def writeOutput (q : Convert) (k : Console) (code : String) : Step Unit :=
  match q.output with
  | none => return ()
  | some path => do
    match (← get).folder.writeText path code with
    | .error f => throw (.unwritable f)
    | .ok folder =>
      modify fun w => { w with folder := folder }
      unless q.json do Step.succeed k (writtenMessage path)

/-- Print the code, unless it goes to a file. -/
def printCode (q : Convert) (p : Product) : Step Unit :=
  if q.output.isNone then .print (Display.plain p.code) else pure ()

/-- Print the code and the warnings. -/
def showProduct (q : Convert) (k : Console) (p : Product) (found : Bool) : Step Unit := do
  q.printCode p
  Step.warnAll k p.warnings
  unless found do Step.say k "No migration patterns detected; code left unchanged"

/-- Print the report, or the code and the warnings. -/
def reportProduct (q : Convert) (k : Console) (p : Product) (found : Bool) : Step Unit :=
  if q.json then .print (Json.indented p.report) else q.showProduct k p found

/-- Convert a text, and write and report what comes of it. -/
def deliver (q : Convert) (k : Console) (t : Detector) (source : String) (d : Dialect) : Step Unit :=
  match q.product t source d with
  | .error f => throw (.failure f)
  | .ok none => q.reportAbsent k
  | .ok (some p) => do
    q.writeOutput k p.code
    q.reportProduct k p (!(t.analyze source d).findings.isEmpty)

def run (q : Convert) (c : Context) : Step Ending :=
  match readDialect q.dialect with
  | .error f => .ofFailure c.console (.fault f)
  | .ok d => do
    match readSource (← get).folder q.path with
    | .error f => .ofFailure c.console (.fault f)
    | .ok source =>
      let t ← Step.detector c
      q.deliver c.console t source d
      return .success

end Convert

end ClientMigration.CommandLine
