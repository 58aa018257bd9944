import ClientMigration.Folder
import ClientMigration.Supplied.Dependencies
import ClientMigration.Supplied.Optimizations
import ClientMigration.Value.Yaml.Document

/-! # Supplied files

A file with a dependency analysis or an optimization report, in YAML or JSON. It holds an object or
nothing. What the reader of documents says of a text that is none is a parameter. -/

namespace ClientMigration.Supplied

/-- The object in a file, or null. -/
def readObject (flaw : String → String) (folder : Folder) (path : String) : Except Failure Value :=
  let shown := Path.normal path
  match folder.readText shown with
  | .error (.unopenable f) => .error (.fault (.unreadable shown f.message))
  | .error (.undecodable e) => .error (.undecodable e)
  | .ok text =>
    match Yaml.read text with
    | .error .malformed => .error (.fault (.notADocument shown (flaw text)))
    | .error t => .error (.document t)
    | .ok v => if v.isNull || v.fields?.isSome then .ok v else .error (.fault (.documentNotAnObject shown))

/-- The dependency analysis in a file; none without a file. -/
def readDependencies (flaw : String → String) (folder : Folder) : Option String → Except Failure Dependencies
  | none => .ok {}
  | some path => do Dependencies.ofValue (← readObject flaw folder path)

/-- The optimization report in a file; none without a file. -/
def readOptimizations (flaw : String → String) (folder : Folder) : Option String → Except Failure Optimizations
  | none => .ok {}
  | some path => do Optimizations.ofValue (← readObject flaw folder path)

end ClientMigration.Supplied
