import ClientMigration.Text.Lines
import ClientMigration.Text.Quoted
import ClientMigration.Text.Utf8

/-! # Folders

The files that a run can see, by their paths from the working directory, as a value. A file's parents are
directories. Reading text unifies the ends of lines; writing leaves them as they are. -/

namespace ClientMigration

namespace Path

/-- The parts of a path between its slashes. -/
def split : List Char → List (List Char)
  | [] => [[]]
  | c :: cs => if c = '/' then [] :: split cs else Text.consHead c (split cs)

def isAbsolute (path : String) : Bool := path.toList.head? == some '/'

/-- The parts of a path without those that stand for no step. -/
def parts (path : String) : List String :=
  ((split path.toList).map String.ofList).filter fun p => p != "" && p != "."

/-- A path from its parts. -/
def ofParts (absolute : Bool) (ps : List String) : String :=
  let joined := String.intercalate "/" ps
  if absolute then "/" ++ joined else if ps.isEmpty then "." else joined

/-- Two slashes in front of a path may name another root, and are kept; three or more are one. -/
def hasOtherRoot (path : String) : Bool := (path.toList.takeWhile (· == '/')).length == 2

/-- A path without the parts that stand for no step. -/
def normal (path : String) : String :=
  (if hasOtherRoot path then "/" else "") ++ ofParts (isAbsolute path) (parts path)

/-- The path of a name in a directory. -/
def within (directory name : String) : String :=
  (if hasOtherRoot directory then "/" else "") ++ ofParts (isAbsolute directory) (parts directory ++ [name])

/-- The parts after one more: two points lead back to the parent, as far as it is known. -/
def enter (ps : List String) (p : String) : List String :=
  if p = ".." && !(ps.getLast?.all (· == "..")) then ps.dropLast else ps ++ [p]

end Path

structure Folder where
  files : List (String × Text.Bytes) := []
  directories : List String := []
deriving DecidableEq, Repr

/-- What is found at a path. -/
inductive Place where
  | file (bytes : Text.Bytes)
  | directory
  | missing
  | insideFile
deriving DecidableEq, Repr

/-- Why a file cannot be opened. -/
inductive OpenFault where
  | noSuchFile (path : String)
  | notADirectory (path : String)
  | isADirectory (path : String)
deriving DecidableEq, Repr

/-- The fault of a file that is opened by another path. -/
def OpenFault.withPath (path : String) : OpenFault → OpenFault
  | .noSuchFile _ => .noSuchFile path
  | .notADirectory _ => .notADirectory path
  | .isADirectory _ => .isADirectory path

def OpenFault.message : OpenFault → String
  | .noSuchFile path => "[Errno 2] No such file or directory: " ++ Text.quoted path
  | .notADirectory path => "[Errno 20] Not a directory: " ++ Text.quoted path
  | .isADirectory path => "[Errno 21] Is a directory: " ++ Text.quoted path

/-- Why a file has no text. -/
inductive ReadFault where
  | unopenable (f : OpenFault)
  | undecodable (e : Text.DecodeError)

def ReadFault.message : ReadFault → String
  | .unopenable f => f.message
  | .undecodable e => e.message

namespace Folder

/-- Whether a path is a directory because some file lies below it. -/
def isParent (folder : Folder) (path : String) : Bool :=
  folder.files.any fun file => (path ++ "/").toList.isPrefixOf file.1.toList

/-- What is found at a path whose parents are directories. -/
def find (folder : Folder) (absolute : Bool) (ps : List String) : Place :=
  let path := Path.ofParts absolute ps
  match folder.files.lookup path with
  | some bytes => .file bytes
  | none =>
    if ps.all (· == "..") || folder.directories.contains path || folder.isParent path then .directory else .missing

/-- What is found by going from a place down the parts of a path. -/
def walk (folder : Folder) (absolute : Bool) : (at_ : List String) → List String → Place
  | at_, [] => folder.find absolute at_
  | at_, p :: rest =>
    match folder.find absolute at_ with
    | .directory => walk folder absolute (Path.enter at_ p) rest
    | .file _ => .insideFile
    | other => other

/-- What is found at a path. A path that ends in a slash leads to no file, and the empty one nowhere. -/
def place (folder : Folder) (path : String) : Place :=
  if path.isEmpty then .missing
  else
    match folder.walk (Path.isAbsolute path) [] (Path.parts path) with
    | .file bytes => if path.toList.getLast? = some '/' then .insideFile else .file bytes
    | other => other

/-- Whether there is anything at a path. -/
def has (folder : Folder) (path : String) : Bool :=
  match folder.place path with
  | .file _ | .directory => true
  | .missing | .insideFile => false

/-- The bytes of a file. -/
def readBytes (folder : Folder) (path : String) : Except OpenFault Text.Bytes :=
  match folder.place path with
  | .file bytes => .ok bytes
  | .directory => .error (.isADirectory path)
  | .missing => .error (.noSuchFile path)
  | .insideFile => .error (.notADirectory path)

/-- The text of a file, its lines ended by newlines alone. -/
def readText (folder : Folder) (path : String) : Except ReadFault String := do
  let bytes ← (folder.readBytes path).mapError .unopenable
  let text ← (Text.decode bytes).mapError .undecodable
  return String.ofList (Text.unifyNewlines text.toList)

/-- The parts that a path leads to. -/
def target (path : String) : List String := (Path.parts path).foldl Path.enter []

/-- The files with one put in the place of an older one or behind the others. -/
def put (path : String) (bytes : Text.Bytes) : List (String × Text.Bytes) → List (String × Text.Bytes)
  | [] => [(path, bytes)]
  | file :: rest => if file.1 = path then (path, bytes) :: rest else file :: put path bytes rest

/-- The folder with a file's bytes replaced or added. -/
def store (folder : Folder) (path : String) (bytes : Text.Bytes) : Folder :=
  { folder with files := put (Path.ofParts (Path.isAbsolute path) (target path)) bytes folder.files }

/-- The folder with a text written to a file, whose parent must be a directory. -/
def writeText (folder : Folder) (path text : String) : Except OpenFault Folder :=
  match folder.place path with
  | .directory => .error (.isADirectory path)
  | .insideFile => .error (.notADirectory path)
  | .file _ => .ok (folder.store path (Text.encode text))
  | .missing =>
    match folder.walk (Path.isAbsolute path) [] (Path.parts path).dropLast with
    | .directory => .ok (folder.store path (Text.encode text))
    | _ => .error (.noSuchFile path)

end Folder

end ClientMigration
