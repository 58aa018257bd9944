import ClientMigration.CommandLine.Run
import Std.Time.DateTime

/-! # The program

Looks at the files that the words of the command line may name, runs the command on them as a value, and
carries out what the run leaves: the printed text, the changed files and the code. -/

namespace ClientMigration.Program

open CommandLine

/-- The paths that a word may name: the word, what follows an equals sign in it, or what follows a letter
    of an option. -/
def pathsIn (word : String) : List String :=
  let cs := word.toList
  [word, String.ofList ((cs.dropWhile (· != '=')).drop 1), String.ofList (cs.drop 2)]

/-- A path and the directories on the way to it, as a folder names them. -/
def steps (path : String) : List String :=
  let parts := Path.parts path
  (List.range (parts.length + 1)).map fun n =>
    Path.ofParts (Path.isAbsolute path) ((parts.take n).foldl Path.enter [])

/-- The paths to look at before a run. -/
def candidates (host : Host) (args : List String) : List String :=
  let home := (Settings.home? host.accountHome host.environment).toList.map (Path.within · Settings.fileName)
  ((Settings.fileName :: home ++ args.flatMap pathsIn).flatMap steps).eraseDups

/-- The folder with what is found on the disk at a path. -/
def look (folder : Folder) (path : String) : IO Folder := do
  let here ← IO.currentDir
  let target := here / path
  if ← target.isDir then return { folder with directories := path :: folder.directories }
  if ← target.pathExists then
    let bytes ← IO.FS.readBinFile target
    return { folder with files := folder.files ++ [(path, bytes.data.toList)] }
  return folder

/-- The lines of a file, or the fields that some other character ends; none if the file cannot be read. -/
def fieldsOf (path : String) (ending : Char) : IO (List String) := do
  let bytes ← try IO.FS.readBinFile path catch _ => return []
  return (String.fromUTF8? bytes).elim [] fun text => (text.split (· == ending)).toStringList

/-- The variables that are set, under names in any letter case. -/
def environment : IO Environment := do
  return (← fieldsOf "/proc/self/environ" '\x00').filterMap fun field =>
    let name := field.toList.takeWhile (· != '=')
    if name.isEmpty then none
    else some (String.ofList name, String.ofList (field.toList.drop (name.length + 1)))

/-- The home directory of the account that runs the program. -/
def accountHome : IO (Option String) := do
  let fields (line : String) (mark : Char) : List String := (line.split (· == mark)).toStringList
  let user := (← fieldsOf "/proc/self/status" '\n').findSome? fun line =>
    match fields line '\t' with
    | "Uid:" :: user :: _ => some user
    | _ => none
  return (← fieldsOf "/etc/passwd" '\n').findSome? fun line =>
    match fields line ':' with
    | _ :: _ :: owner :: _ :: _ :: home :: _ => if some owner == user then some home else none
    | _ => none

/-- A number with zeros in front of it. -/
def padded (width : Nat) (n : Int) : String :=
  let digits := toString n.toNat
  String.ofList (List.replicate (width - digits.length) '0') ++ digits

/-- The time of day and the date, without an offset from universal time. -/
def currentTime : IO String := do
  let now ← Std.Time.Timestamp.now
  let t := Std.Time.PlainDateTime.ofWallTime (now.toWallTime Std.Time.TimeZone.Offset.zero)
  let date := padded 4 t.year.toInt ++ "-" ++ padded 2 t.month.val ++ "-" ++ padded 2 t.day.val
  let time := padded 2 t.hour.val ++ ":" ++ padded 2 t.minute.val ++ ":" ++ padded 2 t.second.val
  return date ++ "T" ++ time ++ "." ++ padded 6 (t.nanosecond.val / 1000) ++ "+00:00"

/-- Write the files that differ from those before the run. -/
def store (before after : Folder) : IO Unit := do
  let here ← IO.currentDir
  for (path, bytes) in after.files do
    if before.files.lookup path != some bytes then
      IO.FS.writeBinFile (here / path) ⟨bytes.toArray⟩

/-- What the program finds around it. Why a document or settings cannot be read is said in one text for all reasons. -/
def host : IO Host := do
  return { working := (← IO.currentDir).toString
           accountHome := ← accountHome
           environment := ← environment
           now := ← currentTime
           console := .plain
           wording := ⟨fun _ => "not a TOML document", fun os => s!"{os.length} invalid settings"⟩
           documentFlaw := fun _ => "not a YAML document" }

def run (args : List String) : IO UInt32 := do
  let host ← host
  let folder ← (candidates host args).foldlM look {}
  let exit := CommandLine.run host folder args
  store folder exit.workspace.folder
  (← IO.getStdout).putStr exit.workspace.out
  (← IO.getStderr).putStr exit.workspace.err
  for b in exit.uncaught do (← IO.getStderr).putStrLn (b.message host.wording)
  return UInt32.ofNat exit.code

end ClientMigration.Program

def main (args : List String) : IO UInt32 := ClientMigration.Program.run args
