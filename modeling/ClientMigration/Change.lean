import ClientMigration.Dialect
import ClientMigration.Text.Lines
import ClientMigration.Text.Literal
import ClientMigration.Value.Basic

/-! # Changes

The log of what was changed in a file, and the renames of methods. A dialect with camel-case commands has
each of them put into lower case, one rename after the other, on every line that calls it. -/

namespace ClientMigration

inductive ChangeKind where
  | rename
  | conversion
deriving DecidableEq, Repr

def ChangeKind.name : ChangeKind → String
  | .rename => "method-rename"
  | .conversion => "pattern-conversion"

/-- One change, at a line counted from one. -/
structure Change where
  kind : ChangeKind
  line : Int
  before : String
  converted : String
  reasoning : String
deriving DecidableEq, Repr

def Change.toValue (c : Change) : Value :=
  .object [("type", .str c.kind.name), ("line", .ofInt c.line), ("original", .str c.before),
    ("converted", .str c.converted), ("reasoning", .str c.reasoning)]

/-- A call of a method, and the call to write for it. -/
structure Rename where
  call : String
  replacement : String
deriving DecidableEq, Repr

namespace Rename

def reason : String := "Convert camelCase to lowercase"

/-- The renames of a dialect, in the order in which they are made. -/
def forDialect : Dialect → List Rename
  | .ioredis => []
  | .nodeRedis =>
    [⟨".hSet(", ".hset("⟩, ⟨".hGet(", ".hget("⟩, ⟨".hGetAll(", ".hgetall("⟩, ⟨".hDel(", ".hdel("⟩,
     ⟨".lPush(", ".lpush("⟩, ⟨".rPush(", ".rpush("⟩, ⟨".sAdd(", ".sadd("⟩, ⟨".sMembers(", ".smembers("⟩,
     ⟨".zAdd(", ".zadd("⟩, ⟨".zRange(", ".zrange("⟩]

/-- The line with the method renamed. -/
def onLine (r : Rename) (line : String) : String := Text.replace line r.call r.replacement

/-- The change of a line that calls the method. -/
def change? (r : Rename) (line : String) (index : Nat) : Option Change :=
  if Text.contains line r.call then
    some ⟨.rename, Int.ofNat index + 1, line, r.onLine line, reason⟩
  else none

/-- The changes that a rename makes to some lines. -/
def changes (r : Rename) (lines : List String) : List Change :=
  lines.zipIdx.filterMap fun (line, index) => r.change? line index

/-- The lines after some renames, one upon the other, and the changes they made. -/
def onLines : List Rename → List String → List String × List Change
  | [], lines => (lines, [])
  | r :: rest, lines =>
    let (final, later) := onLines rest (lines.map r.onLine)
    (final, r.changes lines ++ later)

/-- The text with the methods of a dialect renamed, and the changes made. -/
def apply (d : Dialect) (text : String) : String × List Change :=
  let (lines, changes) := onLines (forDialect d) (Text.lines text)
  (Text.joinLines lines, changes)

end Rename

end ClientMigration
