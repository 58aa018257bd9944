import ClientMigration.Catalog.Basic
import ClientMigration.Settings.Basic
import ClientMigration.Source.Enclosing
import ClientMigration.Source.Snippet
import ClientMigration.Text.Lines

/-! # Sightings

An idiom is sighted on a line if one of its patterns matches there. A sighting keeps a window of lines
around it, cut off at the ends of the text, and what the window shows. -/

namespace ClientMigration

/-- Lines are counted from zero; the window reaches from `first` to `last`, both included. -/
structure Sighting where
  first : Int
  last : Int
  line : Int
  code : String
  methods : List String := []
  declared : List String := []
  dependencies : List String := []
  surroundings : Surroundings := {}
deriving DecidableEq, Repr

namespace Sighting

/-- The line number as shown to people, counted from one. -/
def lineNumber (s : Sighting) : Int := s.line + 1

def toValue (s : Sighting) : Value :=
  .object [("start_line", .ofInt s.first), ("end_line", .ofInt s.last), ("line", .ofInt s.line),
    ("source_code", .str s.code), ("methods", .texts s.methods), ("variables", .texts s.declared),
    ("dependencies", .texts s.dependencies), ("context", s.surroundings.toValue)]

/-- The first line of the window around a line. -/
def windowFirst (s : Settings.Scanner) (index : Nat) : Nat := index - s.contextBefore

/-- The last line of the window around a line, of so many lines. -/
def windowLast (s : Settings.Scanner) (count index : Nat) : Nat := min (count - 1) (index + s.contextAfter)

/-- The lines of the window around a line. -/
def window (s : Settings.Scanner) (lines : List String) (index : Nat) : List String :=
  (lines.drop (windowFirst s index)).take (windowLast s lines.length index + 1 - windowFirst s index)

/-- The sighting on a line. -/
def ofLine (s : Settings.Scanner) (lines : List String) (index : Nat) (enclosing : Enclosing) : Sighting :=
  let code := Text.joinLines (window s lines index)
  let cs := code.toList
  { first := windowFirst s index
    last := windowLast s lines.length index
    line := index
    code := code
    methods := Snippet.methods cs
    declared := Snippet.declared cs
    dependencies := Snippet.dependencies cs
    surroundings := .ofCode cs enclosing.className enclosing.functionName }

/-- Whether one of the patterns matches on the line. -/
def onLine (patterns : List Pattern) (line : String) : Bool := patterns.any (·.matches? line)

/-- The sightings of some patterns, at most one on each line; `around` holds what encloses each line. -/
def ofPatterns (s : Settings.Scanner) (lines : List String) (around : List Enclosing) (patterns : List Pattern) :
    List Sighting :=
  ((lines.zip around).zipIdx.filter fun ((line, _), _) => onLine patterns line).map
    fun ((_, enclosing), index) => ofLine s lines index enclosing

/-- The sightings of each signature of a catalog that has any, in the order of registration. -/
def scan (s : Settings.Scanner) (c : Catalog) (source : String) (d : Dialect) : List (Idiom × List Sighting) :=
  if source.isEmpty then []
  else
    let lines := Text.lines source
    let around := Enclosing.ofLines lines
    (c.entries.map fun e => (e.idiom, ofPatterns s lines around (e.patternsFor d))).filter
      fun (_, found) => !found.isEmpty

end Sighting

end ClientMigration
