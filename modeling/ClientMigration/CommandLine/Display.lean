import ClientMigration.Text.CellWidth

/-! # Text on a terminal

What is printed goes to files and pipes, so it steers no terminal: control sequences are left out of plain
text. Messages are freed of the controls that move the cursor, and their tabs are filled up with spaces. -/

namespace ClientMigration.CommandLine.Display

/-- A parameter of a control sequence. -/
def isParameter (c : Char) : Bool := '0' ≤ c && c ≤ '?'

/-- A character between the parameters of a control sequence and its last character. -/
def isIntermediate (c : Char) : Bool := ' ' ≤ c && c ≤ '/'

/-- The last character of a control sequence. -/
def isFinal (c : Char) : Bool := '@' ≤ c && c ≤ '~'

/-- The length of the control sequence at the front of a text. -/
def sequenceLength? : List Char → Option Nat
  | '\x1b' :: '[' :: rest =>
    let parameters := rest.takeWhile isParameter
    let intermediates := (rest.drop parameters.length).takeWhile isIntermediate
    let inside := parameters.length + intermediates.length
    if (rest.drop inside).head?.any isFinal then some (inside + 3) else none
  | _ => none

/-- The text without control sequences, where `skip` characters of one are still to be passed. -/
def plainFrom : (skip : Nat) → List Char → List Char
  | _, [] => []
  | skip + 1, _ :: cs => plainFrom skip cs
  | 0, c :: cs =>
    match sequenceLength? (c :: cs) with
    | some n => plainFrom (n - 1) cs
    | none => c :: plainFrom 0 cs

/-- The text without control sequences. -/
def plain (s : String) : String := String.ofList (plainFrom 0 s.toList)

/-- The controls that ring, or move the cursor other than to the next line or tab stop. -/
def movesCursor (c : Char) : Bool := ['\x07', '\x08', '\x0b', '\x0c', '\r'].contains c

/-- A tab stop is at every eighth cell. -/
def tabWidth : Nat := 8

/-- The text with spaces up to the next tab stop for each tab, from a cell of its line on. -/
def expandTabs : (cell : Nat) → List Char → List Char
  | _, [] => []
  | cell, c :: cs =>
    if c = '\n' then c :: expandTabs 0 cs
    else if c = '\t' then
      let stop := (cell / tabWidth + 1) * tabWidth
      List.replicate (stop - cell) ' ' ++ expandTabs stop cs
    else c :: expandTabs (cell + Text.cellWidth c) cs

/-- A message as it is printed. -/
def message (s : String) : String := String.ofList (expandTabs 0 (s.toList.filter fun c => !movesCursor c))

end ClientMigration.CommandLine.Display
