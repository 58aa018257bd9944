/-! # Lines

A line ends only at a newline character, so a text has one line more than it has newlines, and the empty
text has one. -/

namespace ClientMigration.Text

/-- The first piece grows by one character at its front. -/
def consHead (c : Char) : List (List Char) → List (List Char)
  | [] => [[c]]
  | piece :: pieces => (c :: piece) :: pieces

/-- The pieces of a text between its newline characters. -/
def splitLines : List Char → List (List Char)
  | [] => [[]]
  | c :: cs => if c = '\n' then [] :: splitLines cs else consHead c (splitLines cs)

/-- The lines of a text. -/
def lines (s : String) : List String := (splitLines s.toList).map String.ofList

/-- The text with these lines. -/
def joinLines (ls : List String) : String := String.intercalate "\n" ls

/-- Carriage returns, alone or before a newline, become newlines. -/
def unifyNewlines : List Char → List Char
  | [] => []
  | '\r' :: '\n' :: cs => '\n' :: unifyNewlines cs
  | c :: cs => (if c = '\r' then '\n' else c) :: unifyNewlines cs

end ClientMigration.Text
