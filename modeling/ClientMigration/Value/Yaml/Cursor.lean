/-! # Places in a YAML document

A place knows its line and column, because indentation gives a document its shape. Apart from the newline,
a few other characters end a line. -/

namespace ClientMigration.Yaml

/-- A character that ends a line. -/
def isBreak (c : Char) : Bool :=
  c == '\n' || c == '\r' || c.toNat == 0x85 || c.toNat == 0x2028 || c.toNat == 0x2029

def isBlank (c : Char) : Bool := c == ' ' || c == '\t'

/-- Whether what comes next separates words: a blank, the end of a line or of the document. -/
def isGap : Option Char → Bool
  | none => true
  | some c => isBlank c || isBreak c

/-- Whether what comes next ends a line. -/
def endsLine : Option Char → Bool
  | none => true
  | some c => isBreak c

/-- The mark that may open a document; it takes no column. -/
def byteOrderMark : Char := Char.ofNat 0xFEFF

/-- A place: the characters ahead of it, how many lie behind it, and its line and column. -/
structure Cursor where
  ahead : List Char
  index : Nat := 0
  line : Nat := 0
  column : Nat := 0
deriving DecidableEq, Repr

namespace Cursor

def peek (c : Cursor) : Option Char := c.ahead.head?

def peekAt (c : Cursor) (n : Nat) : Option Char := (c.ahead.drop n).head?

/-- The place after so many characters of the same line. -/
def advance (c : Cursor) (n : Nat) : Cursor :=
  { c with
    ahead := c.ahead.drop n
    index := c.index + n
    column := c.column + (c.ahead.take n).countP (· != byteOrderMark) }

/-- The place after the characters of a class, all of the same line. -/
def skipWhile (p : Char → Bool) (c : Cursor) : Cursor := c.advance (c.ahead.takeWhile p).length

/-- The place after the rest of the line. -/
def skipLine (c : Cursor) : Cursor := c.skipWhile fun ch => !isBreak ch

/-- The end of the line that comes next, as it counts in a scalar, and the place after it. -/
def lineBreak? (c : Cursor) : Option (Char × Cursor) :=
  match c.ahead with
  | '\r' :: '\n' :: rest => some ('\n', ⟨rest, c.index + 2, c.line + 1, 0⟩)
  | ch :: rest =>
    if isBreak ch then
      some (if ch.toNat < 0x2028 then '\n' else ch, ⟨rest, c.index + 1, c.line + 1, 0⟩)
    else none
  | [] => none

/-- Whether a mark of three characters stands alone at the place. -/
def atMark (mark : String) (c : Cursor) : Bool := mark.toList.isPrefixOf c.ahead && isGap (c.peekAt 3)

/-- Whether a document begins or ends at the place, which begins a line. -/
def atDocumentMark (c : Cursor) : Bool := c.atMark "---" || c.atMark "..."

/-- Enough turns for any loop that moves on with each. -/
def fuel (c : Cursor) : Nat := c.ahead.length + 1

end Cursor

end ClientMigration.Yaml
