import ClientMigration.Text.Blank
import ClientMigration.Text.CaseVariant
import ClientMigration.Text.Digit
import ClientMigration.Text.Word

/-! # Sets of characters

The sets that an expression is made of: ranges and named classes, with or without regard to case. -/

namespace ClientMigration

/-- The classes of characters that have a name in the pattern language. -/
inductive CharClass where
  | word
  | digit
  | blank
deriving DecidableEq, Repr

def CharClass.has : CharClass → Char → Bool
  | .word, c => Text.isWord c
  | .digit, c => Text.isDigit c
  | .blank, c => Text.isBlank c

/-- A member of a set of characters: a range, or a named class or its complement. -/
inductive SetItem where
  | range (first last : Char)
  | named (cls : CharClass) (complement : Bool)
deriving DecidableEq, Repr

def SetItem.has : SetItem → Char → Bool
  | .range a b, c => a ≤ c && c ≤ b
  | .named cls complement, c => cls.has c != complement

/-- Which characters count as the same: none but equal ones, or those that differ in case, in ASCII only or
    in all scripts. -/
inductive CaseFolding where
  | exact
  | ascii
  | full
deriving DecidableEq, Repr

namespace CaseFolding

/-- The characters that count as the same as one. -/
def variants : CaseFolding → Char → List Char
  | .exact, c => [c]
  | .ascii, c => Text.asciiVariants c
  | .full, c => Text.caseVariants c

/-- What characters of the same lower case have in common. -/
def key : CaseFolding → Char → Char
  | .exact, c => c
  | .ascii, c => c.toLower
  | .full, c => Text.simpleLower c

end CaseFolding

/-- The characters of some items, or all others. -/
structure CharSet where
  complement : Bool
  items : List SetItem
  fold : CaseFolding := .exact
deriving DecidableEq, Repr

namespace CharSet

/-- The characters of some items. -/
def of (items : List SetItem) : CharSet := { complement := false, items := items }

/-- All characters but those of some items. -/
def allBut (items : List SetItem) : CharSet := { complement := true, items := items }

/-- Whether some item has the character. -/
def lists (s : CharSet) (c : Char) : Bool := s.items.any (·.has c)

def has (s : CharSet) (c : Char) : Bool :=
  match s.fold with
  | .exact => s.lists c != s.complement
  | fold => (fold.variants c).any s.lists != s.complement

end CharSet

end ClientMigration
