import ClientMigration.Text.CharRange

/-! # Blanks

White space of every script, with the four information separators of ASCII. The narrower class of white
space leaves the separators out. -/

namespace ClientMigration.Text

/-- The blanks, the information separators among them. -/
def blankRanges : CharRanges := [
  (0x9, 0xD), (0x1C, 0x20), (0x85, 0x85), (0xA0, 0xA0), (0x1680, 0x1680), (0x2000, 0x200A), (0x2028, 0x2029),
  (0x202F, 0x202F), (0x205F, 0x205F), (0x3000, 0x3000)]

def isBlank (c : Char) : Bool := blankRanges.contains c

/-- A blank that is no information separator. -/
def isWhiteSpace (c : Char) : Bool := isBlank c && !(0x1C ≤ c.toNat && c.toNat ≤ 0x1F)

/-- The text without the leading characters of a class. -/
def trimLeft (p : Char → Bool) (cs : List Char) : List Char := cs.dropWhile p

/-- The text without the leading and trailing characters of a class. -/
def trim (p : Char → Bool) (cs : List Char) : List Char := (trimLeft p (trimLeft p cs).reverse).reverse

/-- The text without surrounding blanks. -/
def strip (s : String) : String := String.ofList (trim isBlank s.toList)

end ClientMigration.Text
