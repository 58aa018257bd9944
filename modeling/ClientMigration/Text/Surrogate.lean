/-! # Surrogates

Texts that are written in units of sixteen bits may hold surrogates without their partners. These are no
characters; in a text, each is held by an unassigned character of its own. -/

namespace ClientMigration.Text

def isSurrogate (n : Nat) : Bool := 0xD800 ≤ n && n < 0xE000

/-- How far above a surrogate the character lies that holds it. -/
def surrogateShift : Nat := 0xD0000

/-- The character of a code point, which may be a surrogate. -/
def charOfCode (n : Nat) : Char := Char.ofNat (if isSurrogate n then n + surrogateShift else n)

/-- The code point that a character stands for. -/
def codeOf (c : Char) : Nat :=
  if surrogateShift ≤ c.toNat && isSurrogate (c.toNat - surrogateShift) then c.toNat - surrogateShift else c.toNat

end ClientMigration.Text
