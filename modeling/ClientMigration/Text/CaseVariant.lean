import ClientMigration.Text.Lowercase

/-! # Variants of a character in case

Two characters are variants of each other if they have the same lower case, or lower cases that have the
same upper case. -/

namespace ClientMigration.Text

/-- The lower-case characters that share their upper case. -/
def sharedUpper : List (List Nat) := [
  [0x69, 0x131], [0x73, 0x17F], [0xB5, 0x3BC], [0x345, 0x3B9, 0x1FBE], [0x390, 0x1FD3], [0x3B0, 0x1FE3],
  [0x3B2, 0x3D0], [0x3B5, 0x3F5], [0x3B8, 0x3D1], [0x3BA, 0x3F0], [0x3C0, 0x3D6], [0x3C1, 0x3F1],
  [0x3C2, 0x3C3], [0x3C6, 0x3D5], [0x432, 0x1C80], [0x434, 0x1C81], [0x43E, 0x1C82], [0x441, 0x1C83],
  [0x442, 0x1C84, 0x1C85], [0x44A, 0x1C86], [0x463, 0x1C87], [0x1C88, 0xA64B], [0x1E61, 0x1E9B],
  [0xFB05, 0xFB06]]

/-- The lower case of a character as one character. -/
def simpleLower (c : Char) : Char := if c.toNat = 0x130 then 'i' else lowerChar c

/-- The characters beyond ASCII whose lower case lies at a code point. -/
def capitalsOf (n : Nat) : List Char :=
  caseRuns.filterMap fun r =>
    let m := (n : Int) - r.offset
    if (r.first : Int) ≤ m ∧ m ≤ r.last ∧ (m.toNat - r.first) % r.stride = 0 then some (Char.ofNat m.toNat) else none

/-- The characters with a lower case. -/
def withLower (l : Char) : List Char :=
  [l, l.toUpper] ++ capitalsOf l.toNat ++ (if l = 'i' then [Char.ofNat 0x130] else [])

/-- The variants of a character, itself among them. -/
def caseVariants (c : Char) : List Char :=
  let l := simpleLower c
  let shared := (sharedUpper.find? (·.contains l.toNat)).getD [l.toNat]
  shared.flatMap fun n => withLower (Char.ofNat n)

/-- The variants of a character in ASCII. -/
def asciiVariants (c : Char) : List Char := [c, c.toLower, c.toUpper]

end ClientMigration.Text
