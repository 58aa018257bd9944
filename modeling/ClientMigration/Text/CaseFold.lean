import ClientMigration.Text.Lowercase

/-! # Texts that differ in case only

Some characters beyond ASCII differ from letters of ASCII in case only: the long and the sharp s, and the
ligatures. Folding goes from these to the letters, and to lower case otherwise. -/

namespace ClientMigration.Text

/-- The letters of ASCII that a character folds to beside its lower case. -/
def foldedLetters? (c : Char) : Option String :=
  match c.toNat with
  | 0xDF | 0x1E9E => some "ss"
  | 0x17F => some "s"
  | 0xFB00 => some "ff"
  | 0xFB01 => some "fi"
  | 0xFB02 => some "fl"
  | 0xFB03 => some "ffi"
  | 0xFB04 => some "ffl"
  | 0xFB05 | 0xFB06 => some "st"
  | _ => none

/-- A text to be compared with one in ASCII without regard to case. -/
def folded (s : String) : String :=
  String.ofList (s.toList.flatMap fun c => ((foldedLetters? c).map (·.toList)).getD [lowerChar c])

end ClientMigration.Text
