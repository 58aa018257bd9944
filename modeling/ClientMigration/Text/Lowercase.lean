import ClientMigration.Text.CaseTable

/-! # Lower case

Full lower-casing: each character goes to its partner, a capital I with a dot above to two characters,
and a capital sigma to its final form at the end of a word. -/

namespace ClientMigration.Text

/-- The lower-case partner of a character; itself if it has none. -/
def lowerChar (c : Char) : Char :=
  if c.toNat < 128 then c.toLower
  else
    let n := c.toNat
    match caseRuns.find? fun r => r.first ≤ n && n ≤ r.last && (n - r.first) % r.stride == 0 with
    | some r => Char.ofNat ((n : Int) + r.offset).toNat
    | none => c

/-- The first character that is not passed over has case. -/
def meetsCased (cs : List Char) : Bool :=
  match cs.dropWhile caseIgnorableRanges.contains with
  | c :: _ => casedRanges.contains c
  | [] => false

/-- The lower-case form of one character between what precedes it, nearest first, and what follows. -/
def lowerAt (before : List Char) (c : Char) (after : List Char) : List Char :=
  if c == Char.ofNat 0x130 then ['i', Char.ofNat 0x307]
  else if c == Char.ofNat 0x3A3 then
    [if meetsCased before && !meetsCased after then Char.ofNat 0x3C2 else Char.ofNat 0x3C3]
  else [lowerChar c]

def lowerFrom (before : List Char) : List Char → List Char
  | [] => []
  | c :: after => lowerAt before c after ++ lowerFrom (c :: before) after

/-- The text in lower case. -/
def lower (s : String) : String := String.ofList (lowerFrom [] s.toList)

end ClientMigration.Text
