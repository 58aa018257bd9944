import ClientMigration.Text.Lines

/-! # Literal occurrences

The occurrences of a target in a text are found from left to right and do not overlap. They cut the text
into pieces: one more than there are occurrences. Counting and replacing read off those pieces. -/

namespace ClientMigration.Text

/-- Whether the target occurs anywhere in the text; the empty target does. -/
def occursIn (target : List Char) : List Char → Bool
  | [] => target.isEmpty
  | c :: cs => target.isPrefixOf (c :: cs) || occursIn target cs

/-- The pieces of a text around a target, where `skip` characters of the last occurrence are still to be
    passed. -/
def piecesFrom (target : List Char) : (skip : Nat) → List Char → List (List Char)
  | _, [] => [[]]
  | skip + 1, _ :: cs => piecesFrom target skip cs
  | 0, c :: cs =>
    if target.isPrefixOf (c :: cs) then [] :: piecesFrom target (target.length - 1) cs
    else consHead c (piecesFrom target 0 cs)

/-- The pieces of a text between the occurrences of a target that is not empty. -/
def pieces (target text : List Char) : List (List Char) := piecesFrom target 0 text

/-- How often the target occurs. -/
def countOf (target text : List Char) : Nat := (pieces target text).length - 1

/-- The text with the replacement in place of every occurrence of the target. -/
def replaceAll (target replacement text : List Char) : List Char :=
  List.intercalate replacement (pieces target text)

/-- The number, from one, of the line on which the target first begins. -/
def firstLine? (target text : List Char) : Option Nat :=
  match pieces target text with
  | before :: _ :: _ => some (before.count '\n' + 1)
  | _ => none

/-- Whether one string occurs in another. -/
def contains (s target : String) : Bool := occursIn target.toList s.toList

/-- A string with every occurrence of the target replaced. -/
def replace (s target replacement : String) : String :=
  String.ofList (replaceAll target.toList replacement.toList s.toList)

end ClientMigration.Text
