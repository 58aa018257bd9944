import ClientMigration.Regex.Draft
import ClientMigration.Text.Surrogate
import ClientMigration.Value.Json

/-! # Characters and sets in patterns

What stands behind a backslash, and what stands between brackets. -/

namespace ClientMigration.Regex

open Reading

/-! ### Characters -/

/-- The items of a class in ASCII, or of its complement. -/
def asciiItems (cls : CharClass) (complement : Bool) : List SetItem :=
  match cls, complement with
  | .word, false => [.range '0' '9', .range 'A' 'Z', .range '_' '_', .range 'a' 'z']
  | .word, true => [.range '\x00' '/', .range ':' '@', .range '[' '^', .range '\x60' '\x60', .range '\x7b' lastChar]
  | .digit, false => [.range '0' '9']
  | .digit, true => [.range '\x00' '/', .range ':' lastChar]
  | .blank, false => [.range '\t' '\r', .range ' ' ' ']
  | .blank, true => [.range '\x00' '\x08', .range '\x0e' '\x1f', .range '!' lastChar]
where
  lastChar : Char := Char.ofNat 0x10FFFF

/-- The letters that name a class after a backslash; a capital names its complement. -/
def classLetter? (f : Flags) (c : Char) : Option (List SetItem) :=
  let items (cls : CharClass) (complement : Bool) : List SetItem :=
    if f.ascii then asciiItems cls complement else [.named cls complement]
  match c with
  | 'w' => some (items .word false)
  | 'W' => some (items .word true)
  | 'd' => some (items .digit false)
  | 'D' => some (items .digit true)
  | 's' => some (items .blank false)
  | 'S' => some (items .blank true)
  | _ => none

/-- The control characters that have a letter after a backslash. -/
def controlLetter? : Char → Option Char
  | 'n' => some '\n'
  | 't' => some '\t'
  | 'r' => some '\r'
  | 'f' => some '\x0c'
  | 'v' => some '\x0b'
  | 'a' => some '\x07'
  | _ => none

def isHexDigit (c : Char) : Bool := (Json.hexValue? c).isSome

def isOctalDigit (c : Char) : Bool := '0' ≤ c && c ≤ '7'

/-- The number that digits of a base write. -/
def numberIn (base : Nat) (ds : List Char) : Nat :=
  ds.foldl (fun n d => base * n + (Json.hexValue? d).getD 0) 0

/-- How many hexadecimal digits follow a letter after a backslash. -/
def codeLength? : Char → Option Nat
  | 'x' => some 2
  | 'u' => some 4
  | 'U' => some 8
  | _ => none

/-- The text of an escape. -/
def escapeText (c : Char) (more : List Char) : String := String.ofList ('\\' :: c :: more)

/-- The character of a code written in so many hexadecimal digits, behind the letter. -/
def codedChar (c : Char) (n : Nat) : Reading Char := do
  let ds ← takeUpTo n isHexDigit
  if ds.length ≠ n then refuse (.incompleteEscape (escapeText c ds)) (ds.length + 2)
  let code := numberIn 16 ds
  if 0x10FFFF < code then refuse (.badEscape (escapeText c ds)) (ds.length + 2)
  return Text.charOfCode code

/-- A character by its name; there are none here. -/
def namedChar : Reading Char := do
  if !(← accept '\x7b') then refuse .missingBrace 0
  let name ← Reading.name '\x7d' "character name"
  refuse (.noSuchCharacter name) (name.length + 4)

/-- The character of octal digits behind a backslash. -/
def octalChar (ds : List Char) : Reading Char := do
  let code := numberIn 8 ds
  if 0xFF < code then refuse (.octalTooLarge (String.ofList ('\\' :: ds))) (ds.length + 1)
  return Char.ofNat code

/-- The character that a letter behind a backslash stands for, whether in a set or outside. A letter without
    a meaning is refused, and any other character stands for itself. -/
def escapedChar (c : Char) : Reading Char := do
  match controlLetter? c, codeLength? c with
  | some d, _ => return d
  | none, some n => codedChar c n
  | none, none =>
    if c = 'N' then namedChar
    else if c.isAlphanum then refuse (.badEscape (escapeText c [])) 2
    else return c

/-! ### Sets -/

/-- A member of a set: a character, or the items of a class. -/
inductive Member where
  | char (c : Char)
  | items (is : List SetItem)

def Member.toItems : Member → List SetItem
  | .char c => [.range c c]
  | .items is => is

/-- The member that an escape in a set stands for. -/
def escapedMember (f : Flags) (c : Char) : Reading Member := do
  match classLetter? f c with
  | some is => return .items is
  | none =>
    if c = 'b' then return .char '\x08'
    else if isOctalDigit c then
      let more ← takeUpTo 2 isOctalDigit
      return .char (← octalChar (c :: more))
    else return .char (← escapedChar c)

/-- The member that begins with what was taken. -/
def memberOf (f : Flags) (t : List Char) : Reading Member :=
  match t with
  | ['\\', c] => escapedMember f c
  | c :: _ => return .char c
  | [] => return .items []

/-- The range between two members, as they are written; classes are no ends of a range. -/
def rangeOf (first last : List Char) (a b : Member) : Reading (List SetItem) := do
  match a, b with
  | .char lo, .char hi =>
    if Text.codeOf lo ≤ Text.codeOf hi then return [.range lo hi]
    else refuse (.badRange (String.ofList first) (String.ofList last)) (first.length + 1 + last.length)
  | _, _ => refuse (.badRange (String.ofList first) (String.ofList last)) (first.length + 1 + last.length)

/-- The items of a set that was opened at a position, up to its closing bracket. A bracket that comes first
    stands for itself. -/
def setItems (f : Flags) (start : Nat) : (fuel : Nat) → (first : Bool) → Reading (List SetItem)
  | 0, _ => refuseAt .openSet start
  | fuel + 1, first => do
    match ← take with
    | none => refuseAt .openSet start
    | some t =>
      if t = [']'] ∧ !first then return []
      let a ← memberOf f t
      if !(← accept '-') then return a.toItems ++ (← setItems f start fuel false)
      match ← take with
      | none => refuseAt .openSet start
      | some [']'] => return a.toItems ++ [.range '-' '-']
      | some u =>
        let b ← memberOf f u
        let range ← rangeOf t u a b
        return range ++ (← setItems f start fuel false)

/-- The set that was opened at a position. -/
def setAt (f : Flags) (start : Nat) : Reading Regex := do
  let complement ← accept '^'
  let items ← setItems f start ((← get).rest.length + 1) true
  return .set { complement := complement, items := items, fold := f.fold }

end ClientMigration.Regex
