import ClientMigration.Text.Surrogate
import ClientMigration.Value.Json
import ClientMigration.Value.Yaml.Cursor
import ClientMigration.Value.Yaml.Trouble

/-! # Text of scalars

A scalar is plain, in quotes, or a block of lines. Where its text goes over several lines, a line's end
counts as a space, and blank lines count as line ends; a literal block keeps its lines as they are. -/

namespace ClientMigration.Yaml

/-- What a line's end followed by blank lines counts as. -/
def foldedBreak (first : Char) (further : List Char) : List Char :=
  if first != '\n' then first :: further else if further.isEmpty then [' '] else further

/-! ### Quoted scalars -/

/-- The characters that have a letter after a backslash. -/
def escape? : Char → Option Char
  | '0' => some '\x00'
  | 'a' => some '\x07'
  | 'b' => some '\x08'
  | 't' => some '\t'
  | '\t' => some '\t'
  | 'n' => some '\n'
  | 'v' => some '\x0b'
  | 'f' => some '\x0c'
  | 'r' => some '\r'
  | 'e' => some '\x1b'
  | ' ' => some ' '
  | '"' => some '"'
  | '/' => some '/'
  | '\\' => some '\\'
  | 'N' => some (Char.ofNat 0x85)
  | '_' => some (Char.ofNat 0xA0)
  | 'L' => some (Char.ofNat 0x2028)
  | 'P' => some (Char.ofNat 0x2029)
  | _ => none

/-- How many hexadecimal digits follow a letter after a backslash. -/
def codeLength? : Char → Option Nat
  | 'x' => some 2
  | 'u' => some 4
  | 'U' => some 8
  | _ => none

def isHex (c : Char) : Bool := (Json.hexValue? c).isSome

/-- The number that digits of a base write, underscores left out. -/
def inBase (base : Nat) (cs : List Char) : Nat :=
  (cs.filter (· != '_')).foldl (fun n c => base * n + (Json.hexValue? c).getD 0) 0

/-- The character of a code. -/
def character (code : Nat) : Except Trouble Char :=
  if code ≤ 0x10FFFF then .ok (Text.charOfCode code) else .error (.noCharacter code)

/-- The ends of blank lines in a quoted scalar, from the start of a line on. A document may not begin or end
    there. -/
def blankLines : (fuel : Nat) → Cursor → Except Trouble (List Char × Cursor)
  | 0, _ => .error .malformed
  | fuel + 1, c =>
    if c.atDocumentMark then .error .malformed
    else
      let c := c.skipWhile isBlank
      match c.lineBreak? with
      | none => .ok ([], c)
      | some (b, c) => do
        let (bs, c) ← blankLines fuel c
        return (b :: bs, c)

/-- What blanks and line ends at a place of a quoted scalar count as. -/
def quotedGap (c : Cursor) : Except Trouble (List Char × Cursor) :=
  let after := c.skipWhile isBlank
  match after.lineBreak? with
  | none => .ok (c.ahead.takeWhile isBlank, after)
  | some (b, c) => do
    let (bs, c) ← blankLines c.fuel c
    return (foldedBreak b bs, c)

/-- What stands behind a backslash: a letter, digits, or the end of a line, which joins two lines. -/
def escaped (c : Cursor) : Except Trouble (List Char × Cursor) :=
  match c.peek with
  | none => .error .malformed
  | some letter =>
    match escape? letter, codeLength? letter, c.lineBreak? with
    | some e, _, _ => .ok ([e], c.advance 1)
    | none, some n, _ =>
      let digits := (c.ahead.drop 1).take n
      if digits.length = n ∧ digits.all isHex then do return ([← character (inBase 16 digits)], c.advance (n + 1))
      else .error .malformed
    | none, none, some (_, c) => blankLines c.fuel c
    | none, none, none => .error .malformed

/-- The text of a scalar in double quotes, from behind the opening one; `done` holds what is read, last
    first. -/
def doubleQuoted : (fuel : Nat) → (done : List Char) → Cursor → Except Trouble (List Char × Cursor)
  | 0, _, _ => .error .malformed
  | fuel + 1, done, c =>
    match c.peek with
    | none => .error .malformed
    | some '"' => .ok (done.reverse, c.advance 1)
    | some '\\' => do
      let (text, c) ← escaped (c.advance 1)
      doubleQuoted fuel (text.reverse ++ done) c
    | some ch =>
      if isGap (some ch) then do
        let (text, c) ← quotedGap c
        doubleQuoted fuel (text.reverse ++ done) c
      else doubleQuoted fuel (ch :: done) (c.advance 1)

/-- The text of a scalar in single quotes, from behind the opening one. A quote inside is written twice. -/
def singleQuoted : (fuel : Nat) → (done : List Char) → Cursor → Except Trouble (List Char × Cursor)
  | 0, _, _ => .error .malformed
  | fuel + 1, done, c =>
    match c.peek with
    | none => .error .malformed
    | some '\'' =>
      if c.peekAt 1 = some '\'' then singleQuoted fuel ('\'' :: done) (c.advance 2)
      else .ok (done.reverse, c.advance 1)
    | some ch =>
      if isGap (some ch) then do
        let (text, c) ← quotedGap c
        singleQuoted fuel (text.reverse ++ done) c
      else singleQuoted fuel (ch :: done) (c.advance 1)

/-! ### Plain scalars -/

/-- The brackets and the comma of flow collections. -/
def isFlowMark (c : Char) : Bool := [',', '[', ']', '\x7b', '\x7d'].contains c

/-- How many characters a plain scalar has before its next gap. -/
def plainLength (inFlow : Bool) : List Char → Nat
  | [] => 0
  | c :: cs =>
    if isGap (some c) || (c == ':' && (isGap cs.head? || (inFlow && cs.head?.any isFlowMark))) ||
        (inFlow && (c == '?' || isFlowMark c)) then 0
    else plainLength inFlow cs + 1

/-- What stands between two words of a plain scalar: its text, whether a line ends there, and the place
    behind it. No text ends the scalar. -/
structure PlainGap where
  text : List Char
  newLine : Bool
  after : Cursor

/-- The ends of blank lines in a plain scalar, from the start of a line on. None if a document begins or
    ends there. -/
def plainBlankLines : (fuel : Nat) → Cursor → Option (List Char) × Cursor
  | 0, c => (none, c)
  | fuel + 1, c =>
    if c.atDocumentMark then (none, c)
    else
      let c := c.skipWhile (· == ' ')
      match c.lineBreak? with
      | none => (some [], c)
      | some (b, c) =>
        let (bs, c) := plainBlankLines fuel c
        (bs.map (b :: ·), c)

/-- The gap at a place of a plain scalar. -/
def plainGap (c : Cursor) : PlainGap :=
  let after := c.skipWhile (· == ' ')
  match after.lineBreak? with
  | none => ⟨c.ahead.takeWhile (· == ' '), false, after⟩
  | some (b, c) =>
    let (bs, c) := plainBlankLines c.fuel c
    ⟨(bs.map (foldedBreak b)).getD [], true, c⟩

/-- The text of a plain scalar, whether a line ends behind it, and the place it ends at. Outside flow
    collections it ends at a line that is not indented as deep as `least`. -/
def plainText (inFlow : Bool) (least : Int) : (fuel : Nat) → (done : List Char) → (gap : PlainGap) →
    List Char × Bool × Cursor
  | 0, done, gap => (done.reverse, gap.newLine, gap.after)
  | fuel + 1, done, gap =>
    let c := gap.after
    let n := plainLength inFlow c.ahead
    if n = 0 ∨ c.peek = some '#' then (done.reverse, gap.newLine, c)
    else
      let done := (c.ahead.take n).reverse ++ gap.text.reverse ++ done
      let next := plainGap (c.advance n)
      if next.text.isEmpty ∨ next.after.peek = some '#' ∨ (!inFlow ∧ (next.after.column : Int) < least) then
        (done.reverse, next.newLine, next.after)
      else plainText inFlow least fuel done next

/-- The plain scalar at a place. -/
def plainScalar (inFlow : Bool) (least : Int) (c : Cursor) : List Char × Bool × Cursor :=
  plainText inFlow least c.fuel [] ⟨[], false, c⟩

/-! ### Blocks of lines -/

/-- What becomes of the line ends behind a block: all but one are dropped, all of them, or none. -/
inductive Chomping where
  | clip
  | strip
  | keep
deriving DecidableEq, Repr

/-- What is said in front of a block: what becomes of its last line ends, and how deep it is indented. -/
structure BlockHeader where
  chomping : Chomping := .clip
  depth : Option Nat := none

def chomping? : Option Char → Option Chomping
  | some '+' => some .keep
  | some '-' => some .strip
  | _ => none

/-- A depth of indentation is a digit other than zero. -/
def depth? (c : Option Char) : Except Trouble (Option Nat) :=
  match c.filter Char.isDigit with
  | none => .ok none
  | some '0' => .error .malformed
  | some d => .ok (some (d.toNat - '0'.toNat))

/-- The header of a block; a comment may follow on its line. -/
def blockHeader (c : Cursor) : Except Trouble (BlockHeader × Cursor) := do
  let (header, c) ←
    match chomping? c.peek with
    | some chomping =>
      match ← depth? (c.peekAt 1) with
      | some n => pure (⟨chomping, some n⟩, c.advance 2)
      | none => pure (⟨chomping, none⟩, c.advance 1)
    | none =>
      match ← depth? c.peek with
      | some n =>
        match chomping? (c.peekAt 1) with
        | some chomping => pure (⟨chomping, some n⟩, c.advance 2)
        | none => pure (⟨.clip, some n⟩, c.advance 1)
      | none => pure ({}, c)
  if c.peek = some '\t' ∨ !isGap c.peek then throw .malformed
  let c := c.skipWhile (· == ' ')
  let c := if c.peek = some '#' then c.skipLine else c
  if !endsLine c.peek then throw .malformed
  return (header, (c.lineBreak?.map (·.2)).getD c)

/-- The ends of blank lines in front of a block, and the deepest indentation on the way. -/
def leadingLines : (fuel : Nat) → (deepest : Nat) → Cursor → List Char × Nat × Cursor
  | 0, deepest, c => ([], deepest, c)
  | fuel + 1, deepest, c =>
    let c := c.skipWhile (· == ' ')
    let deepest := max deepest c.column
    match c.lineBreak? with
    | none => ([], deepest, c)
    | some (b, c) =>
      let (bs, deepest, c) := leadingLines fuel deepest c
      (b :: bs, deepest, c)

/-- The ends of lines that are blank up to a depth. -/
def emptyLines (depth : Nat) : (fuel : Nat) → Cursor → List Char × Cursor
  | 0, c => ([], c)
  | fuel + 1, c =>
    let spaces := (c.ahead.takeWhile (· == ' ')).length
    let c := c.advance (min spaces (depth - c.column))
    match c.lineBreak? with
    | none => ([], c)
    | some (b, c) =>
      let (bs, c) := emptyLines depth fuel c
      (b :: bs, c)

/-- Whether a line of a block begins at the place. -/
def atLine (depth : Nat) (c : Cursor) : Bool := c.column == depth && !c.ahead.isEmpty

/-- What is read of a block: its text, last character first, its last line's end, and those of the blank
    lines behind it. -/
structure BlockDraft where
  done : List Char := []
  lineEnd : List Char := []
  blank : List Char := []

/-- The lines of a block. In a folded block the end of a line counts as a space between two lines that begin
    with no blank. -/
def blockLines (folded : Bool) (depth : Nat) : (fuel : Nat) → BlockDraft → Cursor → BlockDraft × Cursor
  | 0, draft, c => (draft, c)
  | fuel + 1, draft, c =>
    if !atLine depth c then (draft, c)
    else
      let text := c.ahead.takeWhile fun ch => !isBreak ch
      let done := text.reverse ++ draft.blank.reverse ++ draft.done
      let flush (c : Cursor) : Bool := !c.peek.any isBlank
      let next := c.advance text.length
      let (lineEnd, next) :=
        match next.lineBreak? with
        | some (b, next) => ([b], next)
        | none => ([], next)
      let (blank, next) := emptyLines depth next.fuel next
      if !atLine depth next then (⟨done, lineEnd, blank⟩, next)
      else
        let joint :=
          if folded ∧ lineEnd = ['\n'] ∧ flush c ∧ flush next then (if blank.isEmpty then [' '] else [])
          else lineEnd
        blockLines folded depth fuel ⟨joint ++ done, [], blank⟩ next

/-- The text of a block, from behind the mark that opens it, for a parent at a depth of indentation. -/
def blockScalar (folded : Bool) (parent : Int) (c : Cursor) : Except Trouble (List Char × Cursor) := do
  let (header, c) ← blockHeader c
  let least := (max (parent + 1) 1).toNat
  let (blank, depth, c) :=
    match header.depth with
    | none =>
      let (blank, deepest, c) := leadingLines c.fuel 0 c
      (blank, max least deepest, c)
    | some n =>
      let depth := least + n - 1
      let (blank, c) := emptyLines depth c.fuel c
      (blank, depth, c)
  let (draft, c) := blockLines folded depth c.fuel { blank := blank } c
  let tail :=
    match header.chomping with
    | .strip => []
    | .clip => draft.lineEnd
    | .keep => draft.lineEnd ++ draft.blank
  return (draft.done.reverse ++ tail, c)

end ClientMigration.Yaml
