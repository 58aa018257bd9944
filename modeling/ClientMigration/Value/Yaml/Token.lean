import ClientMigration.Text.Utf8
import ClientMigration.Value.Yaml.Scalar

/-! # Tokens of YAML

A document is cut into tokens, which show where block collections begin and end by its indentation. Whether
a token is a key shows only at the colon behind it, so the tokens that say so are put before it afterwards. -/

namespace ClientMigration.Yaml

/-- A line that says how a document is to be read. -/
inductive Directive where
  | version (major : Nat)
  | handle (name stem : String)
  | other
deriving DecidableEq, Repr

inductive Token where
  | directive (d : Directive)
  | documentStart
  | documentEnd
  | blockSequence
  | blockMapping
  | blockEnd
  | flowSequence
  | flowSequenceEnd
  | flowMapping
  | flowMappingEnd
  | blockEntry
  | flowEntry
  | key
  | value
  | alias (name : String)
  | anchor (name : String)
  | tag (handle : Option String) (suffix : String)
  | scalar (text : String) (plain : Bool)
deriving DecidableEq, Repr

/-! ### Names and tags -/

def isNameChar (c : Char) : Bool := c.isAlphanum || c == '-' || c == '_'

/-- The characters that may follow a name. -/
def endsName (c : Option Char) : Bool :=
  isGap c || c.any ['?', ':', ',', ']', '\x7d', '%', '@', '\x60'].contains

/-- The name of an anchor, from behind its mark. -/
def anchorName (c : Cursor) : Except Trouble (String × Cursor) :=
  let name := c.ahead.takeWhile isNameChar
  let after := c.advance name.length
  if name.isEmpty ∨ !endsName after.peek then .error .malformed else .ok (String.ofList name, after)

def isTagChar (c : Char) : Bool := c.isAlphanum || "-;/?:@&=+$,_.!~*'()[]%".toList.contains c

/-- The bytes that begin a text, each a percent sign and two hexadecimal digits, and what follows them. -/
def percentBytes : List Char → Except Trouble (List UInt8 × List Char)
  | '%' :: a :: b :: rest =>
    if isHex a ∧ isHex b then do
      let (bytes, rest) ← percentBytes rest
      return (UInt8.ofNat (inBase 16 [a, b]) :: bytes, rest)
    else .error .malformed
  | '%' :: _ => .error .malformed
  | cs => .ok ([], cs)

/-- A tag's text with its bytes made characters. -/
def tagText : (fuel : Nat) → List Char → Except Trouble (List Char)
  | 0, _ => .error .malformed
  | _ + 1, [] => .ok []
  | fuel + 1, c :: cs =>
    if c = '%' then do
      let (bytes, rest) ← percentBytes (c :: cs)
      let text ← (Text.decode bytes).mapError fun _ => .malformed
      return text.toList ++ (← tagText fuel rest)
    else do return c :: (← tagText fuel cs)

/-- The text of a tag at a place. -/
def tagAt (c : Cursor) : Except Trouble (String × Cursor) := do
  let written := c.ahead.takeWhile isTagChar
  if written.isEmpty then throw .malformed
  let text ← tagText (written.length + 1) written
  return (String.ofList text, c.advance written.length)

/-- The handle of a tag: a name between exclamation marks, or one mark alone. -/
def tagHandle (c : Cursor) : Except Trouble (String × Cursor) :=
  let name := (c.ahead.drop 1).takeWhile isNameChar
  if c.peek ≠ some '!' then .error .malformed
  else if c.peekAt 1 = some ' ' then .ok ("!", c.advance 1)
  else if c.peekAt (name.length + 1) = some '!' then
    .ok (String.ofList (c.ahead.take (name.length + 2)), c.advance (name.length + 2))
  else .error .malformed

/-- Whether what comes next ends a tag or a directive's word. -/
def endsWord (c : Option Char) : Bool := isGap c && c != some '\t'

/-- The tag at a place: in angle brackets, behind a handle, or none at all. -/
def tagToken (c : Cursor) : Except Trouble (Token × Cursor) := do
  let (token, c) ←
    if c.peekAt 1 = some '<' then do
      let (suffix, c) ← tagAt (c.advance 2)
      if c.peek = some '>' then pure (Token.tag none suffix, c.advance 1) else throw .malformed
    else if isGap (c.peekAt 1) then pure (Token.tag none "!", c.advance 1)
    else do
      let word := (c.ahead.drop 1).takeWhile fun ch => ch == '\t' || !isGap (some ch)
      let (handle, c) ← if word.contains '!' then tagHandle c else pure ("!", c.advance 1)
      let (suffix, c) ← tagAt c
      pure (Token.tag (some handle) suffix, c)
  if endsWord c.peek then return (token, c) else throw .malformed

/-! ### Directives -/

/-- A number at a place. -/
def numberAt (c : Cursor) : Except Trouble (Nat × Cursor) :=
  let digits := c.ahead.takeWhile Char.isDigit
  if digits.isEmpty then .error .malformed else .ok (inBase 10 digits, c.advance digits.length)

/-- The version that a directive gives, as two numbers with a point between them. -/
def versionAt (c : Cursor) : Except Trouble (Directive × Cursor) := do
  let (major, c) ← numberAt (c.skipWhile (· == ' '))
  if c.peek ≠ some '.' then throw .malformed
  let (_, c) ← numberAt (c.advance 1)
  if endsWord c.peek then return (.version major, c) else throw .malformed

/-- The handle that a directive gives a meaning. -/
def handleAt (c : Cursor) : Except Trouble (Directive × Cursor) := do
  let (name, c) ← tagHandle (c.skipWhile (· == ' '))
  if c.peek ≠ some ' ' then throw .malformed
  let (stem, c) ← tagAt (c.skipWhile (· == ' '))
  if endsWord c.peek then return (.handle name stem, c) else throw .malformed

/-- The directive at a place, from behind its mark, with the rest of its line. -/
def directiveAt (c : Cursor) : Except Trouble (Directive × Cursor) := do
  let name := c.ahead.takeWhile isNameChar
  let c := c.advance name.length
  if name.isEmpty ∨ !endsWord c.peek then throw .malformed
  let (d, c) ←
    if name = "YAML".toList then versionAt c
    else if name = "TAG".toList then handleAt c
    else pure (.other, c.skipLine)
  let c := c.skipWhile (· == ' ')
  let c := if c.peek = some '#' then c.skipLine else c
  if !endsLine c.peek then throw .malformed
  return (d, (c.lineBreak?.map (·.2)).getD c)

/-! ### The state of a reading -/

/-- A token that may turn out to be a key, by its number and its place. It must, if a mapping's entry begins
    with it. -/
structure Candidate where
  level : Nat
  number : Nat
  required : Bool
  index : Nat
  line : Nat
  column : Nat
deriving DecidableEq, Repr

/-- A key and its colon are on one line, and at most so many characters apart. -/
def keyReach : Nat := 1024

structure Lexer where
  cursor : Cursor
  tokens : List Token := []
  count : Nat := 0
  insertions : List (Nat × List Token) := []
  indent : Int := -1
  outer : List Int := []
  flowDepth : Nat := 0
  keyAllowed : Bool := true
  candidates : List Candidate := []

namespace Lexer

def inFlow (l : Lexer) : Bool := 0 < l.flowDepth

def emit (l : Lexer) (t : Token) : Lexer := { l with tokens := t :: l.tokens, count := l.count + 1 }

/-- A token of so many characters. -/
def emitMark (l : Lexer) (t : Token) (length : Nat) : Lexer := { l.emit t with cursor := l.cursor.advance length }

/-- Block collections that are indented deeper than a column end. -/
def unwindFrom (column : Int) : Int → List Int → Lexer → Lexer
  | indent, [], l => { l with indent := indent, outer := [] }
  | indent, up :: outer, l =>
    if column < indent then unwindFrom column up outer (l.emit .blockEnd)
    else { l with indent := indent, outer := up :: outer }

def unwind (l : Lexer) (column : Int) : Lexer := if l.inFlow then l else unwindFrom column l.indent l.outer l

/-- A block collection begins at a column that is deeper than the one around it. -/
def deepens (l : Lexer) (column : Nat) : Bool := !l.inFlow && l.indent < column

def deepen (l : Lexer) (column : Nat) : Lexer := { l with indent := column, outer := l.indent :: l.outer }

/-- A block collection begins with its token, if it is indented deeper than the one around it. -/
def openBlock (l : Lexer) (t : Token) : Lexer :=
  if l.deepens l.cursor.column then (l.emit t).deepen l.cursor.column else l

/-- A candidate that is out of reach is none any more. -/
def outOfReach (l : Lexer) (k : Candidate) : Bool :=
  k.line != l.cursor.line || keyReach < l.cursor.index - k.index

/-- Forget some candidates, none of which may be required. -/
def forget (l : Lexer) (p : Candidate → Bool) : Except Trouble Lexer :=
  if l.candidates.any fun k => p k && k.required then .error .malformed
  else .ok { l with candidates := l.candidates.filter fun k => !p k }

def forgetOutOfReach (l : Lexer) : Except Trouble Lexer := l.forget l.outOfReach

/-- Forget the candidate of the innermost collection. -/
def forgetHere (l : Lexer) : Except Trouble Lexer := l.forget (·.level == l.flowDepth)

/-- The next token may be a key, where keys are allowed. -/
def consider (l : Lexer) : Except Trouble Lexer := do
  if !l.keyAllowed then return l
  let l ← l.forgetHere
  let c := l.cursor
  let k : Candidate := ⟨l.flowDepth, l.count, !l.inFlow && l.indent == c.column, c.index, c.line, c.column⟩
  return { l with candidates := k :: l.candidates }

/-- The candidate of the innermost collection is a key, and may begin a block mapping. -/
def confirm (l : Lexer) (k : Candidate) : Lexer :=
  let l := { l with candidates := l.candidates.filter (·.level != l.flowDepth), keyAllowed := false }
  if l.deepens k.column then
    { l.deepen k.column with insertions := (k.number, [.blockMapping, .key]) :: l.insertions }
  else { l with insertions := (k.number, [.key]) :: l.insertions }

/-! ### Tokens one by one -/

/-- Blanks, comments and line ends before the next token. A key may begin a line. -/
def skipIdle : (fuel : Nat) → Lexer → Lexer
  | 0, l => l
  | fuel + 1, l =>
    let c := l.cursor.skipWhile (· == ' ')
    let c := if c.peek = some '#' then c.skipLine else c
    match c.lineBreak? with
    | none => { l with cursor := c }
    | some (_, c) => skipIdle fuel { l with cursor := c, keyAllowed := l.keyAllowed || !l.inFlow }

/-- A token that ends all block collections. -/
def boundary (l : Lexer) : Except Trouble Lexer := do
  let l ← (l.unwind (-1)).forgetHere
  return { l with keyAllowed := false }

def openFlow (l : Lexer) (t : Token) : Except Trouble Lexer := do
  let l ← l.consider
  return { l.emitMark t 1 with flowDepth := l.flowDepth + 1, keyAllowed := true }

def closeFlow (l : Lexer) (t : Token) : Except Trouble Lexer := do
  let l ← l.forgetHere
  return { l.emitMark t 1 with flowDepth := l.flowDepth - 1, keyAllowed := false }

def separate (l : Lexer) : Except Trouble Lexer := do
  let l ← l.forgetHere
  return { l.emitMark .flowEntry 1 with keyAllowed := true }

def blockEntry (l : Lexer) : Except Trouble Lexer := do
  if !l.inFlow ∧ !l.keyAllowed then throw .malformed
  let l ← (l.openBlock .blockSequence).forgetHere
  return { l.emitMark .blockEntry 1 with keyAllowed := true }

def explicitKey (l : Lexer) : Except Trouble Lexer := do
  if !l.inFlow ∧ !l.keyAllowed then throw .malformed
  let l ← (l.openBlock .blockMapping).forgetHere
  return { l.emitMark .key 1 with keyAllowed := !l.inFlow }

def colon (l : Lexer) : Except Trouble Lexer := do
  match l.candidates.find? (·.level == l.flowDepth) with
  | some k => return (l.confirm k).emitMark .value 1
  | none =>
    if !l.inFlow ∧ !l.keyAllowed then throw .malformed
    let l ← (l.openBlock .blockMapping).forgetHere
    return { l.emitMark .value 1 with keyAllowed := !l.inFlow }

/-- A token that may be a key, read by a function. -/
def word (l : Lexer) (read : Cursor → Except Trouble (Token × Cursor)) : Except Trouble Lexer := do
  let l ← l.consider
  let (t, c) ← read l.cursor
  return { l.emit t with cursor := c, keyAllowed := false }

def plain (l : Lexer) : Except Trouble Lexer := do
  let l ← l.consider
  let (text, newLine, c) := plainScalar l.inFlow (l.indent + 1) l.cursor
  return { l.emit (.scalar (String.ofList text) true) with cursor := c, keyAllowed := newLine }

def block (l : Lexer) (folded : Bool) : Except Trouble Lexer := do
  let l ← l.forgetHere
  let (text, c) ← blockScalar folded l.indent (l.cursor.advance 1)
  return { l.emit (.scalar (String.ofList text) false) with cursor := c, keyAllowed := true }

def quotedToken (read : (fuel : Nat) → (done : List Char) → Cursor → Except Trouble (List Char × Cursor))
    (c : Cursor) : Except Trouble (Token × Cursor) := do
  let (text, c) ← read c.fuel [] (c.advance 1)
  return (.scalar (String.ofList text) false, c)

def namedToken (make : String → Token) (c : Cursor) : Except Trouble (Token × Cursor) := do
  let (name, c) ← anchorName (c.advance 1)
  return (make name, c)

/-- The characters that no plain scalar begins with, where a gap follows the first three. -/
def isIndicator (c : Char) : Bool :=
  ['-', '?', ':', ',', '[', ']', '\x7b', '\x7d', '#', '&', '*', '!', '|', '>', '\'', '"', '%', '@', '\x60'].contains c

/-- Whether a plain scalar begins at the place. -/
def atPlain (l : Lexer) (ch : Char) : Bool :=
  (!isGap (some ch) && !isIndicator ch) ||
  (!isGap (l.cursor.peekAt 1) && (ch == '-' || (!l.inFlow && (ch == '?' || ch == ':'))))

/-- The token that begins with a character, the next one of the document. -/
def tokenAt (l : Lexer) (ch : Char) : Except Trouble Lexer :=
  let c := l.cursor
  let atStart := c.column == 0
  let gapNext := isGap (c.peekAt 1)
  if ch = '%' ∧ atStart then do
    let l ← l.boundary
    let (d, c) ← directiveAt (l.cursor.advance 1)
    return { l.emit (.directive d) with cursor := c }
  else if atStart ∧ c.atMark "---" then do return (← l.boundary).emitMark .documentStart 3
  else if atStart ∧ c.atMark "..." then do return (← l.boundary).emitMark .documentEnd 3
  else if ch = '[' then l.openFlow .flowSequence
  else if ch = '\x7b' then l.openFlow .flowMapping
  else if ch = ']' then l.closeFlow .flowSequenceEnd
  else if ch = '\x7d' then l.closeFlow .flowMappingEnd
  else if ch = ',' then l.separate
  else if ch = '-' ∧ gapNext then l.blockEntry
  else if ch = '?' ∧ (l.inFlow ∨ gapNext) then l.explicitKey
  else if ch = ':' ∧ (l.inFlow ∨ gapNext) then l.colon
  else if ch = '*' then l.word (namedToken .alias)
  else if ch = '&' then l.word (namedToken .anchor)
  else if ch = '!' then l.word tagToken
  else if ch = '|' ∧ !l.inFlow then l.block false
  else if ch = '>' ∧ !l.inFlow then l.block true
  else if ch = '\'' then l.word (quotedToken singleQuoted)
  else if ch = '"' then l.word (quotedToken doubleQuoted)
  else if l.atPlain ch then l.plain
  else .error .malformed

/-- All tokens up to the end of the document. -/
def run : (fuel : Nat) → Lexer → Except Trouble Lexer
  | 0, _ => .error .malformed
  | fuel + 1, l => do
    let l ← (skipIdle l.cursor.fuel l).forgetOutOfReach
    let l := l.unwind l.cursor.column
    match l.cursor.peek with
    | none => l.boundary
    | some ch => run fuel (← l.tokenAt ch)

end Lexer

/-- The tokens with others put before those of some numbers, which ascend. -/
def withInsertions : (number : Nat) → List (Nat × List Token) → List Token → List Token
  | _, _, [] => []
  | number, [], t :: ts => t :: withInsertions (number + 1) [] ts
  | number, (n, added) :: more, t :: ts =>
    if n = number then added ++ t :: withInsertions (number + 1) more ts
    else t :: withInsertions (number + 1) ((n, added) :: more) ts

/-- The tokens of a document. -/
def tokens (cs : List Char) : Except Trouble (List Token) := do
  let start : Cursor := ⟨cs, 0, 0, 0⟩
  let start := if start.peek = some byteOrderMark then start.advance 1 else start
  let l ← Lexer.run start.fuel { cursor := start }
  return withInsertions 0 (l.insertions.mergeSort fun a b => a.1 ≤ b.1) l.tokens.reverse

end ClientMigration.Yaml
