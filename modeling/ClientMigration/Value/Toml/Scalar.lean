import ClientMigration.Number.Numeral
import ClientMigration.Value.Json
import ClientMigration.Value.Moment

/-! # Scalars of TOML

Strings in single or double quotes on one line or several, numbers, truth values, days and times. Each reader
takes a scalar off the front of a text and leaves the rest. -/

namespace ClientMigration.Toml

/-- Why a text is no TOML document; an integer of too many digits is a case of its own. -/
inductive Flaw where
  | malformed
  | longInteger (digits : Nat)
deriving DecidableEq, Repr

/-- What an optional result is, if a missing one is a flaw. -/
def orMalformed {α : Type} (found : Option α) : Except Flaw α :=
  match found with
  | some a => .ok a
  | none => .error .malformed

def isSpace (c : Char) : Bool := c == ' ' || c == '\t'

def skipSpace (cs : List Char) : List Char := cs.dropWhile isSpace

/-- A control character other than the tab stands in no string of one line and no comment. -/
def isControl (c : Char) : Bool := (c.toNat < 0x20 && c != '\t') || c.toNat == 0x7F

/-! ### Strings of one line -/

def escape? : Char → Option Char
  | 'b' => some '\x08'
  | 't' => some '\t'
  | 'n' => some '\n'
  | 'f' => some '\x0c'
  | 'r' => some '\r'
  | '"' => some '"'
  | '\\' => some '\\'
  | _ => none

/-- A character by its code point; surrogates have none. -/
def charAt? (n : Nat) : Option Char :=
  if n < 0xD800 ∨ (0xE000 ≤ n ∧ n ≤ 0x10FFFF) then some (Char.ofNat n) else none

/-- A string in double quotes, from behind the opening one. -/
def basicString : List Char → Option (List Char × List Char)
  | [] => none
  | '"' :: rest => some ([], rest)
  | '\\' :: 'u' :: a :: b :: c :: d :: rest => do
    let e ← charAt? (← Json.unit? a b c d)
    let (cs, rest) ← basicString rest
    return (e :: cs, rest)
  | '\\' :: 'U' :: a :: b :: c :: d :: e :: f :: g :: h :: rest => do
    let x ← charAt? ((← Json.unit? a b c d) * 0x10000 + (← Json.unit? e f g h))
    let (cs, rest) ← basicString rest
    return (x :: cs, rest)
  | '\\' :: c :: rest => do
    let e ← escape? c
    let (cs, rest) ← basicString rest
    return (e :: cs, rest)
  | c :: rest => do
    if isControl c then none
    else
      let (cs, rest) ← basicString rest
      return (c :: cs, rest)

/-- A string in single quotes, from behind the opening one. -/
def literalString (cs : List Char) : Option (List Char × List Char) :=
  let s := cs.takeWhile (· != '\'')
  match cs.drop s.length with
  | _ :: rest => if s.any isControl then none else some (s, rest)
  | [] => none

/-! ### Strings of several lines -/

/-- Up to two more quotes belong to the string that three quotes close. -/
def closingQuotes (quote : Char) (rest : List Char) : List Char × List Char :=
  let more := (rest.take 2).takeWhile (· == quote)
  (more, rest.drop more.length)

/-- Where a reader stands: in the text, or behind a backslash that joins lines, before or after the end of
    the first line. -/
inductive Joint where
  | none
  | toLineEnd
  | toText
deriving DecidableEq, Repr

/-- A string in three double quotes, from behind the opening ones. A backslash at the end of a line takes the
    white space and the line breaks behind it away. -/
def longString : Joint → List Char → Option (List Char × List Char)
  | _, [] => none
  | .toLineEnd, c :: rest =>
    if isSpace c then longString .toLineEnd rest else if c == '\n' then longString .toText rest else none
  | .toText, '\n' :: rest => longString .toText rest
  | .toText, ' ' :: rest => longString .toText rest
  | .toText, '\t' :: rest => longString .toText rest
  | _, '"' :: '"' :: '"' :: rest => some (closingQuotes '"' rest)
  | _, '\\' :: '\n' :: rest => longString .toText rest
  | _, '\\' :: ' ' :: rest => longString .toLineEnd rest
  | _, '\\' :: '\t' :: rest => longString .toLineEnd rest
  | _, '\\' :: 'u' :: a :: b :: c :: d :: rest => do
    let e ← charAt? (← Json.unit? a b c d)
    let (cs, rest) ← longString .none rest
    return (e :: cs, rest)
  | _, '\\' :: 'U' :: a :: b :: c :: d :: e :: f :: g :: h :: rest => do
    let x ← charAt? ((← Json.unit? a b c d) * 0x10000 + (← Json.unit? e f g h))
    let (cs, rest) ← longString .none rest
    return (x :: cs, rest)
  | _, '\\' :: c :: rest => do
    let e ← escape? c
    let (cs, rest) ← longString .none rest
    return (e :: cs, rest)
  | _, c :: rest => do
    if isControl c && c != '\n' then none
    else
      let (cs, rest) ← longString .none rest
      return (c :: cs, rest)

/-- A string in three single quotes, from behind the opening ones. -/
def longLiteral : List Char → Option (List Char × List Char)
  | [] => none
  | '\'' :: '\'' :: '\'' :: rest => some (closingQuotes '\'' rest)
  | c :: rest => do
    if isControl c && c != '\n' then none
    else
      let (cs, rest) ← longLiteral rest
      return (c :: cs, rest)

/-- A line break right behind the opening quotes is no part of a string. -/
def dropFirstBreak : List Char → List Char
  | '\n' :: rest => rest
  | cs => cs

/-- A string in one of the four forms; none if the text begins with no quote. -/
def string? (cs : List Char) : Option (Option (List Char × List Char)) :=
  match cs with
  | '"' :: '"' :: '"' :: rest => some (longString .none (dropFirstBreak rest))
  | '"' :: rest => some (basicString rest)
  | '\'' :: '\'' :: '\'' :: rest => some (longLiteral (dropFirstBreak rest))
  | '\'' :: rest => some (literalString rest)
  | _ => none

/-! ### Days and times -/

/-- So many digits, for a number between two bounds. -/
def digits? (count low high : Nat) (cs : List Char) : Option (Nat × List Char) :=
  let ds := cs.take count
  if ds.length = count ∧ ds.all Char.isDigit then
    let n := Numeral.valueOf ds
    if low ≤ n ∧ n ≤ high then some (n, cs.drop count) else none
  else none

/-- What follows a character that must come. -/
def expect? (c : Char) : List Char → Option (List Char)
  | d :: rest => if d = c then some rest else none
  | [] => none

/-- The millionths of a second behind a point; further digits count for nothing. -/
def takeMicros (cs : List Char) : Nat × List Char :=
  match cs with
  | '.' :: rest =>
    let ds := rest.takeWhile Char.isDigit
    if ds.isEmpty then (0, cs) else (Numeral.valueOf ((ds ++ List.replicate 6 '0').take 6), rest.drop ds.length)
  | _ => (0, cs)

def clock? (cs : List Char) : Option (Clock × List Char) := do
  let (hour, rest) ← digits? 2 0 23 cs
  let (minute, rest) ← digits? 2 0 59 (← expect? ':' rest)
  let (second, rest) ← digits? 2 0 59 (← expect? ':' rest)
  let (micro, rest) := takeMicros rest
  return (⟨hour, minute, second, micro⟩, rest)

def day? (cs : List Char) : Option (Day × List Char) := do
  let (year, rest) ← digits? 4 0 9999 cs
  let (month, rest) ← digits? 2 1 12 (← expect? '-' rest)
  let (day, rest) ← digits? 2 1 31 (← expect? '-' rest)
  return (⟨year, month, day⟩, rest)

/-- The minutes that a time is ahead of universal time, if it says so. -/
def takeOffset (cs : List Char) : Option Int × List Char :=
  match cs with
  | 'Z' :: rest | 'z' :: rest => (some 0, rest)
  | sign :: rest =>
    let minutes? : Option (Nat × List Char) := do
      let (hour, rest) ← digits? 2 0 23 rest
      let (minute, rest) ← digits? 2 0 59 (← expect? ':' rest)
      return (60 * hour + minute, rest)
    match sign, minutes? with
    | '+', some (n, rest) => (some n, rest)
    | '-', some (n, rest) => (some (-n), rest)
    | _, _ => (none, cs)
  | [] => (none, [])

/-- The time behind a day and the letter or the blank between them. -/
def clockBehind? (cs : List Char) : Option (Clock × List Char) :=
  match cs with
  | c :: rest => if c = 'T' ∨ c = 't' ∨ c = ' ' then clock? rest else none
  | [] => none

/-- A day, a time, or both; none if the text begins with neither. -/
def moment? (cs : List Char) : Option (Moment × List Char) :=
  match day? cs with
  | some (d, rest) =>
    match clockBehind? rest with
    | some (t, rest) =>
      let (offset, rest) := takeOffset rest
      some (.both d t offset, rest)
    | none => some (.day d, rest)
  | none => (clock? cs).map fun (t, rest) => (.clock t, rest)

/-! ### Numbers -/

/-- The characters at the front of a text that numbers and truth values are written with. -/
def word (cs : List Char) : List Char :=
  cs.takeWhile fun c => c.isAlphanum || c == '_' || c == '.' || c == '+' || c == '-'

/-- Digits of a base, single underscores between them. -/
def basedDigits (base : Nat) : List Char → Option Nat
  | [] => none
  | ds =>
    if ds.head? = some '_' ∨ ds.getLast? = some '_' ∨ (ds.zip ds.tail).contains ('_', '_') then none
    else
      (ds.filter (· != '_')).foldl (fun n c => do
        let d ← Json.hexValue? c
        if d < base then return base * (← n) + d else none) (some 0)

/-- Digits without a leading zero, underscores taken out. -/
def decimalDigits? (cs : List Char) : Option (List Char) := do
  let ds ← dropSeparators cs
  if ds.length > 1 ∧ ds.head? = some '0' then none else some ds

/-- The digits behind a point, if there is one, and what follows them. -/
def takeFraction (cs : List Char) : Option (Option (List Char) × List Char) :=
  match cs with
  | '.' :: rest =>
    let part := rest.takeWhile fun c => c.isDigit || c == '_'
    (dropSeparators part).map fun ds => (some ds, rest.drop part.length)
  | _ => some (none, cs)

/-- The exponent that a text is; the empty text is none. -/
def wholeExponent (cs : List Char) : Option (Option NumeralExponent) :=
  match cs with
  | [] => some none
  | e :: rest =>
    if e = 'e' ∨ e = 'E' then
      let (sign, ds) := Numeral.takeSign rest
      (dropSeparators ds).map fun ds => some ⟨sign, ds⟩
    else none

/-- The integer of decimal digits, unless there are too many. -/
def decimalInteger (sign : Option Char) (ds : List Char) : Except Flaw Number :=
  if longestInteger < ds.length then .error (.longInteger ds.length)
  else .ok (.int (Numeral.toInt ⟨sign, ds, none, none⟩))

/-- The number of a whole word. -/
def number (cs : List Char) : Except Flaw Number :=
  let (sign, body) := Numeral.takeSign cs
  match body with
  | '0' :: 'x' :: ds => based sign 16 ds
  | '0' :: 'o' :: ds => based sign 8 ds
  | '0' :: 'b' :: ds => based sign 2 ds
  | _ =>
    if body = "inf".toList then .ok (.float (.infinite (sign == some '-')))
    else if body = "nan".toList then .ok (.float .nan)
    else do
      let whole := body.takeWhile fun c => c.isDigit || c == '_'
      let ws ← orMalformed (decimalDigits? whole)
      let rest := body.drop whole.length
      if rest.isEmpty then decimalInteger sign ws
      else
        let (fraction, rest) ← orMalformed (takeFraction rest)
        let exponent ← orMalformed (wholeExponent rest)
        return .float (Numeral.toBinary64 ⟨sign, ws, fraction, exponent⟩)
where
  based (sign : Option Char) (base : Nat) (ds : List Char) : Except Flaw Number :=
    if sign.isSome then .error .malformed else (orMalformed (basedDigits base ds)).map fun n => .int n

/-- A truth value or a number. -/
def plain (cs : List Char) : Except Flaw (Value × List Char) := do
  let w := word cs
  let rest := cs.drop w.length
  if w = "true".toList then return (.bool true, rest)
  else if w = "false".toList then return (.bool false, rest)
  else return (.num (← number w), rest)

/-- A scalar. -/
def scalar (cs : List Char) : Except Flaw (Value × List Char) := do
  match string? cs with
  | some found =>
    let (s, rest) ← orMalformed found
    return (.str (String.ofList s), rest)
  | none =>
    match moment? cs with
    | some (m, rest) => if m.fault?.isSome then throw .malformed else return (.moment m, rest)
    | none => plain cs

end ClientMigration.Toml
