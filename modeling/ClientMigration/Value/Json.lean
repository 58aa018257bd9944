import ClientMigration.Number.Numeral
import ClientMigration.Value.Basic

/-! # JSON

Values as JSON text, in one line or indented, and JSON text as values. Output is ASCII: other characters
are escaped in UTF-16 units. -/

namespace ClientMigration.Json

/-- The escape of one UTF-16 unit. -/
def unitEscape (n : Nat) : String := "\\u" ++ Text.hex 4 n

/-- One character inside a JSON string. -/
def charText (c : Char) : String :=
  match c with
  | '"' => "\\\""
  | '\\' => "\\\\"
  | '\n' => "\\n"
  | '\r' => "\\r"
  | '\t' => "\\t"
  | '\x08' => "\\b"
  | '\x0c' => "\\f"
  | _ =>
    let n := Text.codeOf c
    if 0x20 ≤ n ∧ n ≤ 0x7E then String.ofList [c]
    else if n < 0x10000 then unitEscape n
    else unitEscape (0xD800 + (n - 0x10000) / 0x400) ++ unitEscape (0xDC00 + (n - 0x10000) % 0x400)

def stringText (s : String) : String := "\"" ++ String.join (s.toList.map charText) ++ "\""

/-- Numbers as in plain text; the three that JSON has no numeral for are written as words. -/
def numberText : Number → String
  | .float .nan => "NaN"
  | .float (.infinite s) => if s then "-Infinity" else "Infinity"
  | n => n.text

/-- The key of an object that a value makes. -/
def keyText : Value → String
  | .null => "null"
  | .bool b => if b then "true" else "false"
  | .num n => numberText n
  | v => v.text

mutual

/-- The value on one line. -/
def compact : Value → String
  | .null => "null"
  | .bool b => if b then "true" else "false"
  | .num n => numberText n
  | .str s => stringText s
  | .moment m => stringText m.text
  | .list items => "[" ++ String.intercalate ", " (compactItems items) ++ "]"
  | .object fields => "\x7b" ++ String.intercalate ", " (compactFields fields) ++ "\x7d"
  | .mapping entries => "\x7b" ++ String.intercalate ", " (compactEntries entries) ++ "\x7d"

def compactItems : List Value → List String
  | [] => []
  | v :: vs => compact v :: compactItems vs

def compactFields : List (String × Value) → List String
  | [] => []
  | (k, v) :: rest => (stringText k ++ ": " ++ compact v) :: compactFields rest

def compactEntries : List (Value × Value) → List String
  | [] => []
  | (k, v) :: rest => (stringText (keyText k) ++ ": " ++ compact v) :: compactEntries rest

end

/-- The start of a line at a depth: two spaces for each level. -/
def lineStart (depth : Nat) : String := "\n" ++ String.ofList (List.replicate (2 * depth) ' ')

/-- Entries between brackets, each on a line of its own; nothing between them for no entries. -/
def block (opening closing : String) (depth : Nat) (entries : List String) : String :=
  if entries.isEmpty then opening ++ closing
  else
    opening ++ lineStart (depth + 1) ++ String.intercalate ("," ++ lineStart (depth + 1)) entries ++
      lineStart depth ++ closing

mutual

/-- The value at a depth of indentation. -/
def indentedAt (depth : Nat) : Value → String
  | .null => "null"
  | .bool b => if b then "true" else "false"
  | .num n => numberText n
  | .str s => stringText s
  | .moment m => stringText m.text
  | .list items => block "[" "]" depth (indentedItems (depth + 1) items)
  | .object fields => block "\x7b" "\x7d" depth (indentedFields (depth + 1) fields)
  | .mapping entries => block "\x7b" "\x7d" depth (indentedEntries (depth + 1) entries)

def indentedItems (depth : Nat) : List Value → List String
  | [] => []
  | v :: vs => indentedAt depth v :: indentedItems depth vs

def indentedFields (depth : Nat) : List (String × Value) → List String
  | [] => []
  | (k, v) :: rest => (stringText k ++ ": " ++ indentedAt depth v) :: indentedFields depth rest

def indentedEntries (depth : Nat) : List (Value × Value) → List String
  | [] => []
  | (k, v) :: rest => (stringText (keyText k) ++ ": " ++ indentedAt depth v) :: indentedEntries depth rest

end

/-- The value over several lines. -/
def indented (v : Value) : String := indentedAt 0 v

/-! ### Reading -/

def isSpace (c : Char) : Bool := c == ' ' || c == '\t' || c == '\n' || c == '\r'

def skipSpace (cs : List Char) : List Char := cs.dropWhile isSpace

def hexValue? (c : Char) : Option Nat :=
  if c.isDigit then some (c.toNat - '0'.toNat)
  else if 'a' ≤ c ∧ c ≤ 'f' then some (c.toNat - 'a'.toNat + 10)
  else if 'A' ≤ c ∧ c ≤ 'F' then some (c.toNat - 'A'.toNat + 10)
  else none

/-- The unit that four hexadecimal digits write. -/
def unit? (a b c d : Char) : Option Nat := do
  return (((← hexValue? a) * 16 + (← hexValue? b)) * 16 + (← hexValue? c)) * 16 + (← hexValue? d)

def shortEscape? : Char → Option Char
  | '"' => some '"'
  | '\\' => some '\\'
  | '/' => some '/'
  | 'n' => some '\n'
  | 'r' => some '\r'
  | 't' => some '\t'
  | 'b' => some '\x08'
  | 'f' => some '\x0c'
  | _ => none

/-- The character of two surrogates, if they are a pair. -/
def pair? (high low : Nat) : Option Char :=
  if 0xD800 ≤ high ∧ high < 0xDC00 ∧ 0xDC00 ≤ low ∧ low < 0xE000 then
    some (Char.ofNat (0x10000 + (high - 0xD800) * 0x400 + (low - 0xDC00)))
  else none

/-- The characters of some units, where a pair of surrogates is one character. -/
def charsOfUnits : List Nat → List Char
  | [] => []
  | [n] => [Text.charOfCode n]
  | m :: n :: rest =>
    match pair? m n with
    | some c => c :: charsOfUnits rest
    | none => Text.charOfCode m :: charsOfUnits (n :: rest)

/-- The units of a string from behind its opening quote, and what follows the closing quote. -/
def takeUnits : List Char → Option (List Nat × List Char)
  | [] => none
  | '"' :: rest => some ([], rest)
  | '\\' :: 'u' :: a :: b :: c :: d :: rest => do
    let n ← unit? a b c d
    let (ns, rest) ← takeUnits rest
    return (n :: ns, rest)
  | '\\' :: c :: rest => do
    let e ← shortEscape? c
    let (ns, rest) ← takeUnits rest
    return (e.toNat :: ns, rest)
  | c :: rest => do
    if c.toNat < 0x20 then none
    else
      let (ns, rest) ← takeUnits rest
      return (c.toNat :: ns, rest)

/-- A string from behind its opening quote: its characters, and what follows the closing quote. -/
def takeString (cs : List Char) : Option (List Char × List Char) :=
  (takeUnits cs).map fun (ns, rest) => (charsOfUnits ns, rest)

/-- A number: no plus sign, no leading zero, digits on both sides of a point. -/
def takeNumber (cs : List Char) : Option (Number × List Char) :=
  let (n, rest) := Numeral.take cs
  if n.sign == some '+' || n.whole.isEmpty || (n.whole.length > 1 && n.whole.head? == some '0') then none
  else if n.isWhole then some (.int n.toInt, rest)
  else if n.fraction == some [] then none
  else some (.float n.toBinary64, rest)

/-- What follows a word at the front of a text. -/
def afterWord? (word : String) (cs : List Char) : Option (List Char) :=
  if word.toList.isPrefixOf cs then some (cs.drop word.length) else none

/-- The words of the format, with the values they stand for. -/
def words : List (String × Value) :=
  [("null", .null), ("true", .bool true), ("false", .bool false), ("NaN", .num (.float .nan)),
   ("Infinity", .num (.float (.infinite false))), ("-Infinity", .num (.float (.infinite true)))]

/-- A word or a number. -/
def takeScalar (cs : List Char) : Option (Value × List Char) :=
  match words.findSome? fun (w, v) => (afterWord? w cs).map (v, ·) with
  | some found => some found
  | none => (takeNumber cs).map fun (n, rest) => (.num n, rest)

mutual

/-- The value at the front of a text, which starts with no space. -/
def takeValue : (fuel : Nat) → List Char → Option (Value × List Char)
  | 0, _ => none
  | fuel + 1, cs =>
    match cs with
    | '"' :: rest => (takeString rest).map fun (s, rest) => (.str (String.ofList s), rest)
    | '[' :: rest =>
      match skipSpace rest with
      | ']' :: rest => some (.list [], rest)
      | rest => (takeItems fuel rest).map fun (vs, rest) => (.list vs, rest)
    | '\x7b' :: rest =>
      match skipSpace rest with
      | '\x7d' :: rest => some (.object [], rest)
      | rest => (takeFields fuel rest).map fun (fs, rest) => (Value.ofFields fs, rest)
    | _ => takeScalar cs

/-- The items of a list up to its closing bracket. -/
def takeItems : (fuel : Nat) → List Char → Option (List Value × List Char)
  | 0, _ => none
  | fuel + 1, cs => do
    let (v, rest) ← takeValue fuel cs
    match skipSpace rest with
    | ',' :: rest =>
      let (vs, rest) ← takeItems fuel (skipSpace rest)
      return (v :: vs, rest)
    | ']' :: rest => return ([v], rest)
    | _ => none

/-- The fields of an object up to its closing brace. -/
def takeFields : (fuel : Nat) → List Char → Option (List (String × Value) × List Char)
  | 0, _ => none
  | fuel + 1, cs => do
    match cs with
    | '"' :: rest =>
      let (k, rest) ← takeString rest
      match skipSpace rest with
      | ':' :: rest =>
        let (v, rest) ← takeValue fuel (skipSpace rest)
        match skipSpace rest with
        | ',' :: rest =>
          let (fs, rest) ← takeFields fuel (skipSpace rest)
          return ((String.ofList k, v) :: fs, rest)
        | '\x7d' :: rest => return ([(String.ofList k, v)], rest)
        | _ => none
      | _ => none
    | _ => none

end

/-- The value that a whole text writes; none if it is no JSON. -/
def read? (s : String) : Option Value :=
  let cs := skipSpace s.toList
  match takeValue (2 * cs.length + 2) cs with
  | some (v, rest) => if (skipSpace rest).isEmpty then some v else none
  | none => none

end ClientMigration.Json
