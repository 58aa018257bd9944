import ClientMigration.Value.Toml.Scalar
import ClientMigration.Value.Toml.Table

/-! # TOML documents

A document is read one statement after the other: a header opens a table, two brackets add a table to a list,
and a key with its value fills the table that is open. -/

namespace ClientMigration.Toml

/-! ### White space -/

/-- What follows a comment, if one comes first; no control character stands in it. -/
def skipComment (cs : List Char) : Except Flaw (List Char) :=
  match cs with
  | '#' :: rest =>
    let comment := rest.takeWhile (· != '\n')
    if comment.any isControl then .error .malformed else .ok (rest.drop comment.length)
  | cs => .ok cs

/-- What follows white space, line breaks and comments. -/
def skipLines : (fuel : Nat) → List Char → Except Flaw (List Char)
  | 0, cs => .ok cs
  | fuel + 1, cs => do
    let after ← skipComment (cs.dropWhile fun c => isSpace c || c == '\n')
    if after.length = cs.length then return cs else skipLines fuel after

/-! ### Keys -/

def isBare (c : Char) : Bool := c.isAlphanum || c == '_' || c == '-'

/-- One part of a key. -/
def keyPart (cs : List Char) : Except Flaw (String × List Char) := do
  match cs with
  | '"' :: rest =>
    let (s, rest) ← orMalformed (basicString rest)
    return (String.ofList s, rest)
  | '\'' :: rest =>
    let (s, rest) ← orMalformed (literalString rest)
    return (String.ofList s, rest)
  | _ =>
    let bare := cs.takeWhile isBare
    if bare.isEmpty then throw .malformed else return (String.ofList bare, cs.drop bare.length)

/-- A key of parts with points between them, and the white space behind it. -/
def key : (fuel : Nat) → List Char → Except Flaw (List String × List Char)
  | 0, _ => .error .malformed
  | fuel + 1, cs => do
    let (part, rest) ← keyPart (skipSpace cs)
    match skipSpace rest with
    | '.' :: rest => do
      let (parts, rest) ← key fuel rest
      return (part :: parts, rest)
    | rest => return ([part], rest)

/-! ### Values -/

mutual

/-- The value at the front of a text. -/
def value : (fuel : Nat) → List Char → Except Flaw (Value × List Char)
  | 0, _ => .error .malformed
  | fuel + 1, cs =>
    match cs with
    | '[' :: rest => do
      let (vs, rest) ← items fuel (← skipLines (rest.length + 1) rest)
      return (.list vs, rest)
    | '\x7b' :: rest =>
      match skipSpace rest with
      | '\x7d' :: rest => return (.object [], rest)
      | rest => do
        let (entries, rest) ← fields fuel [] rest
        return (.object (fieldsOf entries), rest)
    | cs => scalar cs

/-- The items of a list up to its closing bracket. -/
def items : (fuel : Nat) → List Char → Except Flaw (List Value × List Char)
  | 0, _ => .error .malformed
  | fuel + 1, cs =>
    match cs with
    | ']' :: rest => return ([], rest)
    | cs => do
      let (v, rest) ← value fuel cs
      match ← skipLines (rest.length + 1) rest with
      | ',' :: rest =>
        let (vs, rest) ← items fuel (← skipLines (rest.length + 1) rest)
        return (v :: vs, rest)
      | ']' :: rest => return ([v], rest)
      | _ => throw .malformed

/-- The fields between braces, beside those read so far. -/
def fields : (fuel : Nat) → Entries → List Char → Except Flaw (Entries × List Char)
  | 0, _, _ => .error .malformed
  | fuel + 1, entries, cs => do
    let (path, v, rest) ← field fuel cs
    let entries ← orMalformed (entries.put 0 v path)
    match skipSpace rest with
    | ',' :: rest => fields fuel entries rest
    | '\x7d' :: rest => return (entries, rest)
    | _ => throw .malformed

/-- A key and its value. -/
def field : (fuel : Nat) → List Char → Except Flaw (List String × Value × List Char)
  | 0, _ => .error .malformed
  | fuel + 1, cs => do
    let (path, rest) ← key (cs.length + 1) cs
    match rest with
    | '=' :: rest =>
      let (v, rest) ← value fuel (skipSpace rest)
      return (path, v, rest)
    | _ => throw .malformed

end

/-! ### Statements -/

/-- What is read of a document: its entries, the path of the open table, and how many headers came. -/
structure Draft where
  entries : Entries := []
  table : List String := []
  sectionNumber : Nat := 0

/-- The draft after a header, which changes the table around the one that it names. -/
def Draft.openAt (d : Draft) (change : String → Entries → Option Entries) (path : List String) : Except Flaw Draft := do
  let last ← orMalformed path.getLast?
  let entries ← orMalformed (d.entries.within (change last) path.dropLast)
  return ⟨entries, path, d.sectionNumber + 1⟩

/-- The draft after a key with its value. -/
def Draft.put (d : Draft) (path : List String) (v : Value) : Except Flaw Draft := do
  let entries ← orMalformed (d.entries.within (Entries.put d.sectionNumber v path) d.table)
  return { d with entries := entries }

/-- The draft after the statement that comes first. -/
def statement (d : Draft) (cs : List Char) : Except Flaw (Draft × List Char) := do
  match cs with
  | '#' :: _ => return (d, cs)
  | '[' :: '[' :: rest =>
    let (path, rest) ← key (rest.length + 1) rest
    let d ← d.openAt Entries.addTable path
    match rest with
    | ']' :: ']' :: rest => return (d, rest)
    | _ => throw .malformed
  | '[' :: rest =>
    let (path, rest) ← key (rest.length + 1) rest
    let d ← d.openAt Entries.openTable path
    match rest with
    | ']' :: rest => return (d, rest)
    | _ => throw .malformed
  | cs =>
    let (path, v, rest) ← field (cs.length + 2) cs
    return (← d.put path v, rest)

/-- The draft after all statements, each on a line of its own. -/
def statements : (fuel : Nat) → Draft → List Char → Except Flaw Draft
  | 0, d, _ => .ok d
  | fuel + 1, d, cs =>
    match skipSpace cs with
    | [] => .ok d
    | '\n' :: rest => statements fuel d rest
    | cs => do
      let (d, rest) ← statement d cs
      match ← skipComment (skipSpace rest) with
      | [] => return d
      | '\n' :: rest => statements fuel d rest
      | _ => throw .malformed

/-- A carriage return belongs to the line break behind it. -/
def dropReturns : List Char → List Char
  | [] => []
  | '\r' :: '\n' :: cs => '\n' :: dropReturns cs
  | c :: cs => c :: dropReturns cs

/-- The fields of a document. -/
def read (s : String) : Except Flaw (List (String × Value)) := do
  let cs := dropReturns s.toList
  let d ← statements (cs.length + 1) {} cs
  return fieldsOf d.entries

end ClientMigration.Toml
