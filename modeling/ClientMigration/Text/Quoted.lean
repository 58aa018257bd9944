import ClientMigration.Text.Printable
import ClientMigration.Text.Surrogate

/-! # Quoted text

A quoted text stands between single quotes, or between double quotes if it holds single quotes and no
double ones. The quote in use, the backslash and characters that are not printable are escaped. -/

namespace ClientMigration.Text

/-- The hexadecimal digits of a number, filled up with zeros to a width. -/
def hex (width n : Nat) : String :=
  let ds := Nat.toDigits 16 n
  String.ofList (List.replicate (width - ds.length) '0' ++ ds)

/-- The quote that encloses a text. -/
def quoteOf (cs : List Char) : Char := if cs.contains '\'' && !cs.contains '"' then '"' else '\''

/-- One character inside the given quotes. -/
def quoteChar (quote c : Char) : String :=
  if c = quote ∨ c = '\\' then String.ofList ['\\', c]
  else if c = '\n' then "\\n"
  else if c = '\r' then "\\r"
  else if c = '\t' then "\\t"
  else if isPrintable c then String.ofList [c]
  else
    let n := codeOf c
    if n < 0x100 then "\\x" ++ hex 2 n else if n < 0x10000 then "\\u" ++ hex 4 n else "\\U" ++ hex 8 n

/-- The text in quotes. -/
def quoted (s : String) : String :=
  let quote := quoteOf s.toList
  let mark := String.ofList [quote]
  mark ++ String.join (s.toList.map (quoteChar quote)) ++ mark

end ClientMigration.Text
