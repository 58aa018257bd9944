import ClientMigration.Number.Numeral
import ClientMigration.Text.Lines
import ClientMigration.Text.Lowercase
import ClientMigration.Value.Yaml.Scalar

/-! # Plain scalars

A plain scalar stands for null, a truth value, a number, a day or a time where it has the form of one, and
for itself otherwise. Integers and floating-point numbers may also be written to the base of sixty. -/

namespace ClientMigration.Yaml

def nullWords : List String := ["", "~", "null", "Null", "NULL"]

def trueWords : List String := ["yes", "Yes", "YES", "true", "True", "TRUE", "on", "On", "ON"]

def falseWords : List String := ["no", "No", "NO", "false", "False", "FALSE", "off", "Off", "OFF"]

def isOctal (c : Char) : Bool := '0' ≤ c && c ≤ '7'

def isBinary (c : Char) : Bool := c == '0' || c == '1'

/-- Some characters of a class, or underscores. -/
def allOrUnderscore (p : Char → Bool) (cs : List Char) : Bool := !cs.isEmpty && cs.all fun c => p c || c == '_'

/-- A digit, and more digits or underscores. -/
def isDigits (cs : List Char) : Bool := cs.head?.any Char.isDigit && allOrUnderscore Char.isDigit cs

/-- The parts of a text between colons. -/
def colonParts : List Char → List (List Char)
  | [] => [[]]
  | c :: cs => if c = ':' then [] :: colonParts cs else Text.consHead c (colonParts cs)

/-- A part of a number to the base of sixty: one digit, or two below sixty. -/
def isSixtieth : List Char → Bool
  | [a] => a.isDigit
  | [a, b] => '0' ≤ a && a ≤ '5' && b.isDigit
  | _ => false

/-! ### Integers -/

/-- Whether a text without its sign has the form of an integer. -/
def isUnsigned (cs : List Char) : Bool :=
  match cs with
  | '0' :: 'b' :: ds => allOrUnderscore isBinary ds
  | '0' :: 'x' :: ds => allOrUnderscore isHex ds
  | ['0'] => true
  | '0' :: ds => allOrUnderscore isOctal ds
  | _ =>
    match colonParts cs with
    | first :: rest => isDigits first && rest.all isSixtieth
    | [] => false

def isInt (cs : List Char) : Bool := isUnsigned (Numeral.takeSign cs).2

/-- The number that digits of a base write. -/
def basedNumber (base : Nat) (digit : Char → Bool) (ds : List Char) : Except Trouble Int :=
  if ds.isEmpty ∨ !ds.all digit then .error (.noInteger base (String.ofList ds)) else .ok (inBase base ds)

/-- The integer that a text in decimal digits writes. -/
def decimalNumber (ds : List Char) : Except Trouble Int :=
  match looseInt? (String.ofList ds) with
  | some i => .ok i
  | none =>
    if longestInteger < ds.length ∧ ds.all Char.isDigit then .error (.longInteger ds.length)
    else .error (.noInteger 10 (String.ofList ds))

/-- The integer of a text without sign and underscores. -/
def unsignedInt (cs : List Char) : Except Trouble Int :=
  match cs with
  | [] => .error .emptyNumber
  | ['0'] => .ok 0
  | '0' :: 'b' :: ds => basedNumber 2 isBinary ds
  | '0' :: 'x' :: ds => basedNumber 16 isHex ds
  | '0' :: _ => basedNumber 8 isOctal cs
  | _ => do
    let parts ← (colonParts cs).mapM decimalNumber
    return parts.foldl (fun n part => 60 * n + part) 0

/-- The integer that a scalar writes. -/
def intOf (text : List Char) : Except Trouble Int := do
  let cs := text.filter (· != '_')
  if cs.isEmpty then throw .emptyNumber
  let (sign, ds) := Numeral.takeSign cs
  let i ← unsignedInt ds
  return if sign == some '-' then -i else i

/-! ### Floating-point numbers -/

def infinityWords : List String := [".inf", ".Inf", ".INF"]

def nanWords : List String := [".nan", ".NaN", ".NAN"]

/-- Digits and underscores up to a point, digits and underscores behind it, and an exponent with a sign. -/
def isDecimal (signed : Bool) (cs : List Char) : Bool :=
  let whole := cs.takeWhile fun c => c.isDigit || c == '_'
  match cs.drop whole.length with
  | '.' :: rest =>
    let fraction := rest.takeWhile fun c => c.isDigit || c == '_'
    let started := if whole.isEmpty then !signed && isDigits fraction else isDigits whole
    let (exponent, rest) := Numeral.takeExponent (rest.drop fraction.length)
    started && rest.isEmpty && exponent.all (·.sign.isSome)
  | _ => false

/-- Digits to the base of sixty with a point at their end, and digits or underscores behind it. -/
def isSexagesimal (cs : List Char) : Bool :=
  match cs.dropWhile (· != '.') with
  | _ :: fraction =>
    match colonParts (cs.takeWhile (· != '.')) with
    | first :: rest =>
      isDigits first && !rest.isEmpty && rest.all isSixtieth && fraction.all fun c => c.isDigit || c == '_'
    | [] => false
  | [] => false

def isFloat (cs : List Char) : Bool :=
  let (sign, body) := Numeral.takeSign cs
  infinityWords.contains (String.ofList body) || nanWords.contains (String.ofList cs) ||
  isDecimal sign.isSome body || isSexagesimal body

/-- The number that a part of a floating-point scalar writes. -/
def floatPart (cs : List Char) : Except Trouble Binary64 :=
  match plainFloat? (Text.trim Text.isBlank cs) with
  | some x => .ok x
  | none => .error (.noFloat (String.ofList cs))

/-- The sum of parts to the base of sixty, the last of them first. -/
def sexagesimalSum : (base : Nat) → List Binary64 → (sum : Binary64) → Binary64
  | _, [], sum => sum
  | base, x :: xs, sum => sexagesimalSum (60 * base) xs (sum.add (x.mul (.ofInt base)))

/-- The floating-point number that a scalar writes. -/
def floatOf (text : List Char) : Except Trouble Binary64 := do
  let cs := (Text.lowerFrom [] text).filter (· != '_')
  if cs.isEmpty then throw .emptyNumber
  let (sign, body) := Numeral.takeSign cs
  let x ←
    if body = ".inf".toList then pure (Binary64.infinite false)
    else if body = ".nan".toList then pure Binary64.nan
    else if body.contains ':' then do
      let parts ← (colonParts body).mapM floatPart
      pure (sexagesimalSum 1 parts.reverse (.zero false))
    else floatPart body
  return if sign == some '-' then x.neg else x

/-! ### Days and times -/

/-- One or two digits at the front of a text. -/
def upToTwo (cs : List Char) : Option (List Char × List Char) :=
  let ds := (cs.take 2).takeWhile Char.isDigit
  if ds.isEmpty then none else some (ds, cs.drop ds.length)

/-- So many digits at the front of a text. -/
def exactly (n : Nat) (cs : List Char) : Option (List Char × List Char) :=
  let ds := cs.take n
  if ds.length = n ∧ ds.all Char.isDigit then some (ds, cs.drop n) else none

/-- What follows a character at the front of a text. -/
def afterChar (c : Char) : List Char → Option (List Char)
  | [] => none
  | d :: rest => if d = c then some rest else none

/-- The millionths that the digits of a fraction write, further ones left out. -/
def millionths (ds : List Char) : Nat := inBase 10 ((ds ++ List.replicate 6 '0').take 6)

/-- The offset at the end of a time, in minutes: none for the empty text. -/
def offsetOf (cs : List Char) : Option (Option Int) :=
  match cs.dropWhile isBlank with
  | [] => if cs.isEmpty then some none else none
  | ['Z'] => some (some 0)
  | sign :: rest => do
    if sign ≠ '+' ∧ sign ≠ '-' then none
    else
      let (hour, rest) ← upToTwo rest
      let (minute, rest) ←
        match rest with
        | ':' :: rest => exactly 2 rest
        | _ => some ([], rest)
      let minutes : Int := 60 * inBase 10 hour + inBase 10 minute
      if rest.isEmpty then some (some (if sign = '-' then -minutes else minutes)) else none

/-- The time of day that follows a day, and its offset. -/
def clockOf (cs : List Char) : Option (Clock × Option Int) := do
  let (hour, rest) ← upToTwo cs
  let (minute, rest) ← exactly 2 (← afterChar ':' rest)
  let (second, rest) ← exactly 2 (← afterChar ':' rest)
  let (fraction, rest) :=
    match rest with
    | '.' :: rest => (rest.takeWhile Char.isDigit, rest.dropWhile Char.isDigit)
    | _ => ([], rest)
  let offset ← offsetOf rest
  return (⟨inBase 10 hour, inBase 10 minute, inBase 10 second, millionths fraction⟩, offset)

/-- The day or time that a text has the form of. A day alone has two digits for its month and its day, if
    `strict`. -/
def momentOf (strict : Bool) (cs : List Char) : Option Moment := do
  let (year, rest) ← exactly 4 cs
  let (month, rest) ← upToTwo (← afterChar '-' rest)
  let (day, rest) ← upToTwo (← afterChar '-' rest)
  let d : Day := ⟨inBase 10 year, inBase 10 month, inBase 10 day⟩
  match rest with
  | [] => if strict ∧ (month.length ≠ 2 ∨ day.length ≠ 2) then none else some (.day d)
  | c :: more =>
    let (t, offset) ←
      if c = 'T' ∨ c = 't' then clockOf more
      else if isBlank c then clockOf (more.dropWhile isBlank)
      else none
    return .both d t offset

def momentValue (m : Moment) : Except Trouble Value := do return .moment (← m.checked.mapError .noMoment)

/-! ### What a scalar stands for -/

/-- The value of a plain scalar. -/
def plainValue (text : String) : Except Trouble Value :=
  let cs := text.toList
  if nullWords.contains text then .ok .null
  else if trueWords.contains text then .ok (.bool true)
  else if falseWords.contains text then .ok (.bool false)
  else if isFloat cs then do return .num (.float (← floatOf cs))
  else if isInt cs then do return .num (.int (← intOf cs))
  else
    match momentOf true cs with
    | some m => momentValue m
    | none => .ok (.str text)

/-- The truth value that a word names in any letter case. -/
def truthOf (text : String) : Except Trouble Bool :=
  let word := Text.lower text
  if trueWords.contains word then .ok true
  else if falseWords.contains word then .ok false
  else .error (.noTruthValue word)

end ClientMigration.Yaml
