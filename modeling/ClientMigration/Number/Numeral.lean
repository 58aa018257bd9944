import ClientMigration.Number.Basic
import ClientMigration.Text.Blank
import ClientMigration.Text.Digit

/-! # Numerals

The parts of a written number, and the integers and binary numbers that texts of various strictness
stand for. -/

namespace ClientMigration

/-- The exponent of a numeral: its sign, if written, and its digits. -/
structure NumeralExponent where
  sign : Option Char
  digits : List Char
deriving DecidableEq, Repr

/-- The parts of a numeral, as far as they are written. -/
structure Numeral where
  sign : Option Char
  whole : List Char
  fraction : Option (List Char)
  exponent : Option NumeralExponent
deriving DecidableEq, Repr

namespace Numeral

def takeSign : List Char → Option Char × List Char
  | '-' :: cs => (some '-', cs)
  | '+' :: cs => (some '+', cs)
  | cs => (none, cs)

def takeDigits (cs : List Char) : List Char × List Char := (cs.takeWhile Char.isDigit, cs.dropWhile Char.isDigit)

/-- The exponent at the front of a text; an `e` without digits is none. -/
def takeExponent (cs : List Char) : Option NumeralExponent × List Char :=
  match cs with
  | c :: rest =>
    if c = 'e' ∨ c = 'E' then
      let (sign, rest) := takeSign rest
      let (digits, rest) := takeDigits rest
      if digits.isEmpty then (none, cs) else (some ⟨sign, digits⟩, rest)
    else (none, cs)
  | [] => (none, cs)

/-- The longest numeral at the front of a text, and what follows it. -/
def take (cs : List Char) : Numeral × List Char :=
  let (sign, cs) := takeSign cs
  let (whole, cs) := takeDigits cs
  let (fraction, cs) :=
    match cs with
    | '.' :: rest =>
      let (digits, rest) := takeDigits rest
      (some digits, rest)
    | _ => (none, cs)
  let (exponent, cs) := takeExponent cs
  (⟨sign, whole, fraction, exponent⟩, cs)

/-- The number that decimal digits write. -/
def valueOf (ds : List Char) : Nat := ds.foldl (fun n d => 10 * n + (d.toNat - '0'.toNat)) 0

def isNegative (n : Numeral) : Bool := n.sign == some '-'

/-- A digit stands before or after the point. -/
def hasDigits (n : Numeral) : Bool := !n.whole.isEmpty || n.fraction.any (!·.isEmpty)

/-- Neither fraction nor exponent is written. -/
def isWhole (n : Numeral) : Bool := n.fraction.isNone && n.exponent.isNone

def toInt (n : Numeral) : Int := if n.isNegative then -(valueOf n.whole : Int) else valueOf n.whole

def toBinary64 (n : Numeral) : Binary64 :=
  let fraction := n.fraction.getD []
  let power : Int :=
    match n.exponent with
    | none => 0
    | some e => if e.sign == some '-' then -(valueOf e.digits : Int) else valueOf e.digits
  Binary64.ofDecimal n.isNegative (valueOf (n.whole ++ fraction)) (power - (fraction.length : Int))

end Numeral

/-! ### Numbers written in text -/

/-- Decimal digits beyond ASCII become ASCII ones. -/
def asciiDigit (c : Char) : Char :=
  match Text.digitValue? c with
  | some n => Char.ofNat ('0'.toNat + n)
  | none => c

/-- Digits with single underscores between them, without the underscores. -/
def dropSeparators : List Char → Option (List Char)
  | [] => none
  | [d] => if d.isDigit then some [d] else none
  | d :: '_' :: rest => if d.isDigit then (dropSeparators rest).map (d :: ·) else none
  | d :: rest => if d.isDigit then (dropSeparators rest).map (d :: ·) else none

/-- What is said of an integer with more digits. -/
def longIntegerMessage (digits : Nat) : String :=
  s!"Exceeds the limit ({longestInteger} digits) for integer string conversion: value has {digits} digits; " ++
    "use sys.set_int_max_str_digits() to increase the limit"

/-- The blanks that may surround an integer: all but the four separators of the control characters. -/
def surroundsInteger (c : Char) : Bool := Text.isBlank c && !('\x1c' ≤ c && c ≤ '\x1f')

/-- The integer that a text writes: surrounding blanks, a sign, decimal digits of any script with single
    underscores between them. -/
def looseInt? (s : String) : Option Int :=
  let (sign, cs) := Numeral.takeSign (Text.trim surroundsInteger s.toList)
  match dropSeparators (cs.map asciiDigit) with
  | none => none
  | some ds =>
    if longestInteger < ds.length then none
    else some (if sign == some '-' then -(Numeral.valueOf ds : Int) else Numeral.valueOf ds)

/-- The text without its underscores, if there are some and each stands between other characters. -/
def withoutUnderscores? (cs : List Char) : Option (List Char) :=
  if !cs.contains '_' || cs.head? == some '_' || cs.getLast? == some '_' ||
      (cs.zip cs.tail).contains ('_', '_') then none
  else some (cs.filter (· != '_'))

/-- The words for infinity and for no number, in any letter case. -/
def specialNumber? (cs : List Char) : Option Binary64 :=
  let (sign, word) := Numeral.takeSign cs
  let negative := sign == some '-'
  match String.ofList (word.map Char.toLower) with
  | "inf" | "infinity" => some (.infinite negative)
  | "nan" => some .nan
  | _ => none

/-- The binary number that a whole text writes, digits in ASCII. -/
def plainFloat? (cs : List Char) : Option Binary64 :=
  match specialNumber? cs with
  | some x => some x
  | none =>
    let (n, rest) := Numeral.take cs
    if rest.isEmpty && n.hasDigits then some n.toBinary64 else none

/-- The binary number that a text writes, surrounding white space and single underscores allowed. -/
def settingFloat? (s : String) : Option Binary64 :=
  match plainFloat? (Text.trim Text.isWhiteSpace s.toList) with
  | some x => some x
  | none => (withoutUnderscores? s.toList).bind plainFloat?

/-- A fraction of zeros at the end of a text is dropped; a point alone is not. -/
def dropZeroFraction (cs : List Char) : List Char :=
  match cs.dropWhile (· != '.') with
  | _ :: fraction => if !fraction.isEmpty && fraction.all (· == '0') then cs.takeWhile (· != '.') else cs
  | [] => cs

/-- A character that an integer may begin with, leading zeros apart. -/
def startsInteger (c : Char) : Bool := c == '-' || ('1' ≤ c && c ≤ '9')

/-- What is left of a text behind a zero: further zeros and underscores are passed over, and the last of
    them, `last`, stays if nothing or a point follows. None if another character stands there. -/
def afterZeros? (last : Char) : List Char → Option (List Char)
  | [] => some [last]
  | c :: cs =>
    if c = '0' ∨ c = '_' then afterZeros? c cs
    else if startsInteger c then some (c :: cs)
    else if c = '.' then some (last :: c :: cs)
    else none

/-- The text of an integer without its leading zeros. -/
def withoutLeadingZeros? : List Char → Option (List Char)
  | [] => none
  | c :: cs => if c = '0' then afterZeros? '0' cs else if startsInteger c then some (c :: cs) else none

/-- A text without a plus sign in front; none if a minus sign follows it. -/
def withoutPlus? : List Char → Option (List Char)
  | '+' :: '-' :: _ => none
  | '+' :: cs => some cs
  | cs => some cs

/-- Why a text is no integer. -/
inductive IntegerFlaw where
  | unreadable
  | tooLong
deriving DecidableEq, Repr

/-- The integer of a text that has no sign but a minus, and no zero before another digit. Too many digits at
    the front are found before what stands behind them. -/
def plainInteger (cs : List Char) : Except IntegerFlaw Int :=
  let (sign, ds) := Numeral.takeSign cs
  let run := ds.takeWhile Char.isDigit
  if run.isEmpty ∨ sign = some '+' ∨ (run.length > 1 ∧ run.head? = some '0') then .error .unreadable
  else if longestInteger < sign.toList.length + run.length then .error .tooLong
  else if run.length < ds.length then .error .unreadable
  else .ok (if sign = some '-' then -(Numeral.valueOf ds : Int) else Numeral.valueOf ds)

/-- The minus sign at the front of a text, if there is one, and the rest. -/
def takeMinus : List Char → List Char × List Char
  | '-' :: cs => (['-'], cs)
  | cs => ([], cs)

/-- The plain form of an integer that is written with white space around it, a plus sign, leading zeros, single
    underscores or a fraction of zeros. A minus sign at the front is set aside, so the digits behind it are
    held to the same rules. -/
def plainForm? (s : String) : Option (List Char) := do
  let (minus, body) := takeMinus (← withoutPlus? (Text.trim Text.isWhiteSpace s.toList))
  let cs := dropZeroFraction (← withoutLeadingZeros? body)
  return minus ++ (withoutUnderscores? cs).getD cs

/-- The integer that a text writes. -/
def settingInt (s : String) : Except IntegerFlaw Int :=
  match plainForm? s with
  | none => .error .unreadable
  | some cs => plainInteger cs

end ClientMigration
