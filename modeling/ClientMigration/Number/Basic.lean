import ClientMigration.Number.Decimal

/-! # Numbers

A number is an exact integer or a binary floating-point number, and keeps its kind: sums and products
of integers are integers, anything with a floating-point operand is floating point, and a quotient
always is. Order compares exact values across the kinds. -/

namespace ClientMigration

inductive Number where
  | int (value : Int)
  | float (value : Binary64)
deriving DecidableEq, Repr, Inhabited

/-- Integers of more digits are neither read from a text nor written as one. -/
def longestInteger : Nat := 4300

namespace Number

instance (n : Nat) : OfNat Number n := ⟨.int n⟩

/-- The decimal literal `digits * 10 ^ -places`, as the nearest binary number. -/
def decimal (digits : Nat) (places : Nat) : Number := .float (Binary64.ofDecimal false digits (-(places : Int)))

def toBinary64 : Number → Binary64
  | .int i => .ofInt i
  | .float x => x

/-- The exact value. -/
def point : Number → Point
  | .int i => .dyadic i 0
  | .float x => x.point

def add : Number → Number → Number
  | .int i, .int j => .int (i + j)
  | a, b => .float (a.toBinary64.add b.toBinary64)

def sub : Number → Number → Number
  | .int i, .int j => .int (i - j)
  | a, b => .float (a.toBinary64.sub b.toBinary64)

def mul : Number → Number → Number
  | .int i, .int j => .int (i * j)
  | a, b => .float (a.toBinary64.mul b.toBinary64)

/-- The quotient of two integers is rounded once, from its exact value. -/
def div : Number → Number → Number
  | .int i, .int j => if j = 0 then .float ((Binary64.ofInt i).div (.ofInt 0)) else .float (.ofQuotient i j)
  | a, b => .float (a.toBinary64.div b.toBinary64)

def abs : Number → Number
  | .int i => .int i.natAbs
  | .float x => .float x.abs

instance : Add Number := ⟨add⟩
instance : Sub Number := ⟨sub⟩
instance : Mul Number := ⟨mul⟩
instance : Div Number := ⟨div⟩

/-- Strictly below; false when an operand is not a number. -/
def less (a b : Number) : Bool := a.point.order b.point == some .lt

/-- Below or equal; false when an operand is not a number. -/
def atMost (a b : Number) : Bool :=
  match a.point.order b.point with
  | some .lt | some .eq => true
  | _ => false

/-- The smaller of two; the first if neither is below the other. -/
def least (a b : Number) : Number := if b.less a then b else a

/-- The greater of two; the first if neither is above the other. -/
def greatest (a b : Number) : Number := if a.less b then b else a

/-- Zero of either kind and sign. -/
def isZero : Number → Bool
  | .int i => i == 0
  | .float x => x.isZero

/-- Rounded to so many decimal places; an integer is left as it is. -/
def roundTo (places : Nat) : Number → Number
  | .int i => .int i
  | .float x => .float (x.roundTo places)

/-- The sum from left to right, zero for nothing. -/
def sum (xs : List Number) : Number := xs.foldl (· + ·) 0

/-- The plain text: digits for an integer, the shortest decimal otherwise. -/
def text : Number → String
  | .int i => toString i
  | .float x => x.text

/-- Whether the number has a plain text. -/
def isWritable : Number → Bool
  | .int i => i.natAbs < Nat.pow 10 longestInteger
  | .float _ => true

/-- The text with a fixed count of decimal places. -/
def fixed (places : Nat) (a : Number) : String := a.toBinary64.fixed places

/-- The share as a whole percentage. -/
def percent (a : Number) : String := (a.toBinary64.mul (.ofInt 100)).fixed 0 ++ "%"

/-- Why a number has no value, or no text, of the kind that is wanted. -/
inductive ConversionFailure where
  | infinite
  | notANumber
  | tooLarge
  | quotientTooLarge
  | unwritable
deriving DecidableEq, Repr

/-- What is said of a number without such a value. -/
def ConversionFailure.message : ConversionFailure → String
  | .infinite => "cannot convert float infinity to integer"
  | .notANumber => "cannot convert float NaN to integer"
  | .tooLarge => "int too large to convert to float"
  | .quotientTooLarge => "integer division result too large for a float"
  | .unwritable =>
    s!"Exceeds the limit ({longestInteger} digits) for integer string conversion; " ++
      "use sys.set_int_max_str_digits() to increase the limit"

/-- The least integer not below the number. -/
def ceiling : Number → Except ConversionFailure Int
  | .int i => .ok i
  | .float .nan => .error .notANumber
  | .float (.infinite _) => .error .infinite
  | .float x => .ok (x.ceiling?.getD 0)

/-- Whether an integer lies beyond the range of the binary format. -/
def beyondRange : Number → Bool
  | .int i => !(Binary64.ofInt i).isFinite
  | .float _ => false

/-- Floating-point arithmetic with an integer operand needs the integer in range. -/
def mixable : Number → Number → Bool
  | .int _, .int _ => true
  | a, b => !a.beyondRange && !b.beyondRange

/-- Why two numbers have no quotient in range; the divisor is not zero. -/
def divisionFailure? : Number → Number → Option ConversionFailure
  | .int i, .int j => if (Binary64.ofQuotient i j).isFinite then none else some .quotientTooLarge
  | a, b => if mixable a b then none else some .tooLarge

end Number

end ClientMigration
