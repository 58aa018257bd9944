/-! # Binary floating point

Numbers of the 64-bit binary format, held as sign, mantissa and exponent, so that every operation is
exact integer arithmetic followed by one rounding to the nearest number, a half going to the even
mantissa. -/

namespace ClientMigration

/-- `num / den` to the nearest integer; a half goes to the even neighbour. -/
def roundQuotient (num den : Nat) : Nat :=
  let q := num / den
  let r := num % den
  if 2 * r < den then q
  else if den < 2 * r then q + 1
  else if q % 2 = 0 then q else q + 1

/-- A number of the 64-bit binary format. A finite one is `mantissa * 2 ^ exponent` under its sign. -/
inductive Binary64 where
  | nan
  | infinite (negative : Bool)
  | finite (negative : Bool) (mantissa : Nat) (exponent : Int)
deriving DecidableEq, Repr, Inhabited

namespace Binary64

/-- Mantissas stay below `2 ^ 53`. -/
def mantissaLimit : Nat := Nat.pow 2 53

/-- The exponent of the smallest positive number. -/
def leastExponent : Int := -1074

/-- The exponent of the largest finite numbers. -/
def greatestExponent : Int := 971

/-- A zero of either sign. -/
def zero (negative : Bool) : Binary64 := .finite negative 0 leastExponent

/-- The mantissa `m` at exponent `e`, where `m` may have reached the limit by rounding up. -/
def pack (negative : Bool) (m : Nat) (e : Int) : Binary64 :=
  let (m, e) := if m = mantissaLimit then (m / 2, e + 1) else (m, e)
  if greatestExponent < e then .infinite negative else .finite negative m e

/-- `num / (den * 2 ^ e)` to the nearest integer. -/
def roundAt (num den : Nat) (e : Int) : Nat :=
  if 0 ≤ e then roundQuotient num (den * Nat.pow 2 e.toNat) else roundQuotient (num * Nat.pow 2 (-e).toNat) den

/-- The number nearest to `num / den`. -/
def ofRatio (negative : Bool) (num den : Nat) : Binary64 :=
  if num = 0 then zero negative
  else
    let guess : Int := (Nat.log2 num : Int) - (Nat.log2 den : Int) - 53
    let e := max guess leastExponent
    let low := if 0 ≤ e then num / (den * Nat.pow 2 e.toNat) else num * Nat.pow 2 (-e).toNat / den
    let e := if low < mantissaLimit then e else e + 1
    pack negative (roundAt num den e) e

/-- The number nearest to `n * 2 ^ e`; a zero takes the given sign. -/
def ofScaled (zeroNegative : Bool) (n : Int) (e : Int) : Binary64 :=
  if n = 0 then zero zeroNegative
  else if 0 ≤ e then ofRatio (n < 0) (n.natAbs * Nat.pow 2 e.toNat) 1
  else ofRatio (n < 0) n.natAbs (Nat.pow 2 (-e).toNat)

/-- The number nearest to an integer; one beyond the range gives an infinity. -/
def ofInt (i : Int) : Binary64 := ofRatio (i < 0) i.natAbs 1

/-- The number nearest to the quotient of two integers, the divisor not zero. -/
def ofQuotient (i j : Int) : Binary64 := ofRatio ((i < 0) != (j < 0)) i.natAbs j.natAbs

/-- The count of decimal digits of a natural number, one for zero. -/
def digitCount (n : Nat) : Nat := (Nat.toDigits 10 n).length

/-- The number nearest to `digits * 10 ^ exponent`. Decimals far outside the range are answered without
    building the power of ten. -/
def ofDecimal (negative : Bool) (digits : Nat) (exponent : Int) : Binary64 :=
  let size : Int := exponent + (digitCount digits : Int)
  if digits = 0 then zero negative
  else if 320 < size then .infinite negative
  else if size < -340 then zero negative
  else if 0 ≤ exponent then ofRatio negative (digits * Nat.pow 10 exponent.toNat) 1
  else ofRatio negative digits (Nat.pow 10 (-exponent).toNat)

def isNegative : Binary64 → Bool
  | .nan => false
  | .infinite s => s
  | .finite s _ _ => s

def isFinite : Binary64 → Bool
  | .finite .. => true
  | _ => false

/-- Both zeros are zero. -/
def isZero : Binary64 → Bool
  | .finite _ m _ => m == 0
  | _ => false

def neg : Binary64 → Binary64
  | .nan => .nan
  | .infinite s => .infinite (!s)
  | .finite s m e => .finite (!s) m e

def abs : Binary64 → Binary64
  | .nan => .nan
  | .infinite _ => .infinite false
  | .finite _ m e => .finite false m e

/-- The signed mantissa of a finite number. -/
def signed (negative : Bool) (m : Nat) : Int := if negative then -(m : Int) else m

/-- `signed s m * 2 ^ e` as a multiple of `2 ^ base`, where `base ≤ e`. -/
def rescale (s : Bool) (m : Nat) (e base : Int) : Int := signed s (m * Nat.pow 2 (e - base).toNat)

def add : Binary64 → Binary64 → Binary64
  | .nan, _ => .nan
  | _, .nan => .nan
  | .infinite s, .infinite t => if s = t then .infinite s else .nan
  | .infinite s, .finite .. => .infinite s
  | .finite .., .infinite t => .infinite t
  | .finite s m e, .finite t n f =>
    let base := min e f
    ofScaled (s && t) (rescale s m e base + rescale t n f base) base

def sub (x y : Binary64) : Binary64 := x.add y.neg

def mul : Binary64 → Binary64 → Binary64
  | .nan, _ => .nan
  | _, .nan => .nan
  | .infinite s, .infinite t => .infinite (s != t)
  | .infinite s, .finite t n _ => if n = 0 then .nan else .infinite (s != t)
  | .finite s m _, .infinite t => if m = 0 then .nan else .infinite (s != t)
  | .finite s m e, .finite t n f => ofScaled (s != t) (signed (s != t) (m * n)) (e + f)

/-- The quotient; a number other than zero divided by zero is an infinity. -/
def div : Binary64 → Binary64 → Binary64
  | .nan, _ => .nan
  | _, .nan => .nan
  | .infinite _, .infinite _ => .nan
  | .infinite s, .finite t _ _ => .infinite (s != t)
  | .finite s _ _, .infinite t => zero (s != t)
  | .finite s m e, .finite t n f =>
    if n = 0 then (if m = 0 then .nan else .infinite (s != t))
    else
      let shift := e - f
      if 0 ≤ shift then ofRatio (s != t) (m * Nat.pow 2 shift.toNat) n
      else ofRatio (s != t) m (n * Nat.pow 2 (-shift).toNat)

end Binary64

/-- A point of the extended line: an exact value `n * 2 ^ e`, one of the two ends, or no point at all. -/
inductive Point where
  | undefined
  | leftEnd
  | rightEnd
  | dyadic (n : Int) (e : Int)
deriving DecidableEq, Repr

/-- The exact order of two points; none if one of them is undefined. -/
def Point.order : Point → Point → Option Ordering
  | .undefined, _ => none
  | _, .undefined => none
  | .leftEnd, .leftEnd => some .eq
  | .leftEnd, _ => some .lt
  | _, .leftEnd => some .gt
  | .rightEnd, .rightEnd => some .eq
  | .rightEnd, _ => some .gt
  | _, .rightEnd => some .lt
  | .dyadic n e, .dyadic m f =>
    let base := min e f
    some (compare (n * Nat.pow 2 (e - base).toNat) (m * Nat.pow 2 (f - base).toNat))

/-- The exact value of a number of the format. -/
def Binary64.point : Binary64 → Point
  | .nan => .undefined
  | .infinite true => .leftEnd
  | .infinite false => .rightEnd
  | .finite s m e => .dyadic (signed s m) e

end ClientMigration
