import ClientMigration.Number.Binary64

/-! # Decimal text of binary numbers

A number of the 64-bit format is written with the fewest digits that read back as the same number, or
with a fixed count of places. Both work on the exact value, in integer arithmetic. -/

namespace ClientMigration

/-- The decimal `digits * 10 ^ exponent`. -/
structure Decimal where
  digits : Nat
  exponent : Int
deriving DecidableEq, Repr

namespace Decimal

/-- The digits without trailing zeros, the exponent raised accordingly. -/
def trimZeros : Nat → Decimal → Decimal
  | 0, d => d
  | fuel + 1, d =>
    if d.digits ≠ 0 ∧ d.digits % 10 = 0 then trimZeros fuel ⟨d.digits / 10, d.exponent + 1⟩ else d

/-- The reals that round to `m * 2 ^ e` lie between `low` and `high` quarters of `2 ^ e`; the ends
    belong to them when the mantissa is even. -/
structure Basin where
  low : Nat
  centre : Nat
  high : Nat
  closed : Bool

/-- Below a power of two the numbers stand twice as close. -/
def Basin.of (m : Nat) (e : Int) : Basin where
  low := if m = Binary64.mantissaLimit / 2 ∧ Binary64.leastExponent < e then 4 * m - 1 else 4 * m - 2
  centre := 4 * m
  high := 4 * m + 2
  closed := m % 2 == 0

/-- `x * 2 ^ (e - 2)` against `d * 10 ^ k`, both brought to integers. -/
def compareQuarters (x : Nat) (e : Int) (d : Nat) (k : Int) : Ordering :=
  let two := e - 2
  let left := x * Nat.pow 2 two.toNat * Nat.pow 10 (-k).toNat
  let right := d * Nat.pow 10 k.toNat * Nat.pow 2 (-two).toNat
  compare left right

/-- Whether `d * 10 ^ k` reads back as the number with this basin. -/
def Basin.holds (b : Basin) (e : Int) (d : Nat) (k : Int) : Bool :=
  let below := compareQuarters b.low e d k
  let above := compareQuarters b.high e d k
  if b.closed then below != .gt && above != .lt else below == .lt && above == .gt

/-- The place `p` with `10 ^ (p - 1) ≤ m * 2 ^ e < 10 ^ p`, for a positive mantissa. -/
def pointPlace (m : Nat) (e : Int) : Int :=
  let num := m * Nat.pow 2 e.toNat
  let den := Nat.pow 2 (-e).toNat
  let guess : Int := (Binary64.digitCount num : Int) - (Binary64.digitCount den : Int)
  if den * Nat.pow 10 guess.toNat ≤ num * Nat.pow 10 (-guess).toNat then guess + 1 else guess

/-- The two neighbours of the value on the grid of `10 ^ k`, the nearer one first; a tie prefers the
    even digit. -/
def neighbours (m : Nat) (e : Int) (k : Int) : List Nat :=
  let num := m * Nat.pow 2 e.toNat * Nat.pow 10 (-k).toNat
  let den := Nat.pow 2 (-e).toNat * Nat.pow 10 k.toNat
  let a := num / den
  if roundQuotient num den = a then [a, a + 1] else [a + 1, a]

/-- The fewest digits that read back as `m * 2 ^ e`, tried from `count` digits on. -/
def search (m : Nat) (e : Int) (place : Int) (basin : Basin) : (fuel count : Nat) → Decimal
  | 0, _ => ⟨m * Nat.pow 2 e.toNat, 0⟩
  | fuel + 1, count =>
    let k := place - (count : Int)
    match (neighbours m e k).find? (basin.holds e · k) with
    | some d => trimZeros 400 ⟨d, k⟩
    | none => search m e place basin fuel (count + 1)

/-- The shortest decimal that reads back as `m * 2 ^ e`; seventeen digits always do. -/
def shortest (m : Nat) (e : Int) : Decimal :=
  if m = 0 then ⟨0, 0⟩ else search m e (pointPlace m e) (Basin.of m e) 17 1

end Decimal

/-- How a shortest decimal is laid out: positionally while the decimal point lies strictly above
    `pointAbove` and at most at `pointUpTo` digits, otherwise with an exponent of at least
    `exponentWidth` digits. -/
structure DecimalLayout where
  pointAbove : Int
  pointUpTo : Int
  exponentWidth : Nat

namespace Binary64

/-- Numbers are written positionally from 0.0001 up to sixteen digits before the point, always with a
    digit after it; exponents have a sign and two digits. -/
def layout : DecimalLayout := ⟨-4, 16, 2⟩

def zeros (n : Nat) : String := String.ofList (List.replicate n '0')

/-- The digits `ds` with the decimal point after `place` of them. -/
def layOut (l : DecimalLayout) (ds : List Char) (place : Int) : String :=
  let n : Int := ds.length
  if l.pointAbove < place ∧ place ≤ l.pointUpTo then
    if place ≤ 0 then "0." ++ zeros (-place).toNat ++ String.ofList ds
    else if place < n then
      String.ofList (ds.take place.toNat) ++ "." ++ String.ofList (ds.drop place.toNat)
    else String.ofList ds ++ zeros (place - n).toNat ++ ".0"
  else
    let exponent := place - 1
    let head := String.ofList (ds.take 1)
    let fraction := if ds.length ≤ 1 then "" else "." ++ String.ofList (ds.drop 1)
    let power := toString exponent.natAbs
    head ++ fraction ++ "e" ++ (if exponent < 0 then "-" else "+") ++ zeros (l.exponentWidth - power.length) ++ power

/-- The shortest text that reads back as the number. -/
def text : Binary64 → String
  | .nan => "nan"
  | .infinite s => if s then "-inf" else "inf"
  | .finite s m e =>
    let d := Decimal.shortest m e
    let ds := Nat.toDigits 10 d.digits
    let place := if m = 0 then 1 else d.exponent + (ds.length : Int)
    (if s then "-" else "") ++ layOut layout ds place

/-- `m * 2 ^ e` in units of `10 ^ -places`, a half going to the even neighbour. -/
def unitsAt (m : Nat) (e : Int) (places : Nat) : Nat :=
  if 0 ≤ e then m * Nat.pow 2 e.toNat * Nat.pow 10 places else roundQuotient (m * Nat.pow 10 places) (Nat.pow 2 (-e).toNat)

/-- The number rounded to so many decimal places. -/
def roundTo (places : Nat) : Binary64 → Binary64
  | .nan => .nan
  | .infinite s => .infinite s
  | .finite s m e => ofDecimal s (unitsAt m e places) (-(places : Int))

/-- The number with a fixed count of decimal places. -/
def fixed (places : Nat) : Binary64 → String
  | .nan => "nan"
  | .infinite s => if s then "-inf" else "inf"
  | .finite s m e =>
    let units := unitsAt m e places
    let whole := toString (units / Nat.pow 10 places)
    let part := toString (units % Nat.pow 10 places)
    (if s then "-" else "") ++ whole ++
      (if places = 0 then "" else "." ++ zeros (places - part.length) ++ part)

/-- The number with a fraction dropped, for a finite one. -/
def truncate? : Binary64 → Option Int
  | .finite s m e =>
    some (signed s (if 0 ≤ e then m * Nat.pow 2 e.toNat else m / Nat.pow 2 (-e).toNat))
  | _ => none

/-- The least integer not below the number, for a finite one. -/
def ceiling? : Binary64 → Option Int
  | .finite s m e =>
    if 0 ≤ e then some (signed s (m * Nat.pow 2 e.toNat))
    else
      let den := Nat.pow 2 (-e).toNat
      if s then some (-((m / den : Nat) : Int)) else some (((m + den - 1) / den : Nat) : Int)
  | _ => none

/-- Whether a finite number has no fraction. -/
def isIntegral (x : Binary64) : Bool :=
  match x.truncate? with
  | some i => x.point.order (.dyadic i 0) == some .eq
  | none => false

end Binary64

end ClientMigration
