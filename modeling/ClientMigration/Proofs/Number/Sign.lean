import ClientMigration.Proofs.Number.Rounding

/-! # Numbers that are not below zero

Sums and products of numbers that are not below zero are not either. What is no number at all counts as not below zero,
since the order does not put it below anything. -/

namespace ClientMigration

namespace Binary64

/-- Neither a negative number nor the negative infinity. -/
def NotBelowZero : Binary64 → Prop
  | .nan => True
  | .infinite s => s = false
  | .finite s m _ => s = false ∨ m = 0

theorem notBelowZero_pack (m : ℕ) (e : ℤ) : (pack false m e).NotBelowZero := by
  rcases pack_cases false m e with ⟨n, f, hpack, -⟩ | ⟨hpack, -⟩
  · rw [hpack]
    exact Or.inl rfl
  · rw [hpack]
    rfl

theorem notBelowZero_ofRatio (num den : ℕ) : (ofRatio false num den).NotBelowZero := by
  rw [ofRatio]
  split
  · exact Or.inl rfl
  · exact notBelowZero_pack _ _

theorem notBelowZero_ofInt {i : ℤ} (h : 0 ≤ i) : (ofInt i).NotBelowZero := by
  rw [ofInt, decide_eq_false (not_lt.mpr h)]
  exact notBelowZero_ofRatio _ _

theorem notBelowZero_ofScaled (zeroNegative : Bool) {n : ℤ} (h : 0 ≤ n) (e : ℤ) :
    (ofScaled zeroNegative n e).NotBelowZero := by
  rw [ofScaled, decide_eq_false (not_lt.mpr h)]
  split
  · exact Or.inr rfl
  · split <;> exact notBelowZero_ofRatio _ _

theorem signed_nonneg_iff {s : Bool} {m : ℕ} : 0 ≤ signed s m ↔ s = false ∨ m = 0 := by
  cases s with
  | false => exact iff_of_true (Int.natCast_nonneg m) (Or.inl rfl)
  | true => simp [signed]

theorem rescale_nonneg {s : Bool} {m : ℕ} {e : ℤ} (h : (finite s m e).NotBelowZero) (base : ℤ) :
    0 ≤ rescale s m e base :=
  signed_nonneg_iff.mpr (h.imp_right fun hm => by rw [hm, Nat.zero_mul])

variable {x y : Binary64} (hx : x.NotBelowZero) (hy : y.NotBelowZero)
include hx hy

theorem NotBelowZero.add : (x.add y).NotBelowZero := by
  cases x with
  | nan => exact trivial
  | infinite s =>
    obtain rfl : s = false := hx
    cases y with
    | nan => exact trivial
    | infinite t =>
      obtain rfl : t = false := hy
      rfl
    | finite t n f => rfl
  | finite s m e =>
    cases y with
    | nan => exact trivial
    | infinite t => exact hy
    | finite t n f =>
      exact notBelowZero_ofScaled _ (Int.add_nonneg (rescale_nonneg hx _) (rescale_nonneg hy _)) _

theorem NotBelowZero.mul : (x.mul y).NotBelowZero := by
  cases x with
  | nan => exact trivial
  | infinite s =>
    obtain rfl : s = false := hx
    cases y with
    | nan => exact trivial
    | infinite t =>
      obtain rfl : t = false := hy
      rfl
    | finite t n f =>
      rw [Binary64.mul]
      split
      · exact trivial
      · rename_i hn
        obtain rfl := hy.resolve_right hn
        rfl
  | finite s m e =>
    cases y with
    | nan => exact trivial
    | infinite t =>
      obtain rfl : t = false := hy
      rw [Binary64.mul]
      split
      · exact trivial
      · rename_i hm
        obtain rfl := hx.resolve_right hm
        rfl
    | finite t n f =>
      refine notBelowZero_ofScaled _ (signed_nonneg_iff.mpr ?_) _
      rcases hx with rfl | rfl
      · rcases hy with rfl | rfl
        · exact Or.inl rfl
        · exact Or.inr (Nat.mul_zero m)
      · exact Or.inr (Nat.zero_mul n)

end Binary64

namespace Number
variable {a b : Number}

/-- Not below zero, which what is no number is not either. -/
def NotBelowZero (a : Number) : Prop := a.less 0 = false

theorem notBelowZero_iff : a.NotBelowZero ↔ ¬(a.point = .leftEnd ∨ ∃ n e, a.point = .dyadic n e ∧ n < 0) := by
  rw [NotBelowZero, ← Bool.not_eq_true, less_iff]
  exact not_congr Point.order_zero_lt_iff

theorem notBelowZero_int {i : ℤ} : (Number.int i).NotBelowZero ↔ 0 ≤ i := by
  rw [notBelowZero_iff, ← not_lt, not_iff_not]
  constructor
  · rintro (h | ⟨n, e, h, hn⟩)
    · cases h
    · cases h
      exact hn
  · exact fun h => Or.inr ⟨i, 0, rfl, h⟩

theorem notBelowZero_float {y : Binary64} : (Number.float y).NotBelowZero ↔ y.NotBelowZero := by
  rw [notBelowZero_iff]
  cases y with
  | nan => simp [point, Binary64.point, Binary64.NotBelowZero]
  | infinite s => cases s <;> simp [point, Binary64.point, Binary64.NotBelowZero]
  | finite s m e =>
    rw [Binary64.NotBelowZero, ← Binary64.signed_nonneg_iff, ← not_lt, not_iff_not]
    constructor
    · rintro (h | ⟨n, f, h, hn⟩)
      · cases h
      · cases h
        exact hn
    · exact fun h => Or.inr ⟨_, e, rfl, h⟩

theorem NotBelowZero.toBinary64 (h : a.NotBelowZero) : a.toBinary64.NotBelowZero := by
  cases a with
  | int i => exact Binary64.notBelowZero_ofInt (notBelowZero_int.mp h)
  | float y => exact notBelowZero_float.mp h

theorem NotBelowZero.add (ha : a.NotBelowZero) (hb : b.NotBelowZero) : (a + b).NotBelowZero := by
  have hfloat : (Number.float (a.toBinary64.add b.toBinary64)).NotBelowZero :=
    notBelowZero_float.mpr (ha.toBinary64.add hb.toBinary64)
  cases a with
  | float y => exact hfloat
  | int i =>
    cases b with
    | float y => exact hfloat
    | int j => exact notBelowZero_int.mpr (Int.add_nonneg (notBelowZero_int.mp ha) (notBelowZero_int.mp hb))

theorem NotBelowZero.mul (ha : a.NotBelowZero) (hb : b.NotBelowZero) : (a * b).NotBelowZero := by
  have hfloat : (Number.float (a.toBinary64.mul b.toBinary64)).NotBelowZero :=
    notBelowZero_float.mpr (ha.toBinary64.mul hb.toBinary64)
  cases a with
  | float y => exact hfloat
  | int i =>
    cases b with
    | float y => exact hfloat
    | int j => exact notBelowZero_int.mpr (Int.mul_nonneg (notBelowZero_int.mp ha) (notBelowZero_int.mp hb))

/-- What is at most some number, and not below zero, lies above minus one. -/
theorem NotBelowZero.minus_one_less (ha : a.NotBelowZero) (hb : a.atMost b = true) :
    (Number.int (-1)).less a = true := by
  have hdefined : a.IsDefined := (atMost_iff.mp hb).defined.1
  have hzero : (0 : Number).atMost a = true := (less_eq_false_iff hdefined (point_int 0).ne_undefined).mp ha
  exact less_of_less_of_atMost (by decide) hzero

end Number

end ClientMigration
