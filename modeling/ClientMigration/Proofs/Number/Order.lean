import ClientMigration.Number.Basic

/-! # The order of numbers

The order compares exact values, and zeros of either kind and sign are one value. So what was raised to zero
where it lay below, or was no number at all, is not below a zero. Proper numbers are in total order. -/

namespace ClientMigration

namespace Point

theorem order_dyadic (n e m f : Int) : (dyadic n e).order (dyadic m f) =
    some (compare (n * Nat.pow 2 (e - min e f).toNat) (m * Nat.pow 2 (f - min e f).toNat)) := rfl

theorem mul_pow_pos_iff {n : Int} {k : Nat} : 0 < n * (Nat.pow 2 k : Nat) ↔ 0 < n := by
  have hk : 0 < ((Nat.pow 2 k : Nat) : Int) := Int.natCast_pos.mpr (Nat.two_pow_pos k)
  exact ⟨fun h => Int.pos_of_mul_pos_left h hk, fun h => Int.mul_pos h hk⟩

theorem mul_pow_neg_iff {n : Int} {k : Nat} : n * (Nat.pow 2 k : Nat) < 0 ↔ n < 0 := by
  have h := @mul_pow_pos_iff (-n) k
  rw [Int.neg_mul] at h
  omega

/-- Above zero lie the right end and the positive values. -/
theorem zero_order_lt_iff {f : Int} {p : Point} :
    (dyadic 0 f).order p = some .lt ↔ p = rightEnd ∨ ∃ n e, p = dyadic n e ∧ 0 < n := by
  cases p with
  | undefined => simp [order]
  | leftEnd => simp [order]
  | rightEnd => simp [order]
  | dyadic n e =>
    rw [order_dyadic, Option.some.injEq, Int.zero_mul, Int.compare_eq_lt, mul_pow_pos_iff]
    simp

/-- Below zero lie the left end and the negative values. -/
theorem order_zero_lt_iff {f : Int} {p : Point} :
    p.order (dyadic 0 f) = some .lt ↔ p = leftEnd ∨ ∃ n e, p = dyadic n e ∧ n < 0 := by
  cases p with
  | undefined => simp [order]
  | leftEnd => simp [order]
  | rightEnd => simp [order]
  | dyadic n e =>
    rw [order_dyadic, Option.some.injEq, Int.zero_mul, Int.compare_eq_lt, mul_pow_neg_iff]
    simp

theorem compare_mul_right {x y k : Int} (h : 0 < k) : compare (x * k) (y * k) = compare x y := by
  rcases Int.lt_trichotomy x y with hlt | rfl | hgt
  · rw [Int.compare_eq_lt.mpr hlt, Int.compare_eq_lt.mpr (Int.mul_lt_mul_of_pos_right hlt h)]
  · rw [Int.compare_eq_eq.mpr rfl, Int.compare_eq_eq.mpr rfl]
  · rw [Int.compare_eq_gt.mpr hgt, Int.compare_eq_gt.mpr (Int.mul_lt_mul_of_pos_right hgt h)]

/-- Two exact values compare as their multiples of any power of two that is at most those of both. -/
theorem order_dyadic_at {n e m f b : Int} (he : b ≤ e) (hf : b ≤ f) : (dyadic n e).order (dyadic m f) =
    some (compare (n * Nat.pow 2 (e - b).toNat) (m * Nat.pow 2 (f - b).toNat)) := by
  have hsplit : ∀ {x : Int}, min e f ≤ x →
      (Nat.pow 2 (x - b).toNat : Int) = Nat.pow 2 (x - min e f).toNat * Nat.pow 2 (min e f - b).toNat := by
    intro x hx
    have hsum : (x - b).toNat = (x - min e f).toNat + (min e f - b).toNat := by omega
    have hpow : Nat.pow 2 (x - b).toNat = Nat.pow 2 (x - min e f).toNat * Nat.pow 2 (min e f - b).toNat := by
      rw [hsum]
      exact Nat.pow_add 2 _ _
    rw [hpow, Int.natCast_mul]
  have hpos : 0 < (Nat.pow 2 (min e f - b).toNat : Int) := Int.natCast_pos.mpr (Nat.two_pow_pos _)
  rw [order_dyadic, hsplit (Int.min_le_left e f), hsplit (Int.min_le_right e f), ← Int.mul_assoc, ← Int.mul_assoc,
    compare_mul_right hpos]

/-- Below or equal, which only points are. -/
def AtMost (p q : Point) : Prop := p.order q = some .lt ∨ p.order q = some .eq

theorem dyadic_atMost_iff {n e m f b : Int} (he : b ≤ e) (hf : b ≤ f) : (dyadic n e).AtMost (dyadic m f) ↔
    n * Nat.pow 2 (e - b).toNat ≤ m * Nat.pow 2 (f - b).toNat := by
  rw [AtMost, order_dyadic_at he hf, Option.some.injEq, Option.some.injEq, Int.compare_eq_lt, Int.compare_eq_eq]
  omega

theorem AtMost.trans {p q r : Point} (hpq : p.AtMost q) (hqr : q.AtMost r) : p.AtMost r := by
  cases p with
  | undefined => simp [AtMost, order] at hpq
  | leftEnd => cases r <;> cases q <;> simp [AtMost, order] at hqr ⊢
  | rightEnd =>
    cases q <;> simp [AtMost, order] at hpq
    exact hqr
  | dyadic n e =>
    cases r with
    | undefined => cases q <;> simp [AtMost, order] at hqr
    | leftEnd => cases q <;> simp [AtMost, order] at hpq hqr
    | rightEnd => simp [AtMost, order]
    | dyadic m f =>
      cases q with
      | undefined => simp [AtMost, order] at hqr
      | leftEnd => simp [AtMost, order] at hpq
      | rightEnd => simp [AtMost, order] at hqr
      | dyadic k g =>
        -- All three are multiples of the least of their powers of two.
        have he : min e (min g f) ≤ e := Int.min_le_left _ _
        have hg : min e (min g f) ≤ g := Int.le_trans (Int.min_le_right _ _) (Int.min_le_left _ _)
        have hf : min e (min g f) ≤ f := Int.le_trans (Int.min_le_right _ _) (Int.min_le_right _ _)
        rw [dyadic_atMost_iff he hg] at hpq
        rw [dyadic_atMost_iff hg hf] at hqr
        exact (dyadic_atMost_iff he hf).mpr (Int.le_trans hpq hqr)

/-- Of two points, one is below the other exactly if that is not at most it. -/
theorem order_lt_iff {p q : Point} (hp : p ≠ undefined) (hq : q ≠ undefined) :
    p.order q = some .lt ↔ ¬q.AtMost p := by
  cases p with
  | undefined => exact absurd rfl hp
  | leftEnd => cases q <;> simp [AtMost, order] at hq ⊢
  | rightEnd => cases q <;> simp [AtMost, order] at hq ⊢
  | dyadic n e =>
    cases q with
    | undefined => exact absurd rfl hq
    | leftEnd => simp [AtMost, order]
    | rightEnd => simp [AtMost, order]
    | dyadic m f =>
      rw [dyadic_atMost_iff (Int.min_le_right e f) (Int.min_le_left e f), order_dyadic, Option.some.injEq,
        Int.compare_eq_lt]
      omega

theorem AtMost.defined {p q : Point} (h : p.AtMost q) : p ≠ undefined ∧ q ≠ undefined := by
  constructor
  · rintro rfl
    simp [AtMost, order] at h
  · rintro rfl
    cases p <;> simp [AtMost, order] at h

end Point

namespace Number

theorem exists_point_of_isZero {z : Number} (h : z.isZero = true) : ∃ e, z.point = .dyadic 0 e := by
  cases z with
  | int i => exact ⟨0, congrArg (Point.dyadic · 0) (beq_iff_eq.mp h)⟩
  | float x =>
    cases x with
    | nan => cases h
    | infinite s => cases h
    | finite s m e =>
      obtain rfl : m = 0 := beq_iff_eq.mp h
      exact ⟨e, by cases s <;> rfl⟩

/-- The greater of a zero and any other number is not below a zero. -/
theorem greatest_zero_not_less {z x w : Number} (hz : z.isZero = true) (hw : w.isZero = true) :
    (greatest z x).less w = false := by
  obtain ⟨e, he⟩ := exists_point_of_isZero hz
  obtain ⟨f, hf⟩ := exists_point_of_isZero hw
  rw [← Bool.not_eq_true, less, beq_iff_eq, hf, Point.order_zero_lt_iff, greatest]
  split
  · rename_i hless
    rw [less, beq_iff_eq, he, Point.zero_order_lt_iff] at hless
    rcases hless with hx | ⟨n, k, hx, hn⟩
    · simp [hx]
    · rw [hx]
      rintro (h | ⟨m, j, h, hm⟩)
      · cases h
      · cases h
        omega
  · rw [he]
    simp

theorem less_iff {a b : Number} : a.less b = true ↔ a.point.order b.point = some .lt := beq_iff_eq

theorem atMost_iff {a b : Number} : a.atMost b = true ↔ a.point.AtMost b.point := by
  rw [atMost, Point.AtMost]
  cases a.point.order b.point with
  | none => simp
  | some o => cases o <;> simp

/-- A number in the proper sense. -/
def IsDefined (a : Number) : Prop := a.point ≠ .undefined

theorem atMost_trans {a b c : Number} (hab : a.atMost b = true) (hbc : b.atMost c = true) : a.atMost c = true :=
  atMost_iff.mpr ((atMost_iff.mp hab).trans (atMost_iff.mp hbc))

/-- Proper numbers are compared either way. -/
theorem less_eq_false_iff {a b : Number} (ha : a.IsDefined) (hb : b.IsDefined) :
    a.less b = false ↔ b.atMost a = true := by
  rw [← Bool.not_eq_true, less_iff, Point.order_lt_iff ha hb, Classical.not_not, atMost_iff]

theorem atMost_total {a b : Number} (ha : a.IsDefined) (hb : b.IsDefined) : a.atMost b = true ∨ b.atMost a = true := by
  rw [← less_eq_false_iff ha hb, ← Bool.not_eq_true, less_iff, atMost_iff]
  exact Classical.or_iff_not_imp_right.mpr fun h => Or.inl (Classical.not_not.mp h)

/-- What was raised to a proper number is one. -/
theorem isDefined_greatest {z : Number} (h : z.IsDefined) (x : Number) : (greatest z x).IsDefined := by
  rw [greatest]
  split
  · rename_i hless
    rw [less_iff] at hless
    exact (Point.AtMost.defined (Or.inl hless)).2
  · exact h

theorem less_of_less_of_atMost {a b c : Number} (hab : a.less b = true) (hbc : b.atMost c = true) : a.less c = true := by
  have hpoints := Point.AtMost.defined (Or.inl (less_iff.mp hab))
  have hc : c.IsDefined := (atMost_iff.mp hbc).defined.2
  rw [less_iff, Point.order_lt_iff hpoints.1 hpoints.2] at hab
  rw [less_iff, Point.order_lt_iff hpoints.1 hc]
  exact fun hca => hab ((atMost_iff.mp hbc).trans hca)

theorem less_of_atMost_of_less {a b c : Number} (hab : a.atMost b = true) (hbc : b.less c = true) : a.less c = true := by
  have hpoints := Point.AtMost.defined (Or.inl (less_iff.mp hbc))
  have ha : a.IsDefined := (atMost_iff.mp hab).defined.1
  rw [less_iff, Point.order_lt_iff hpoints.1 hpoints.2] at hbc
  rw [less_iff, Point.order_lt_iff ha hpoints.2]
  exact fun hca => hbc (hca.trans (atMost_iff.mp hab))

end Number

end ClientMigration
