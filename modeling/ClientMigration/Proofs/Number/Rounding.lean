import ClientMigration.Proofs.Number.Order
import Mathlib.Algebra.Order.Field.Power
import Mathlib.Data.Rat.Floor
import Mathlib.Tactic.Linarith

/-! # Rounding

A positive value is rounded on the grid of an exponent, the least at which the mantissa fits. So rounding never passes a
number of the format, and it leads out of the range exactly from half a step above the greatest number on. -/

namespace ClientMigration

/-! ### Exact values -/

theorem Binary64.cast_pow_toNat {e : ℤ} (h : 0 ≤ e) : ((Nat.pow 2 e.toNat : ℕ) : ℚ) = 2 ^ e := by
  have hcast : ((2 ^ e.toNat : ℕ) : ℚ) = 2 ^ (e.toNat : ℤ) := by
    rw [zpow_natCast]
    push_cast
    rfl
  rwa [Int.toNat_of_nonneg h] at hcast

namespace Point

/-- The point of a value. -/
def Is (p : Point) (x : ℚ) : Prop := ∃ n e, p = .dyadic n e ∧ (n : ℚ) * 2 ^ e = x

namespace Is
variable {p q : Point} {x y : ℚ}

theorem ne_undefined (h : p.Is x) : p ≠ undefined := by
  obtain ⟨n, e, rfl, -⟩ := h
  nofun

theorem atMost_iff (hp : p.Is x) (hq : q.Is y) : p.AtMost q ↔ x ≤ y := by
  obtain ⟨n, e, rfl, rfl⟩ := hp
  obtain ⟨m, f, rfl, rfl⟩ := hq
  have hscale : ∀ (k : ℤ) {g : ℤ}, min e f ≤ g →
      ((k * Nat.pow 2 (g - min e f).toNat : ℤ) : ℚ) * 2 ^ min e f = k * 2 ^ g := by
    intro k g hg
    rw [Int.cast_mul, Int.cast_natCast, Binary64.cast_pow_toNat (by omega), mul_assoc, ← zpow_add₀ two_ne_zero,
      sub_add_cancel]
  rw [dyadic_atMost_iff (Int.min_le_left e f) (Int.min_le_right e f), ← hscale n (Int.min_le_left e f),
    ← hscale m (Int.min_le_right e f), mul_le_mul_iff_left₀ (zpow_pos two_pos _), Int.cast_le]

theorem order_lt_iff (hp : p.Is x) (hq : q.Is y) : p.order q = some .lt ↔ x < y := by
  rw [Point.order_lt_iff hp.ne_undefined hq.ne_undefined, hq.atMost_iff hp, not_le]

end Is
end Point

namespace Number
variable {a : Number} {x : ℚ}

theorem point_int (i : ℤ) : (Number.int i).point.Is i := ⟨i, 0, rfl, by simp⟩

/-- Only values lie above an integer and at most at another. -/
theorem between_iff {i j : ℤ} : (Number.int i).less a = true ∧ a.atMost (.int j) = true ↔
    ∃ x : ℚ, a.point.Is x ∧ i < x ∧ x ≤ j := by
  rw [less_iff, atMost_iff]
  constructor
  · rintro ⟨hless, hmost⟩
    obtain ⟨n, e, hpoint⟩ : ∃ n e, a.point = .dyadic n e := by
      cases hpoint : a.point with
      | dyadic n e => exact ⟨n, e, rfl⟩
      | undefined => exact absurd hpoint hmost.defined.1
      | leftEnd =>
        rw [hpoint] at hless
        cases hless
      | rightEnd =>
        rw [hpoint] at hmost
        rcases hmost with hmost | hmost <;> cases hmost
    have hvalue : a.point.Is ((n : ℚ) * 2 ^ e) := ⟨n, e, hpoint, rfl⟩
    exact ⟨_, hvalue, ((point_int i).order_lt_iff hvalue).mp hless, (hvalue.atMost_iff (point_int j)).mp hmost⟩
  · rintro ⟨x, hx, hi, hj⟩
    exact ⟨((point_int i).order_lt_iff hx).mpr hi, (hx.atMost_iff (point_int j)).mpr hj⟩

end Number

namespace Binary64

theorem ceiling?_finite (s : Bool) (m : ℕ) (e : ℤ) : (finite s m e).ceiling? = some ⌈(signed s m : ℚ) * 2 ^ e⌉ := by
  rw [ceiling?]
  split
  · rename_i he
    have hwhole : (signed s m : ℚ) * 2 ^ e = (signed s (m * Nat.pow 2 e.toNat) : ℤ) := by
      rw [← cast_pow_toNat he]
      cases s <;> simp [signed]
    rw [hwhole, Int.ceil_intCast]
  · rename_i he
    have hquotient : (signed s m : ℚ) * 2 ^ e = signed s m / (Nat.pow 2 (-e).toNat : ℕ) := by
      rw [cast_pow_toNat (by omega), zpow_neg, div_inv_eq_mul]
    have hden : 0 < Nat.pow 2 (-e).toNat := Nat.two_pow_pos _
    rw [hquotient]
    generalize Nat.pow 2 (-e).toNat = den at *
    have hpos : (0 : ℚ) < den := Nat.cast_pos.mpr hden
    cases s with
    | true =>
      have hneg : ((signed true m : ℤ) : ℚ) / den = -(m / den) := by
        rw [signed, if_pos rfl, Int.cast_neg, Int.cast_natCast, neg_div]
      rw [if_pos rfl, hneg, Int.ceil_neg, Rat.floor_natCast_div_natCast, Int.natCast_div]
    | false =>
      have hbelow := Nat.div_mul_le_self (m + den - 1) den
      have habove := Nat.lt_div_mul_add (a := m + den - 1) hden
      rw [if_neg Bool.false_ne_true, Option.some.injEq, eq_comm, Int.ceil_eq_iff, div_le_iff₀ hpos, lt_div_iff₀ hpos,
        signed, if_neg Bool.false_ne_true]
      generalize (m + den - 1) / den = c at *
      have hlow : c * den + 1 ≤ m + den := by omega
      have hhigh : m ≤ c * den := by omega
      rw [← @Nat.cast_le ℚ] at hlow hhigh
      push_cast at hlow hhigh ⊢
      constructor <;> linarith

end Binary64

namespace Number

theorem ceiling_finite (s : Bool) (m : ℕ) (e : ℤ) :
    (Number.float (.finite s m e)).ceiling = .ok ⌈(Binary64.signed s m : ℚ) * 2 ^ e⌉ := by
  change Except.ok ((Binary64.finite s m e).ceiling?.getD 0) = _
  rw [Binary64.ceiling?_finite, Option.getD_some]

theorem isFinite_of_ceiling {y : Binary64} {c : ℤ} (h : (Number.float y).ceiling = .ok c) : y.isFinite = true := by
  cases y with
  | finite s m e => rfl
  | nan => cases h
  | infinite s => cases h

/-- Just the values have a ceiling. -/
theorem ceiling_eq_ok_iff {a : Number} {c : ℤ} : a.ceiling = .ok c ↔ ∃ x : ℚ, a.point.Is x ∧ c = ⌈x⌉ := by
  constructor
  · intro h
    cases a with
    | int i =>
      obtain rfl : i = c := Except.ok.inj h
      exact ⟨i, point_int i, (Int.ceil_intCast i).symm⟩
    | float y =>
      cases y with
      | nan => cases h
      | infinite s => cases h
      | finite s m e =>
        rw [ceiling_finite] at h
        exact ⟨_, ⟨_, _, rfl, rfl⟩, (Except.ok.inj h).symm⟩
  · rintro ⟨x, ⟨n, e, hpoint, rfl⟩, rfl⟩
    cases a with
    | int i =>
      cases hpoint
      rw [ceiling, zpow_zero, mul_one, Int.ceil_intCast]
    | float y =>
      cases y with
      | nan => cases hpoint
      | infinite s => cases s <;> cases hpoint
      | finite s m e =>
        cases hpoint
        exact ceiling_finite s m _

end Number

/-! ### Rounding to an integer -/

/-- The value is rounded to this integer or a lesser one; a half goes to the even neighbour. -/
def RoundsBy (x : ℚ) (k : ℕ) : Prop := if k % 2 = 0 then x ≤ k + 1 / 2 else x < k + 1 / 2

namespace RoundsBy
variable {x : ℚ} {k : ℕ}

theorem of_le (h : x ≤ k) : RoundsBy x k := by
  rw [RoundsBy]
  split <;> linarith

theorem le (h : RoundsBy x k) : x ≤ k + 1 / 2 := by
  rw [RoundsBy] at h
  split at h <;> linarith

end RoundsBy

theorem roundQuotient_le_iff {num den k : ℕ} (hden : 0 < den) : roundQuotient num den ≤ k ↔
    if k % 2 = 0 then 2 * num ≤ (2 * k + 1) * den else 2 * num < (2 * k + 1) * den := by
  have hsplit : num = den * (num / den) + num % den := (Nat.div_add_mod num den).symm
  have hrest : num % den < den := Nat.mod_lt num hden
  rw [roundQuotient]
  generalize num / den = q at *
  generalize num % den = r at *
  subst hsplit
  rcases Nat.lt_trichotomy q k with hlt | rfl | hgt
  · have hstep : den * (q + 1) ≤ den * k := Nat.mul_le_mul_left den hlt
    have hleft : (if 2 * r < den then q else if den < 2 * r then q + 1 else if q % 2 = 0 then q else q + 1) ≤ k := by
      split_ifs <;> omega
    refine iff_of_true hleft ?_
    split <;> nlinarith
  · have hsum : 2 * (den * q + r) = 2 * (q * den) + 2 * r := by ring
    have hlimit : (2 * q + 1) * den = 2 * (q * den) + den := by ring
    rw [hsum, hlimit]
    split_ifs <;> omega
  · have hstep : den * (k + 1) ≤ den * q := Nat.mul_le_mul_left den hgt
    have hleft : ¬(if 2 * r < den then q else if den < 2 * r then q + 1 else if q % 2 = 0 then q else q + 1) ≤ k := by
      split_ifs <;> omega
    refine iff_of_false hleft ?_
    split <;> nlinarith

theorem roundQuotient_le_iff_roundsBy {num den k : ℕ} (hden : 0 < den) :
    roundQuotient num den ≤ k ↔ RoundsBy (num / den) k := by
  have hpos : (0 : ℚ) < den := Nat.cast_pos.mpr hden
  rw [roundQuotient_le_iff hden, RoundsBy]
  split
  · rw [div_le_iff₀ hpos, ← @Nat.cast_le ℚ]
    push_cast
    constructor <;> intro h <;> linarith
  · rw [div_lt_iff₀ hpos, ← @Nat.cast_lt ℚ]
    push_cast
    constructor <;> intro h <;> linarith

namespace Binary64

/-! ### The grid of an exponent -/

section
variable {num den : ℕ} (hden : 0 < den) (e : ℤ) (k : ℕ)
include hden

theorem roundAt_le_iff : roundAt num den e ≤ k ↔ RoundsBy (num / den / 2 ^ e) k := by
  rw [roundAt]
  split
  · rename_i he
    have hpow : 0 < Nat.pow 2 e.toNat := Nat.two_pow_pos _
    rw [roundQuotient_le_iff_roundsBy (Nat.mul_pos hden hpow), Nat.cast_mul, cast_pow_toNat he, div_div]
  · rename_i he
    rw [roundQuotient_le_iff_roundsBy hden, Nat.cast_mul, cast_pow_toNat (by omega), zpow_neg, ← div_eq_mul_inv,
      div_right_comm]

theorem quotientAt_lt_iff : (if 0 ≤ e then num / (den * Nat.pow 2 e.toNat) else num * Nat.pow 2 (-e).toNat / den) < k ↔
    (num / den / 2 ^ e : ℚ) < k := by
  have hquotient : ∀ {n d : ℕ}, 0 < d → (n / d < k ↔ (n / d : ℚ) < k) := by
    intro n d hd
    rw [Nat.div_lt_iff_lt_mul hd, div_lt_iff₀ (Nat.cast_pos.mpr hd)]
    exact_mod_cast Iff.rfl
  split
  · rename_i he
    have hpow : 0 < Nat.pow 2 e.toNat := Nat.two_pow_pos _
    rw [hquotient (Nat.mul_pos hden hpow), Nat.cast_mul, cast_pow_toNat he, div_div]
  · rename_i he
    rw [hquotient hden, Nat.cast_mul, cast_pow_toNat (by omega), zpow_neg, ← div_eq_mul_inv, div_right_comm]

end

/-- A positive value on the grid of an exponent, the least at which the mantissa fits, rounded to the mantissa. -/
structure Rounds (x : ℚ) (m : ℕ) (e : ℤ) : Prop where
  least : leastExponent ≤ e
  below : x / 2 ^ e < 2 ^ 53
  normal : leastExponent < e → 2 ^ 52 ≤ x / 2 ^ e
  nearest : ∀ k, m ≤ k ↔ RoundsBy (x / 2 ^ e) k

theorem log2_bounds {n : ℕ} (h : n ≠ 0) : (2 : ℚ) ^ (n.log2 : ℤ) ≤ n ∧ (n : ℚ) < 2 ^ (n.log2 + 1 : ℤ) := by
  constructor
  · rw [zpow_natCast]
    exact_mod_cast Nat.log2_self_le h
  · have hlt := @Nat.lt_log2_self n
    rw [← Nat.cast_succ, zpow_natCast]
    exact_mod_cast hlt

/-- The binary logarithms of a quotient's parts tell where it lies but for a factor of two on each side. -/
theorem quotient_bounds {num den : ℕ} (hnum : num ≠ 0) (hden : den ≠ 0) :
    (2 : ℚ) ^ ((num.log2 : ℤ) - den.log2 - 1) < num / den ∧ (num / den : ℚ) < 2 ^ ((num.log2 : ℤ) - den.log2 + 1) := by
  obtain ⟨hnlow, hnhigh⟩ := log2_bounds hnum
  obtain ⟨hdlow, hdhigh⟩ := log2_bounds hden
  have hpos : (0 : ℚ) < den := Nat.cast_pos.mpr (Nat.pos_of_ne_zero hden)
  constructor
  · rw [lt_div_iff₀ hpos]
    calc (2 : ℚ) ^ ((num.log2 : ℤ) - den.log2 - 1) * den
        < 2 ^ ((num.log2 : ℤ) - den.log2 - 1) * 2 ^ (den.log2 + 1 : ℤ) :=
          mul_lt_mul_of_pos_left hdhigh (zpow_pos two_pos _)
      _ = 2 ^ (num.log2 : ℤ) := by
          rw [← zpow_add₀ two_ne_zero]
          congr 1
          ring
      _ ≤ num := hnlow
  · rw [div_lt_iff₀ hpos]
    calc (num : ℚ) < 2 ^ (num.log2 + 1 : ℤ) := hnhigh
      _ = 2 ^ ((num.log2 : ℤ) - den.log2 + 1) * 2 ^ (den.log2 : ℤ) := by
          rw [← zpow_add₀ two_ne_zero]
          congr 1
          ring
      _ ≤ 2 ^ ((num.log2 : ℤ) - den.log2 + 1) * den := mul_le_mul_of_nonneg_left hdlow (zpow_pos two_pos _).le

/-- From a guess that is at most one too small, the exponent is found by one comparison. -/
theorem exponent_spec {x : ℚ} {g : ℤ} (hlow : 2 ^ 52 < x / 2 ^ g) (hhigh : x / 2 ^ g < 2 ^ 54) :
    let b := max g leastExponent
    let e := if x / 2 ^ b < 2 ^ 53 then b else b + 1
    leastExponent ≤ e ∧ x / 2 ^ e < 2 ^ 53 ∧ (leastExponent < e → 2 ^ 52 ≤ x / 2 ^ e) := by
  intro b e
  have hhalf : x / 2 ^ (g + 1) = x / 2 ^ g / 2 := by rw [zpow_add_one₀ two_ne_zero, div_div]
  rcases le_or_gt leastExponent g with hle | hgt
  · have hb : b = g := max_eq_left hle
    by_cases hfits : x / 2 ^ g < 2 ^ 53
    · have he : e = g := by rw [← hb]; exact if_pos (hb ▸ hfits)
      rw [he]
      exact ⟨hle, hfits, fun _ => hlow.le⟩
    · have he : e = g + 1 := by rw [← hb]; exact if_neg (hb ▸ hfits)
      rw [he, hhalf]
      refine ⟨by omega, by linarith, fun _ => ?_⟩
      rw [not_lt] at hfits
      linarith
  · have hb : b = leastExponent := max_eq_right hgt.le
    have hpow : (2 : ℚ) ^ (g + 1) ≤ 2 ^ leastExponent := zpow_le_zpow_right₀ one_le_two hgt
    have hx : 0 ≤ x := by
      have hquotient : 0 < x / 2 ^ g := lt_trans (by norm_num) hlow
      exact ((div_pos_iff_of_pos_right (zpow_pos two_pos g)).mp hquotient).le
    have hfits : x / 2 ^ leastExponent < 2 ^ 53 := by
      have hle := div_le_div_of_nonneg_left hx (zpow_pos two_pos (g + 1)) hpow
      rw [hhalf] at hle
      linarith
    have he : e = leastExponent := by rw [← hb]; exact if_pos (hb ▸ hfits)
    rw [he]
    exact ⟨le_rfl, hfits, fun h => absurd h (lt_irrefl _)⟩

/-- The exponent that a quotient is rounded at. -/
theorem exists_rounds (negative : Bool) {num den : ℕ} (hnum : num ≠ 0) (hden : den ≠ 0) :
    ∃ m e, Rounds (num / den) m e ∧ ofRatio negative num den = pack negative m e := by
  have hpos : 0 < den := Nat.pos_of_ne_zero hden
  obtain ⟨hlow, hhigh⟩ := quotient_bounds hnum hden
  have hguess : 2 ^ 52 < (num / den : ℚ) / 2 ^ ((num.log2 : ℤ) - den.log2 - 53) ∧
      (num / den : ℚ) / 2 ^ ((num.log2 : ℤ) - den.log2 - 53) < 2 ^ 54 := by
    rw [lt_div_iff₀ (zpow_pos two_pos _), div_lt_iff₀ (zpow_pos two_pos _), ← zpow_ofNat, ← zpow_ofNat,
      ← zpow_add₀ two_ne_zero, ← zpow_add₀ two_ne_zero]
    exact ⟨lt_of_eq_of_lt (by congr 1; omega) hlow, lt_of_lt_of_eq hhigh (by congr 1; omega)⟩
  obtain ⟨hleast, hbelow, hnormal⟩ := exponent_spec hguess.1 hguess.2
  refine ⟨_, _, ⟨hleast, hbelow, hnormal, fun k => roundAt_le_iff hpos _ k⟩, ?_⟩
  have hlimit : ((mantissaLimit : ℕ) : ℚ) = 2 ^ 53 := by norm_num [mantissaLimit]
  rw [ofRatio, if_neg hnum]
  simp only [quotientAt_lt_iff hpos, hlimit]

namespace Rounds
variable {x : ℚ} {m : ℕ} {e : ℤ} (h : Rounds x m e)
include h

theorem le_limit : m ≤ 2 ^ 53 := by
  refine (h.nearest _).mpr (RoundsBy.of_le ?_)
  push_cast
  exact h.below.le

theorem le_mantissa {k : ℕ} (hk : k ≤ x / 2 ^ e) : k ≤ m := by
  by_contra hlt
  have hle := ((h.nearest (k - 1)).mp (by omega)).le
  have hone : (((k - 1 : ℕ) : ℚ)) = k - 1 := by
    rw [Nat.cast_sub (by omega), Nat.cast_one]
  rw [hone] at hle
  linarith

theorem normal_mantissa (he : leastExponent < e) : 2 ^ 52 ≤ m := by
  refine h.le_mantissa ?_
  push_cast
  exact h.normal he

/-- From one on, values are far above the least exponent. -/
theorem least_lt (hx : 1 ≤ x) : leastExponent < e := by
  by_contra hle
  have hsmall : (2 : ℚ) ^ 53 * 2 ^ e ≤ 1 := by
    rw [← zpow_ofNat, ← zpow_add₀ two_ne_zero]
    exact zpow_le_one_of_nonpos₀ one_le_two (by rw [leastExponent] at hle; omega)
  have hbelow := h.below
  rw [div_lt_iff₀ (zpow_pos two_pos e)] at hbelow
  linarith

theorem value_le : x ≤ (m + 1) * 2 ^ e := by
  have hle := ((h.nearest m).mp le_rfl).le
  rw [← div_le_iff₀ (zpow_pos two_pos e)]
  linarith

/-- Rounding down does not pass a number of the format. -/
theorem le_value {k : ℕ} {f : ℤ} (hk : k ≤ 2 ^ 53) (hf : leastExponent ≤ f) (hx : k * 2 ^ f ≤ x) :
    (k : ℚ) * 2 ^ f ≤ m * 2 ^ e := by
  have hpow : (0 : ℚ) < 2 ^ e := zpow_pos two_pos e
  rcases le_or_gt e f with hle | hgt
  · -- The number lies on the grid of the exponent.
    have hgrid : (k : ℚ) * 2 ^ f = (k * Nat.pow 2 (f - e).toNat : ℕ) * 2 ^ e := by
      rw [Nat.cast_mul, cast_pow_toNat (by omega), mul_assoc, ← zpow_add₀ two_ne_zero, sub_add_cancel]
    rw [hgrid, ← le_div_iff₀ hpow] at hx
    rw [hgrid]
    exact mul_le_mul_of_nonneg_right (Nat.cast_le.mpr (h.le_mantissa hx)) hpow.le
  · have hmantissa : (2 : ℚ) ^ 52 ≤ m := by exact_mod_cast h.normal_mantissa (lt_of_le_of_lt hf hgt)
    calc (k : ℚ) * 2 ^ f ≤ 2 ^ 53 * 2 ^ f := mul_le_mul_of_nonneg_right (by exact_mod_cast hk) (zpow_pos two_pos f).le
      _ = 2 ^ 52 * 2 ^ (f + 1) := by
          rw [zpow_add_one₀ two_ne_zero]
          ring
      _ ≤ 2 ^ 52 * 2 ^ e := mul_le_mul_of_nonneg_left (zpow_le_zpow_right₀ one_le_two hgt) (by norm_num)
      _ ≤ m * 2 ^ e := mul_le_mul_of_nonneg_right hmantissa hpow.le

end Rounds

/-! ### The range -/

/-- Half a step between the greatest numbers. -/
def halfStep : ℚ := 2 ^ (greatestExponent - 1)

theorem halfStep_pos : 0 < halfStep := zpow_pos two_pos _

/-- Values from here on are rounded out of the range. -/
def rangeEnd : ℚ := (2 ^ 54 - 1) * halfStep

/-- The exponents below the greatest, the greatest, and those above it. -/
theorem greatestExponent_cases (e : ℤ) : e < greatestExponent ∧ (2 : ℚ) ^ e ≤ halfStep ∨
    e = greatestExponent ∧ (2 : ℚ) ^ e = 2 * halfStep ∨ greatestExponent < e ∧ 4 * halfStep ≤ 2 ^ e := by
  have hone : (2 : ℚ) ^ greatestExponent = 2 * halfStep := by
    rw [halfStep, mul_comm, ← zpow_add_one₀ two_ne_zero, sub_add_cancel]
  rcases lt_trichotomy e greatestExponent with hlt | rfl | hgt
  · exact Or.inl ⟨hlt, zpow_le_zpow_right₀ one_le_two (Int.le_sub_one_of_lt hlt)⟩
  · exact Or.inr (Or.inl ⟨rfl, hone⟩)
  · refine Or.inr (Or.inr ⟨hgt, ?_⟩)
    have hle : (2 : ℚ) ^ (greatestExponent + 1) ≤ 2 ^ e := zpow_le_zpow_right₀ one_le_two hgt
    rw [zpow_add_one₀ two_ne_zero, hone] at hle
    linarith

/-- Packing keeps the value, or leads out of the range. -/
theorem pack_cases (negative : Bool) (m : ℕ) (e : ℤ) :
    (∃ n f, pack negative m e = .finite negative n f ∧ (n : ℚ) * 2 ^ f = m * 2 ^ e ∧
      (e < greatestExponent ∨ e = greatestExponent ∧ m ≠ 2 ^ 53)) ∨
    pack negative m e = .infinite negative ∧ (greatestExponent < e ∨ e = greatestExponent ∧ m = 2 ^ 53) := by
  have hlimit : mantissaLimit = 2 ^ 53 := rfl
  rw [← hlimit, pack]
  by_cases hm : m = mantissaLimit
  · simp only [if_pos hm]
    split
    · rename_i he
      exact Or.inr ⟨rfl, by omega⟩
    · refine Or.inl ⟨_, _, rfl, ?_, by omega⟩
      rw [hm, hlimit, zpow_add_one₀ two_ne_zero]
      push_cast
      ring
  · simp only [if_neg hm]
    split
    · rename_i he
      exact Or.inr ⟨rfl, Or.inl he⟩
    · exact Or.inl ⟨_, _, rfl, rfl, by omega⟩

theorem isFinite_pack_iff (negative : Bool) (m : ℕ) (e : ℤ) : (pack negative m e).isFinite = true ↔
    e < greatestExponent ∨ e = greatestExponent ∧ m ≠ 2 ^ 53 := by
  rcases pack_cases negative m e with ⟨n, f, hpack, -, hin⟩ | ⟨hpack, hout⟩
  · rw [hpack]
    exact iff_of_true rfl hin
  · rw [hpack]
    exact iff_of_false nofun (by omega)

theorem exists_finite_of_isFinite {negative : Bool} {m : ℕ} {e : ℤ} (h : (pack negative m e).isFinite = true) :
    ∃ n f, pack negative m e = .finite negative n f ∧ (n : ℚ) * 2 ^ f = m * 2 ^ e := by
  rcases pack_cases negative m e with ⟨n, f, hpack, hvalue, -⟩ | ⟨hpack, -⟩
  · exact ⟨n, f, hpack, hvalue⟩
  · rw [hpack] at h
    cases h

theorem Rounds.isFinite_iff {x : ℚ} {m : ℕ} {e : ℤ} (h : Rounds x m e) (negative : Bool) :
    (pack negative m e).isFinite = true ↔ x < rangeEnd := by
  have hunit := halfStep_pos
  have hbelow := h.below
  rw [div_lt_iff₀ (zpow_pos two_pos e)] at hbelow
  rw [isFinite_pack_iff, rangeEnd]
  rcases greatestExponent_cases e with ⟨he, hpow⟩ | ⟨rfl, hpow⟩ | ⟨he, hpow⟩
  · refine iff_of_true (Or.inl he) ?_
    linarith
  · -- The greatest mantissa is odd, so that half a step above it is rounded up.
    have hlimit := h.le_limit
    have hodd : m ≤ 2 ^ 53 - 1 ↔ x / 2 ^ greatestExponent < 2 ^ 53 - 1 / 2 := by
      rw [h.nearest, RoundsBy, if_neg (by norm_num)]
      norm_num
    rw [div_lt_iff₀ (zpow_pos two_pos _), hpow] at hodd
    constructor
    · intro hm
      linarith [hodd.mp (by omega)]
    · intro hx
      have hm := hodd.mpr (by linarith)
      omega
  · refine iff_of_false (by omega) ?_
    have hnormal := h.normal (lt_trans (by decide) he)
    rw [le_div_iff₀ (zpow_pos two_pos e)] at hnormal
    linarith

/-! ### Results of operations -/

theorem ofInt_rounds {i : ℤ} (h : 0 < i) : ∃ m e, Rounds i m e ∧ ofInt i = pack false m e := by
  obtain ⟨m, e, hrounds, hpack⟩ := exists_rounds false (Int.natAbs_ne_zero.mpr h.ne') one_ne_zero
  have hvalue : ((i.natAbs : ℕ) : ℚ) / (1 : ℕ) = i := by
    rw [Nat.cast_one, div_one, ← Int.cast_natCast, Int.natAbs_of_nonneg h.le]
  rw [hvalue] at hrounds
  rw [ofInt, decide_eq_false (not_lt.mpr h.le)]
  exact ⟨m, e, hrounds, hpack⟩

theorem ofScaled_rounds (zeroNegative : Bool) {n : ℤ} (h : 0 < n) (e : ℤ) :
    ∃ m f, Rounds (n * 2 ^ e) m f ∧ ofScaled zeroNegative n e = pack false m f := by
  have hne : n.natAbs ≠ 0 := Int.natAbs_ne_zero.mpr h.ne'
  have hpow : ∀ k : ℕ, Nat.pow 2 k ≠ 0 := fun k => (Nat.two_pow_pos k).ne'
  have hcast : ((n.natAbs : ℕ) : ℚ) = n := by rw [← Int.cast_natCast, Int.natAbs_of_nonneg h.le]
  rw [ofScaled, if_neg h.ne', decide_eq_false (not_lt.mpr h.le)]
  split
  · rename_i he
    obtain ⟨m, f, hrounds, hpack⟩ := exists_rounds false (Nat.mul_ne_zero hne (hpow e.toNat)) one_ne_zero
    rw [Nat.cast_mul, hcast, cast_pow_toNat he, Nat.cast_one, div_one] at hrounds
    exact ⟨m, f, hrounds, hpack⟩
  · rename_i he
    obtain ⟨m, f, hrounds, hpack⟩ := exists_rounds false hne (hpow (-e).toNat)
    rw [hcast, cast_pow_toNat (by omega), zpow_neg, div_inv_eq_mul] at hrounds
    exact ⟨m, f, hrounds, hpack⟩

end Binary64

end ClientMigration
