import ClientMigration.Proofs.Number.Sign
import ClientMigration.Proofs.Planning.Phases
import ClientMigration.Settings.Reader

/-! # The hours of a plan

A plan tells its hours as a range. The range is in order, and does not begin below zero, exactly if the hours lie above
minus one and half as much again is still in the range of the binary format. Nothing bounds the hours of the settings,
so both can fail; if none of them is negative only the second can. -/

namespace ClientMigration

namespace Plan
open Binary64

/-! ### Half as much again -/

/-- The most hours for which half as much again is in the range. -/
def mostHours : ℤ := 12009599006321321 * 2 ^ 970

theorem cast_mostHours : (mostHours : ℚ) = 12009599006321321 * halfStep := by
  have hpow : halfStep = 2 ^ 970 := by
    rw [halfStep, ← zpow_natCast]
    rfl
  rw [mostHours, hpow, Int.cast_mul, Int.cast_pow]
  rfl

theorem mostHours_lt_rangeEnd : (mostHours : ℚ) < rangeEnd := by
  rw [cast_mostHours, rangeEnd]
  linarith [halfStep_pos]

/-- Half as much again stays in the range exactly if the hours are rounded to less than two thirds of its end. At the
    greatest exponent these are mantissas up to an even one, so half a step above it still is rounded down to it. -/
theorem half_again_lt_iff {x : ℚ} {m : ℕ} {e : ℤ} (h : Rounds x m e) :
    (m : ℚ) * 2 ^ e * (3 / 2) < rangeEnd ↔ x ≤ mostHours := by
  have hunit := halfStep_pos
  have hbelow := h.below
  rw [div_lt_iff₀ (zpow_pos two_pos e)] at hbelow
  have hlimit : (m : ℚ) ≤ 2 ^ 53 := by exact_mod_cast h.le_limit
  rw [cast_mostHours, rangeEnd]
  rcases greatestExponent_cases e with ⟨he, hpow⟩ | ⟨rfl, hpow⟩ | ⟨he, hpow⟩
  · have hvalue : (m : ℚ) * 2 ^ e ≤ 2 ^ 53 * halfStep :=
      mul_le_mul hlimit hpow (zpow_pos two_pos e).le (by norm_num)
    exact iff_of_true (by linarith) (by linarith)
  · have heven : m ≤ 6004799503160660 ↔ x / 2 ^ greatestExponent ≤ 6004799503160660 + 1 / 2 := by
      rw [h.nearest, RoundsBy, if_pos (by norm_num)]
      norm_num
    rw [div_le_iff₀ (zpow_pos two_pos _), hpow] at heven
    rw [hpow]
    constructor
    · intro hless
      have hm : m ≤ 6004799503160660 := by
        have hthree : (3 * m : ℚ) < 2 ^ 54 - 1 := by nlinarith
        have hnat : 3 * m < 2 ^ 54 - 1 := by
          rw [← @Nat.cast_lt ℚ]
          push_cast
          linarith
        omega
      linarith [heven.mp hm]
    · intro hmost
      have hm : (m : ℚ) ≤ 6004799503160660 := by exact_mod_cast heven.mpr (by linarith)
      nlinarith
  · have hleast : leastExponent < e := lt_trans (by decide) he
    have hnormal := h.normal hleast
    have hmantissa : (2 : ℚ) ^ 52 ≤ m := by exact_mod_cast h.normal_mantissa hleast
    rw [le_div_iff₀ (zpow_pos two_pos e)] at hnormal
    have hvalue : 2 ^ 52 * (4 * halfStep) ≤ (m : ℚ) * 2 ^ e :=
      mul_le_mul hmantissa hpow (mul_pos four_pos hunit).le (Nat.cast_nonneg m)
    exact iff_of_false (by linarith) (by linarith)

theorem decimal_three_halves : Number.decimal 15 1 = .float (.finite false 6755399441055744 (-52)) := by decide +kernel

/-- Half as much again as a positive integer in the range is rounded twice. -/
theorem half_again_rounds {lo : ℤ} (hlo : 0 < lo) {m : ℕ} {e : ℤ} (h : Rounds lo m e)
    (hpack : Binary64.ofInt lo = pack false m e) (hfinite : (pack false m e).isFinite = true) :
    ∃ n f, Rounds (m * 2 ^ e * (3 / 2)) n f ∧ Number.int lo * .decimal 15 1 = .float (pack false n f) := by
  obtain ⟨k, g, hk, hvalue⟩ := exists_finite_of_isFinite hfinite
  have hpos : 0 < k := by
    have hmantissa := h.normal_mantissa (h.least_lt (by exact_mod_cast hlo))
    have hproduct : (0 : ℚ) < k * 2 ^ g := by
      rw [hvalue]
      exact mul_pos (Nat.cast_pos.mpr (by omega)) (zpow_pos two_pos e)
    exact Nat.cast_pos.mp ((mul_pos_iff_of_pos_right (zpow_pos two_pos g)).mp hproduct)
  have hproduct : Number.int lo * .decimal 15 1 = .float (ofScaled false (k * 6755399441055744 : ℕ) (g + -52)) := by
    rw [decimal_three_halves]
    change Number.float ((Binary64.ofInt lo).mul _) = _
    rw [hpack, hk]
    rfl
  obtain ⟨n, f, hrounds, hresult⟩ := ofScaled_rounds false (n := (k * 6755399441055744 : ℕ)) (by omega) (g + -52)
  rw [hproduct, hresult]
  refine ⟨n, f, ?_, rfl⟩
  convert hrounds using 1
  rw [← hvalue, zpow_add₀ two_ne_zero]
  push_cast
  norm_num
  ring

/-- What half as much again is rounded to does not lie below the hours. -/
theorem le_half_again {lo : ℤ} (hlo : 0 < lo) {m n : ℕ} {e f : ℤ} (h : Rounds lo m e)
    (hhalf : Rounds (m * 2 ^ e * (3 / 2)) n f) : (lo : ℚ) ≤ n * 2 ^ f := by
  have hleast := h.least_lt (by exact_mod_cast hlo)
  have hmantissa : (2 : ℚ) ^ 52 ≤ m := by exact_mod_cast h.normal_mantissa hleast
  have hpow : (0 : ℚ) < 2 ^ e := zpow_pos two_pos e
  -- The hours lie at most at the next number of the grid, or at the limit of the mantissa.
  obtain ⟨k, hk, hknext, hlok⟩ : ∃ k : ℕ, k ≤ 2 ^ 53 ∧ k ≤ m + 1 ∧ (lo : ℚ) ≤ k * 2 ^ e := by
    rcases h.le_limit.lt_or_eq with hlt | heq
    · exact ⟨m + 1, hlt, le_rfl, by exact_mod_cast h.value_le⟩
    · refine ⟨2 ^ 53, le_rfl, by omega, ?_⟩
      rw [← div_le_iff₀ hpow]
      exact_mod_cast h.below.le
  have hstep : (k : ℚ) ≤ m + 1 := by exact_mod_cast hknext
  refine hlok.trans (hhalf.le_value hk hleast.le ?_)
  rw [mul_right_comm]
  exact mul_le_mul_of_nonneg_right (by linarith) hpow.le

/-- Positive hours have an upper end exactly up to the greatest, and it does not lie below them. -/
theorem upperHours_of_pos {lo : ℤ} (hlo : 0 < lo) :
    lo ≤ mostHours ∧ (∃ hi, upperHours lo = .ok hi ∧ lo ≤ hi) ∨ mostHours < lo ∧ ∀ hi, upperHours lo ≠ .ok hi := by
  obtain ⟨m, e, h, hpack⟩ := Binary64.ofInt_rounds hlo
  have hfinite := h.isFinite_iff false
  have hrange : (Number.int lo).beyondRange = !(pack false m e).isFinite := by rw [← hpack]; rfl
  have hmost : (lo : ℚ) ≤ mostHours ↔ lo ≤ mostHours := Int.cast_le
  rw [upperHours, hrange]
  cases hin : (pack false m e).isFinite with
  | false =>
    refine Or.inr ⟨?_, nofun⟩
    rw [hin] at hfinite
    have hout : rangeEnd ≤ lo := not_lt.mp fun hlt => Bool.false_ne_true (hfinite.mpr hlt)
    exact_mod_cast mostHours_lt_rangeEnd.trans_le hout
  | true =>
    obtain ⟨n, f, hhalf, hproduct⟩ := half_again_rounds hlo h hpack hin
    have hagain := hhalf.isFinite_iff false
    rw [half_again_lt_iff h, hmost] at hagain
    rw [hproduct]
    cases hend : (pack false n f).isFinite with
    | true =>
      obtain ⟨k, g, hk, hvalue⟩ := exists_finite_of_isFinite hend
      have hceiling : (Number.float (pack false n f)).ceiling = .ok _ := hk ▸ Number.ceiling_finite false k g
      refine Or.inl ⟨hagain.mp hend, _, hceiling, ?_⟩
      have hle := le_half_again hlo h hhalf
      rw [← hvalue] at hle
      exact_mod_cast hle.trans (Int.le_ceil _)
    | false =>
      refine Or.inr ⟨not_le.mp fun hle => ?_, fun hi hok => ?_⟩
      · rw [hagain.mpr hle] at hend
        cases hend
      · rw [Number.isFinite_of_ceiling hok] at hend
        cases hend

theorem upperHours_zero : upperHours 0 = .ok 0 := by decide +kernel

/-- Hours from zero on have an upper end exactly up to the greatest, and it does not lie below them. -/
theorem upperHours_of_nonneg {lo : ℤ} (h : 0 ≤ lo) :
    lo ≤ mostHours ∧ (∃ hi, upperHours lo = .ok hi ∧ lo ≤ hi) ∨ mostHours < lo ∧ ∀ hi, upperHours lo ≠ .ok hi := by
  rcases h.eq_or_lt with rfl | hpos
  · refine Or.inl ⟨?_, 0, upperHours_zero, le_rfl⟩
    rw [mostHours]
    positivity
  · exact upperHours_of_pos hpos

/-! ### Texts of ranges -/

theorem head?_toString_of_nonneg {a : ℤ} (h : 0 ≤ a) : ∃ c, (toString a).toList.head? = some c ∧ c ≠ '-' := by
  obtain ⟨n, rfl⟩ := Int.eq_ofNat_of_zero_le h
  have hdigits : (toString (n : ℤ)).toList = Nat.toDigits 10 n := Nat.toList_repr
  rw [hdigits]
  cases hcs : Nat.toDigits 10 n with
  | nil => exact absurd hcs Nat.toDigits_ne_nil
  | cons c cs =>
    have hdigit := Nat.isDigit_of_mem_toDigits (c := c) (by decide) (by decide) (hcs ▸ List.mem_cons_self)
    refine ⟨c, rfl, ?_⟩
    rintro rfl
    cases hdigit

theorem head?_toString_of_neg {a : ℤ} (h : a < 0) : (toString a).toList.head? = some '-' := by
  obtain ⟨n, rfl⟩ := Int.eq_negSucc_of_lt_zero h
  change ("-" ++ toString (n + 1)).toList.head? = _
  rw [String.toList_append]
  rfl

theorem head?_range {a : ℤ} {c : Char} (h : (toString a).toList.head? = some c) (b : ℤ) :
    (s!"{a}-{b} hours").toList.head? = some c := by
  simp only [String.toList_append, List.head?_append, h]
  rfl

/-- The text of a range tells whether it begins below zero. -/
theorem nonneg_of_text_eq {lo hi a b : ℤ} (h : s!"{a}-{b} hours" = s!"{lo}-{hi} hours") (hlo : 0 ≤ lo) : 0 ≤ a := by
  by_contra hneg
  obtain ⟨c, hc, hne⟩ := head?_toString_of_nonneg hlo
  have hhead := head?_range (head?_toString_of_neg (not_le.mp hneg)) b
  rw [h, head?_range hc hi] at hhead
  exact hne (Option.some.inj hhead)

/-! ### Plans with a range in order -/

/-- The hours of the effort, or of the settings in place of none. -/
def baseHours (s : Settings.Plan) (effort : Number) : Number := if effort.isZero then .int s.defaultHours else effort

/-- The hours that optimizations add. -/
def extraHours (s : Settings.Plan) (optimizations : ℕ) : Number := .int (s.optimizationHours * optimizations)

section
variable {s : Settings.Plan} {effort : Number} {n : ℕ}

theorem lowerHours_eq_ok_iff {lo : ℤ} : lowerHours s effort n = .ok lo ↔
    (baseHours s effort).mixable (extraHours s n) = true ∧ (baseHours s effort + extraHours s n).ceiling = .ok lo := by
  rw [lowerHours, ← baseHours, ← extraHours]
  split <;> simp [*]

theorem durationOf_eq_ok_iff {text : String} : durationOf s effort n = .ok text ↔
    ∃ lo hi, lowerHours s effort n = .ok lo ∧ upperHours lo = .ok hi ∧ text = s!"{lo}-{hi} hours" := by
  rw [durationOf]
  cases lowerHours s effort n with
  | error e => exact iff_of_false nofun nofun
  | ok lo =>
    change (upperHours lo >>= fun hi => Except.ok s!"{lo}-{hi} hours") = .ok text ↔ _
    cases hhi : upperHours lo with
    | error e =>
      refine iff_of_false nofun ?_
      rintro ⟨lo', hi, hlo, hhi', -⟩
      cases hlo
      rw [hhi] at hhi'
      cases hhi'
    | ok hi =>
      constructor
      · intro h
        exact ⟨lo, hi, rfl, hhi, (Except.ok.inj h).symm⟩
      · rintro ⟨lo', hi', hlo, hhi', rfl⟩
        cases hlo
        rw [hhi] at hhi'
        cases hhi'
        rfl

/-- The range of hours is in order and does not begin below zero exactly if the hours can be added, lie above minus one
    and are at most the greatest. -/
theorem durationOf_ordered_iff : (∃ lo hi : ℤ, durationOf s effort n = .ok s!"{lo}-{hi} hours" ∧ 0 ≤ lo ∧ lo ≤ hi) ↔
    (baseHours s effort).mixable (extraHours s n) = true ∧
      (Number.int (-1)).less (baseHours s effort + extraHours s n) = true ∧
      (baseHours s effort + extraHours s n).atMost (.int mostHours) = true := by
  have hceil : ∀ x : ℚ, 0 ≤ ⌈x⌉ ↔ ((-1 : ℤ) : ℚ) < x := by
    intro x
    rw [Int.le_ceil_iff]
    norm_num
  rw [Number.between_iff]
  constructor
  · rintro ⟨a, b, hduration, ha, -⟩
    obtain ⟨lo, hi, hlo, hhi, htext⟩ := durationOf_eq_ok_iff.mp hduration
    obtain ⟨hmix, hceiling⟩ := lowerHours_eq_ok_iff.mp hlo
    obtain ⟨x, hx, rfl⟩ := Number.ceiling_eq_ok_iff.mp hceiling
    have hnonneg : 0 ≤ ⌈x⌉ := nonneg_of_text_eq htext.symm ha
    refine ⟨hmix, x, hx, (hceil x).mp hnonneg, ?_⟩
    rcases upperHours_of_nonneg hnonneg with ⟨hmost, -⟩ | ⟨-, hnone⟩
    · exact Int.ceil_le.mp hmost
    · exact absurd hhi (hnone hi)
  · rintro ⟨hmix, x, hx, hlow, hmost⟩
    have hnonneg := (hceil x).mpr hlow
    have hlower := lowerHours_eq_ok_iff.mpr ⟨hmix, Number.ceiling_eq_ok_iff.mpr ⟨x, hx, rfl⟩⟩
    rcases upperHours_of_nonneg hnonneg with ⟨-, hi, hhi, hle⟩ | ⟨hgreat, -⟩
    · exact ⟨⌈x⌉, hi, durationOf_eq_ok_iff.mpr ⟨_, hi, hlower, hhi, rfl⟩, hnonneg, hle⟩
    · exact absurd (Int.ceil_le.mpr hmost) (not_le.mpr hgreat)

end

end Plan

/-! ### Settings without negative hours -/

/-- No setting of hours is below zero. -/
structure Settings.HoursNotNegative (s : Settings) : Prop where
  base : ∀ band, (Effort.base s.effort band).NotBelowZero
  sighting : ∀ rating, (Effort.perSighting s.effort rating).NotBelowZero
  planned : 0 ≤ s.plan.defaultHours
  optimization : 0 ≤ s.plan.optimizationHours

namespace Settings.HoursNotNegative
variable {s : Settings} (h : s.HoursNotNegative)
include h

theorem hours (band : Band) (fs : List Finding) : (Effort.hours s.effort fs band).NotBelowZero := by
  rw [Effort.hours]
  refine List.foldlRecOn (motive := fun total : Number => total.NotBelowZero) fs _ (h.base band) ?_
  intro total htotal f _
  exact htotal.add ((h.sighting f.rating).mul (Number.notBelowZero_int.mpr (Int.natCast_nonneg _)))

theorem effort {t : Detector} (ht : t.settings = s) (source : String) (d : Dialect) :
    (t.analyze source d).effort.total.NotBelowZero := by
  by_cases hne : source = ""
  · rw [hne]
    exact Number.notBelowZero_float.mpr (Or.inl rfl : (Binary64.zero false).NotBelowZero)
  · rw [Detector.effort_analyze hne, ht]
    exact h.hours _ _

theorem totalHours {effort : Number} (heffort : effort.NotBelowZero) (n : ℕ) :
    (Plan.baseHours s.plan effort + Plan.extraHours s.plan n).NotBelowZero := by
  have hextra : (Plan.extraHours s.plan n).NotBelowZero :=
    Number.notBelowZero_int.mpr (Int.mul_nonneg h.optimization (Int.natCast_nonneg n))
  refine Number.NotBelowZero.add ?_ hextra
  rw [Plan.baseHours]
  split
  · exact Number.notBelowZero_int.mpr h.planned
  · exact heffort

end Settings.HoursNotNegative

namespace Plan

/-- The duration is a range in order that does not begin below zero. -/
def InOrder (plan : Plan) : Prop := ∃ lo hi : ℤ, plan.duration = s!"{lo}-{hi} hours" ∧ 0 ≤ lo ∧ lo ≤ hi

theorem exists_inOrder_iff {s : Settings.Plan} {a : Analysis} {d : Dependencies} {r : Optimizations} {o : Options} :
    (∃ plan, make s a d r o = .ok plan ∧ plan.InOrder) ↔
    ∃ lo hi : ℤ, durationOf s a.effort.total (o.optimizations r).length = .ok s!"{lo}-{hi} hours" ∧
      0 ≤ lo ∧ lo ≤ hi := by
  constructor
  · rintro ⟨plan, hplan, lo, hi, htext, hlo, hle⟩
    obtain ⟨duration, hduration, rfl⟩ := make_eq_ok_iff.mp hplan
    exact ⟨lo, hi, htext ▸ hduration, hlo, hle⟩
  · rintro ⟨lo, hi, hduration, hlo, hle⟩
    exact ⟨_, make_eq_ok_iff.mpr ⟨_, hduration, rfl⟩, lo, hi, rfl, hlo, hle⟩

/-- A plan can be made, with a range of hours in order that does not begin below zero, exactly if the hours can be
    added, lie above minus one and are at most the greatest. Where no setting of hours is negative they lie above minus one
    as soon as they are at most the greatest. -/
theorem inOrder_iff (t : Detector) (source : String) (d : Dialect) (deps : Dependencies) (r : Optimizations)
    (o : Options) :
    let a := t.analyze source d
    let base := baseHours t.settings.plan a.effort.total
    let extra := extraHours t.settings.plan (o.optimizations r).length
    ((∃ plan, make t.settings.plan a deps r o = .ok plan ∧ plan.InOrder) ↔ base.mixable extra = true ∧
      (Number.int (-1)).less (base + extra) = true ∧ (base + extra).atMost (.int mostHours) = true) ∧
    (t.settings.HoursNotNegative → ((∃ plan, make t.settings.plan a deps r o = .ok plan ∧ plan.InOrder) ↔
      base.mixable extra = true ∧ (base + extra).atMost (.int mostHours) = true)) := by
  intro a base extra
  have hiff : (∃ plan, make t.settings.plan a deps r o = .ok plan ∧ plan.InOrder) ↔ base.mixable extra = true ∧
      (Number.int (-1)).less (base + extra) = true ∧ (base + extra).atMost (.int mostHours) = true :=
    exists_inOrder_iff.trans durationOf_ordered_iff
  refine ⟨hiff, fun h => hiff.trans ?_⟩
  have hnot : (base + extra).NotBelowZero := h.totalHours (h.effort rfl source d) _
  exact and_congr_right fun _ => and_iff_right_of_imp hnot.minus_one_less

/-! ### Hours that settings may have -/

/-- The section of settings with the hours of a plan that has no effort. -/
def hoursSection (hours : ℤ) : List (String × Value) :=
  [("plan", .object [("default_plan_hours", .num (.int hours))])]

def settingsWith (hours : ℤ) : Settings := { plan := { defaultHours := hours } }

/-- Any integer is accepted. -/
theorem read_hoursSection (hours : ℤ) : Settings.read (hoursSection hours) = .ok (settingsWith hours) := rfl

theorem exists_make_settingsWith (hours : ℤ) : ∃ t, Detector.make .builtin (settingsWith hours) = .ok t := by
  obtain ⟨t, ht⟩ := Detector.exists_make_default
  obtain ⟨r, hr, -⟩ := Detector.make_eq_ok_iff.mp ht
  exact ⟨_, Detector.make_eq_ok_iff.mpr ⟨r, hr, rfl⟩⟩

theorem lowerHours_settingsWith (hours : ℤ) (t : Detector) (d : Dialect) :
    lowerHours (settingsWith hours).plan (t.analyze "" d).effort.total 0 = .ok hours := by
  refine lowerHours_eq_ok_iff.mpr ⟨rfl, ?_⟩
  exact congrArg Except.ok (Int.add_zero hours)

/-- Accepted settings can make a range begin below zero, and can leave a plan without hours. -/
theorem accepted_not_inOrder :
    (∃ s t plan, Settings.read (hoursSection (-3)) = .ok s ∧ Detector.make .builtin s = .ok t ∧
      make s.plan (t.analyze "" .ioredis) ⟨[], []⟩ ⟨[]⟩ {} = .ok plan ∧
      plan.duration = "-3--4 hours" ∧ ¬plan.InOrder) ∧
    ∃ s t, Settings.read (hoursSection (10 ^ 309)) = .ok s ∧ Detector.make .builtin s = .ok t ∧
      ∀ plan, make s.plan (t.analyze "" .ioredis) ⟨[], []⟩ ⟨[]⟩ {} ≠ .ok plan := by
  have hnone : (Options.optimizations {} ⟨[]⟩).length = 0 := (optimizations_perm {} ⟨[]⟩).length_eq
  constructor
  · obtain ⟨t, ht⟩ := exists_make_settingsWith (-3)
    have hupper : upperHours (-3) = .ok (-4) := by decide +kernel
    have htext : s!"{(-3 : ℤ)}-{(-4 : ℤ)} hours" = "-3--4 hours" := by decide
    have hduration := durationOf_eq_ok_iff.mpr ⟨-3, -4, lowerHours_settingsWith (-3) t .ioredis, hupper, rfl⟩
    rw [← hnone] at hduration
    refine ⟨_, t, _, read_hoursSection (-3), ht, make_eq_ok_iff.mpr ⟨_, hduration, rfl⟩, htext, ?_⟩
    rintro ⟨lo, hi, hrange, hlo, -⟩
    exact absurd (nonneg_of_text_eq hrange hlo) (by decide)
  · obtain ⟨t, ht⟩ := exists_make_settingsWith (10 ^ 309)
    refine ⟨_, t, read_hoursSection (10 ^ 309), ht, fun plan hplan => ?_⟩
    obtain ⟨duration, hduration, -⟩ := make_eq_ok_iff.mp hplan
    rw [hnone] at hduration
    obtain ⟨lo, hi, hlo, hhi, -⟩ := durationOf_eq_ok_iff.mp hduration
    rw [lowerHours_settingsWith] at hlo
    cases hlo
    rcases upperHours_of_nonneg (by positivity : (0 : ℤ) ≤ 10 ^ 309) with ⟨hmost, -⟩ | ⟨-, hall⟩
    · exact absurd hmost (by decide +kernel)
    · exact hall hi hhi

end Plan

end ClientMigration
