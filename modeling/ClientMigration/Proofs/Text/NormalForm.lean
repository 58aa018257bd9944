import ClientMigration.Proofs.Text.Literal
import ClientMigration.Text.Blank
import ClientMigration.Text.Lowercase
import Mathlib.Data.List.Forall2
import Mathlib.Data.List.TakeWhile

/-! # Names in another spelling

A name is compared without the blanks around it and in lower case. Few characters beyond ASCII are lowered into it: the
Kelvin sign to a `k`, and a capital I with a dot to an `i` that is followed by the dot. So a name in ASCII without a `k`
is the lower case of its ASCII spellings only. -/

namespace ClientMigration.Text

/-! ### What lies between the blanks -/

/-- What is left of a text without the characters of a class at both ends. -/
structure Trimmed (p : Char → Bool) (text core : List Char) : Prop where
  ends : ∃ front back, text = front ++ core ++ back ∧ (∀ c ∈ front, p c = true) ∧ ∀ c ∈ back, p c = true
  head : ∀ c ∈ core.head?, p c = false
  last : ∀ c ∈ core.getLast?, p c = false

section Trim
variable {p : Char → Bool} {text core : List Char}

theorem head?_dropWhile (p : Char → Bool) (text : List Char) : ∀ c ∈ (text.dropWhile p).head?, p c = false := by
  intro c hc
  have hnot := List.head?_dropWhile_not p text
  rwa [Option.mem_def.mp hc] at hnot

theorem dropWhile_of_head (h : ∀ c ∈ text.head?, p c = false) : text.dropWhile p = text := by
  cases text with
  | nil => rfl
  | cons c cs => exact List.dropWhile_cons_of_neg (by rw [h c rfl]; exact Bool.false_ne_true)

theorem exists_append_trimLeft (p : Char → Bool) (text : List Char) :
    ∃ front, text = front ++ trimLeft p text ∧ ∀ c ∈ front, p c = true :=
  ⟨text.takeWhile p, List.takeWhile_append_dropWhile.symm, fun _ => List.mem_takeWhile_imp⟩

theorem trimmed_trim (p : Char → Bool) (text : List Char) : Trimmed p text (trim p text) := by
  obtain ⟨front, hfront, hleft⟩ := exists_append_trimLeft p text
  obtain ⟨back, hback, hright⟩ := exists_append_trimLeft p (trimLeft p text).reverse
  have hcore : trimLeft p text = trim p text ++ back.reverse := by
    rw [trim, ← List.reverse_append, ← hback, List.reverse_reverse]
  refine ⟨⟨front, back.reverse, ?_, hleft, fun c hc => hright c (List.mem_reverse.mp hc)⟩, fun c hc => ?_, fun c hc => ?_⟩
  · rwa [List.append_assoc, ← hcore]
  · refine head?_dropWhile p text c ?_
    rw [← trimLeft, hcore, List.head?_append, Option.mem_def.mp hc]
    rfl
  · rw [trim, List.getLast?_reverse] at hc
    exact head?_dropWhile p _ c hc

/-- No other text is left. -/
theorem Trimmed.eq_trim (h : Trimmed p text core) : core = trim p text := by
  obtain ⟨⟨front, back, rfl, hleft, hright⟩, hhead, hlast⟩ := h
  rw [trim, trimLeft, trimLeft, List.append_assoc, List.dropWhile_append_of_pos hleft]
  cases core with
  | nil =>
    rw [List.nil_append, List.dropWhile_eq_nil_iff.mpr hright]
    rfl
  | cons c cs =>
    have hstays : (c :: cs ++ back).dropWhile p = c :: cs ++ back := dropWhile_of_head hhead
    rw [hstays, List.reverse_append, List.dropWhile_append_of_pos fun x hx => hright x (List.mem_reverse.mp hx),
      dropWhile_of_head, List.reverse_reverse]
    rwa [List.head?_reverse]

theorem trimmed_iff : Trimmed p text core ↔ core = trim p text :=
  ⟨Trimmed.eq_trim, fun h => h ▸ trimmed_trim p text⟩

theorem trim_eq_nil_iff : trim p text = [] ↔ ∀ c ∈ text, p c = true := by
  constructor
  · intro hnil
    obtain ⟨⟨front, back, hends, hleft, hright⟩, -, -⟩ := trimmed_trim p text
    rw [hnil, List.append_nil] at hends
    rw [hends]
    exact List.forall_mem_append.mpr ⟨hleft, hright⟩
  · intro hall
    refine (Trimmed.eq_trim ⟨⟨text, [], ?_, hall, List.forall_mem_nil _⟩, ?_, ?_⟩).symm
    · rw [List.append_nil, List.append_nil]
    · simp
    · simp

end Trim

/-! ### Letters in the other case -/

theorem isUpper_iff (c : Char) : c.isUpper = true ↔ 65 ≤ c.toNat ∧ c.toNat ≤ 90 := by
  have hrange : c.isUpper = true ↔ c.val ≥ 'A'.val ∧ c.val ≤ 'Z'.val := decide_eq_true_iff
  rw [hrange, ge_iff_le, UInt32.le_iff_toNat_le, UInt32.le_iff_toNat_le]
  rfl

theorem toNat_toLower (c : Char) :
    c.toLower.toNat = if 65 ≤ c.toNat ∧ c.toNat ≤ 90 then c.toNat + 32 else c.toNat := by
  have hrange : (c.val ≥ 'A'.val ∧ c.val ≤ 'Z'.val) ↔ 65 ≤ c.toNat ∧ c.toNat ≤ 90 := by
    rw [ge_iff_le, UInt32.le_iff_toNat_le, UInt32.le_iff_toNat_le]
    rfl
  by_cases h : c.val ≥ 'A'.val ∧ c.val ≤ 'Z'.val
  · have hlower := congrArg Char.val (show c.toLower = _ from dif_pos h)
    have hc := hrange.mp h
    rw [if_pos hc, Char.toNat, hlower, UInt32.toNat_add]
    change (c.toNat + 32) % 4294967296 = c.toNat + 32
    omega
  · have hsame : c.toLower = c := dif_neg h
    rw [hsame, if_neg (mt hrange.mpr h)]

theorem toNat_toUpper (c : Char) :
    c.toUpper.toNat = if 97 ≤ c.toNat ∧ c.toNat ≤ 122 then c.toNat - 32 else c.toNat := by
  have hrange : ('a'.val ≤ c.val ∧ c.val ≤ 'z'.val) ↔ 97 ≤ c.toNat ∧ c.toNat ≤ 122 := by
    rw [UInt32.le_iff_toNat_le, UInt32.le_iff_toNat_le]
    rfl
  by_cases h : 'a'.val ≤ c.val ∧ c.val ≤ 'z'.val
  · have hupper := congrArg Char.val (show c.toUpper = _ from dif_pos h)
    have hc := hrange.mp h
    -- The distance to the capitals is added modulo 2 ^ 32.
    have hwrap : ('A'.val - 'a'.val).toNat = 4294967264 := by decide
    rw [if_pos hc, Char.toNat, hupper, UInt32.toNat_add, hwrap]
    change (c.toNat + 4294967264) % 4294967296 = c.toNat - 32
    omega
  · have hsame : c.toUpper = c := dif_neg h
    rw [hsame, if_neg (mt hrange.mpr h)]

theorem toLower_eq_iff {c d : Char} (hd : ¬d.isUpper = true) : c.toLower = d ↔ c = d ∨ c = d.toUpper := by
  rw [isUpper_iff] at hd
  rw [← Char.toNat_inj, ← Char.toNat_inj, ← Char.toNat_inj, toNat_toLower, toNat_toUpper]
  split <;> split <;> omega

/-- The first text is the second with some letters as ASCII capitals. -/
def CaseVariant (w name : List Char) : Prop := List.Forall₂ (fun c d => c = d ∨ c = d.toUpper) w name

theorem map_toLower_eq_iff {w name : List Char} (hname : ∀ d ∈ name, ¬d.isUpper = true) :
    w.map Char.toLower = name ↔ CaseVariant w name := by
  induction w generalizing name with
  | nil => simp [CaseVariant, eq_comm]
  | cons c w ih =>
    cases name with
    | nil => simp [CaseVariant]
    | cons d name =>
      obtain ⟨hd, hname⟩ := List.forall_mem_cons.mp hname
      rw [List.map_cons, List.cons.injEq, toLower_eq_iff hd, ih hname]
      simp only [CaseVariant, List.forall₂_cons]

theorem toNat_toUpper_lt {d : Char} (h : d.toNat < 128) : d.toUpper.toNat < 128 := by
  rw [toNat_toUpper]
  split <;> omega

theorem CaseVariant.toNat_lt {w name : List Char} (h : CaseVariant w name) (hname : ∀ d ∈ name, d.toNat < 128) :
    ∀ c ∈ w, c.toNat < 128 := by
  induction h with
  | nil => exact List.forall_mem_nil _
  | @cons c d w name hcd _ ih =>
    obtain ⟨hd, hname⟩ := List.forall_mem_cons.mp hname
    refine List.forall_mem_cons.mpr ⟨?_, ih hname⟩
    rcases hcd with rfl | rfl
    · exact hd
    · exact toNat_toUpper_lt hd

/-! ### Lowering -/

/-- An ASCII character other than `k` and the null character. Only ASCII characters are lowered to it. -/
def IsPlain (d : Char) : Prop := 0 < d.toNat ∧ d.toNat < 128 ∧ d ≠ 'k'

theorem caseRuns_beyond : (caseRuns.all fun r =>
    decide (128 ≤ (r.first : Int) + r.offset) || (r.first == r.last && (r.first : Int) + r.offset == 107)) = true := by
  decide

theorem toNat_ofNat_cases (n : Nat) : (Char.ofNat n).toNat = n ∨ (Char.ofNat n).toNat = 0 := by
  by_cases h : n.isValidChar
  · left
    rw [Char.ofNat, dif_pos h]
    rfl
  · right
    rw [Char.ofNat, dif_neg h]
    rfl

theorem not_isPlain_lowerChar {c : Char} (h : 128 ≤ c.toNat) : ¬IsPlain (lowerChar c) := by
  rw [lowerChar, if_neg (Nat.not_lt.mpr h)]
  dsimp only
  rintro ⟨hpos, hascii, hk⟩
  split at hascii
  · rename_i r hr
    rw [hr] at hpos hk
    dsimp only at hpos hk
    have hrun := List.all_eq_true.mp caseRuns_beyond r (List.mem_of_find?_eq_some hr)
    have hin := List.find?_some hr
    simp only [Bool.or_eq_true, Bool.and_eq_true, decide_eq_true_eq, beq_iff_eq] at hrun hin
    rcases hrun with hbeyond | ⟨hone, hkelvin⟩
    · -- The partner lies beyond ASCII as well, unless its code is that of no character, which makes it the null character.
      rcases toNat_ofNat_cases ((c.toNat : Int) + r.offset).toNat with hcode | hnull
      · rw [hcode] at hascii
        omega
      · rw [hnull] at hpos
        exact Nat.lt_irrefl 0 hpos
    · have hcode : ((c.toNat : Int) + r.offset).toNat = 107 := by omega
      rw [hcode] at hk
      exact hk rfl
  · omega

theorem exists_not_isPlain_lowerAt {c : Char} (h : 128 ≤ c.toNat) (before after : List Char) :
    ∃ d ∈ lowerAt before c after, ¬IsPlain d := by
  have hbeyond : ∀ {d : Char}, 128 ≤ d.toNat → ¬IsPlain d := fun hd hplain => Nat.not_lt.mpr hd hplain.2.1
  rw [lowerAt]
  split
  · exact ⟨Char.ofNat 0x307, by simp, hbeyond (by decide)⟩
  · split
    · refine ⟨_, List.mem_singleton_self _, hbeyond ?_⟩
      split <;> decide
    · exact ⟨_, List.mem_singleton_self _, not_isPlain_lowerChar h⟩

theorem lowerAt_of_ascii {c : Char} (h : c.toNat < 128) (before after : List Char) :
    lowerAt before c after = [c.toLower] := by
  have hne : ∀ {d : Char}, 128 ≤ d.toNat → ¬(c == d) = true := by
    intro d hd heq
    rw [beq_iff_eq] at heq
    rw [heq] at h
    omega
  rw [lowerAt, if_neg (hne (by decide)), if_neg (hne (by decide)), lowerChar, if_pos h]

theorem toLower_of_not_ascii {c : Char} (h : 128 ≤ c.toNat) : c.toLower = c := by
  rw [← Char.toNat_inj, toNat_toLower, if_neg]
  omega

/-- A plain text is the lower case of its ASCII spellings only. -/
theorem lowerFrom_eq_iff {w : List Char} (hw : ∀ d ∈ w, IsPlain d) (before text : List Char) :
    lowerFrom before text = w ↔ text.map Char.toLower = w := by
  induction text generalizing before w with
  | nil => rfl
  | cons c after ih =>
    rw [lowerFrom, List.map_cons]
    by_cases hc : c.toNat < 128
    · rw [lowerAt_of_ascii hc, List.singleton_append]
      cases w with
      | nil => simp
      | cons d w => rw [List.cons.injEq, List.cons.injEq, ih (List.forall_mem_cons.mp hw).2]
    · -- A character beyond ASCII leaves something that is not plain, be it lowered or left alone.
      have hbeyond := Nat.not_lt.mp hc
      obtain ⟨d, hd, hnot⟩ := exists_not_isPlain_lowerAt hbeyond before after
      refine iff_of_false (fun heq => hnot (hw d ?_)) fun heq => ?_
      · exact heq ▸ List.mem_append_left _ hd
      · have hplain := hw c.toLower (heq ▸ List.mem_cons_self)
        rw [toLower_of_not_ascii hbeyond] at hplain
        exact hc hplain.2.1

/-! ### One character for another -/

theorem replaceAll_singleton (a b : Char) (text : List Char) :
    replaceAll [a] [b] text = text.map fun c => if c = a then b else c := by
  induction text with
  | nil => exact replaceAll_nil
  | cons c rest ih =>
    rw [List.map_cons, ← ih]
    by_cases hc : c = a
    · rw [if_pos hc, hc]
      exact replaceAll_append (List.cons_ne_nil a [])
    · rw [if_neg hc]
      exact replaceAll_cons fun hp => hc (List.cons_prefix_cons.mp hp).1.symm

end ClientMigration.Text
