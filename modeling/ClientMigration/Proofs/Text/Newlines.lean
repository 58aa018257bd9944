import ClientMigration.Proofs.Text.Utf8
import ClientMigration.Text.Lines

/-! # Unified ends of lines

Reading a file as text turns every carriage return, alone or before a newline, into a newline. The text is as it was
stored exactly if there was no carriage return. -/

namespace ClientMigration.Text

theorem carriageReturn_not_mem_unifyNewlines (cs : List Char) : '\r' ∉ unifyNewlines cs := by
  fun_induction unifyNewlines cs with
  | case1 => exact List.not_mem_nil
  | case2 cs ih => simp [ih]
  | case3 c cs _ ih =>
    by_cases hc : c = '\r'
    · simp [hc, ih]
    · simp [hc, ih, Ne.symm hc]

theorem unifyNewlines_of_not_mem {cs : List Char} (h : '\r' ∉ cs) : unifyNewlines cs = cs := by
  fun_induction unifyNewlines cs with
  | case1 => rfl
  | case2 cs => exact absurd List.mem_cons_self h
  | case3 c cs _ ih =>
    rw [List.mem_cons, not_or] at h
    rw [ih h.2, if_neg (Ne.symm h.1)]

theorem unifyNewlines_eq_self_iff {cs : List Char} : unifyNewlines cs = cs ↔ '\r' ∉ cs := by
  refine ⟨fun h => ?_, unifyNewlines_of_not_mem⟩
  have hnone := carriageReturn_not_mem_unifyNewlines cs
  rwa [h] at hnone

/-- A stored text as it is read from a file. -/
def unified (stored : String) : String := String.ofList (unifyNewlines stored.toList)

theorem unified_eq_self_iff {stored : String} : unified stored = stored ↔ '\r' ∉ stored.toList := by
  rw [← unifyNewlines_eq_self_iff, unified, ← String.toList_inj, String.toList_ofList]

theorem encode_inj {a b : String} : encode a = encode b ↔ a = b := by
  refine ⟨fun h => ?_, congrArg encode⟩
  have ha := decode_eq_ok_iff.mpr h
  rw [decode_eq_ok_iff.mpr rfl] at ha
  exact Except.ok.inj ha

end ClientMigration.Text
