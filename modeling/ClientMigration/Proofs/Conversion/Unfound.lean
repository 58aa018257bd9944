import ClientMigration.Proofs.Catalog.Interference

/-! # Files without findings

A file in which nothing is found is still renamed. It stays as it is exactly if it calls no method that its dialect
renames, and then the confidence in it is full. -/

namespace ClientMigration
open Text (Substitution)

/-! ### Renames -/

/-- The text calls no method that the dialect renames. -/
def Rename.NoneCalled (d : Dialect) (text : String) : Prop :=
  ∀ r ∈ forDialect d, Text.contains text r.call = false

theorem Rename.noneCalled_iff {d : Dialect} {text : String} :
    NoneCalled d text ↔ ∀ r ∈ forDialect d, ¬r.call.toList <:+: text.toList := by
  simp only [NoneCalled, ← Text.contains_iff, Bool.not_eq_true]

theorem Rename.apply_changes_iff_noneCalled {d : Dialect} {text : String} :
    (apply d text).2 = [] ↔ NoneCalled d text := by
  rw [noneCalled_iff, apply_changes_eq_nil_iff]

theorem Rename.noneCalled_apply (d : Dialect) (text : String) : NoneCalled d (apply d text).1 := by
  rw [noneCalled_iff, toList_apply]
  intro r hr
  have hσ : r.substitution ∈ (forDialect d).map (·.substitution) := List.mem_map_of_mem hr
  obtain ⟨hidle, hmakes⟩ := Catalog.interference.rename_makesNo d r.substitution hσ
  exact Substitution.not_infix_run_of_mem hidle hσ hmakes _

/-- The renamed text has no call left that is renamed, so it is the text only if that had none. -/
theorem Rename.apply_fst_eq_iff {d : Dialect} {text : String} : (apply d text).1 = text ↔ NoneCalled d text := by
  constructor
  · intro hsame
    have hnone := noneCalled_apply d text
    rwa [hsame] at hnone
  · exact fun hnone => apply_of_not_called (noneCalled_iff.mp hnone)

/-! ### Files -/

/-- By default nothing is found in a text without any text that an idiom is recognized by. -/
theorem Detector.exists_unfound {source : String}
    (h : ∀ i, ∀ t ∈ (Catalog.textSpelling .nodeRedis i).spelled, Text.occursIn t source.toList = false) :
    ∃ t, make .builtin {} = .ok t ∧ (t.analyze source .nodeRedis).findings = [] := by
  obtain ⟨t, hmake⟩ := exists_make_default
  refine ⟨t, hmake, ?_⟩
  have hzero : ({} : Settings).scoring.threshold.isZero = true := by decide
  rw [findings_of_make hmake, Finding.detect_eq_nil_iff hzero]
  intro i t' ht'
  rw [Catalog.builtinTexts_spelled] at ht'
  rw [← Text.occursIn_iff, h i t' ht']
  exact Bool.false_ne_true

namespace ConvertedFile

/-- Without findings a file is what the renames make of the text. -/
theorem convert_of_findings_eq_nil {a : Analysis} (h : a.findings = []) (s : Settings.Conversion) (text name : String) :
    convert s text a name = .ok
      { name := name, code := (Rename.apply a.dialect text).1, changes := (Rename.apply a.dialect text).2
        confidence := confidenceOf s (Rename.apply a.dialect text).2 [] 0
        warnings := warningsOf (Rename.apply a.dialect text).2 [] []
        skippedEdits := 0, conversions := [] } := by
  rw [convert, h]
  rfl

theorem confidenceOf_nil (s : Settings.Conversion) (findings : List Finding) :
    confidenceOf s [] findings 0 = .decimal 10 1 := rfl

/-- A file in which nothing is found keeps its code, and logs no change, exactly if it calls no method that is
    renamed; then the confidence in it is full. -/
theorem unfound_unchanged_iff {t : Detector} {source : String} {d : Dialect}
    (hnone : (t.analyze source d).findings = []) (s : Settings.Conversion) (name : String) :
    ∃ file, convert s source (t.analyze source d) name = .ok file ∧
      (file.code = source ↔ Rename.NoneCalled d source) ∧ (file.changes = [] ↔ Rename.NoneCalled d source) ∧
      (Rename.NoneCalled d source → file.confidence = .decimal 10 1) := by
  refine ⟨_, convert_of_findings_eq_nil hnone s source name, ?_⟩
  rw [Detector.dialect_analyze]
  refine ⟨Rename.apply_fst_eq_iff, Rename.apply_changes_iff_noneCalled, fun h => ?_⟩
  dsimp only
  rw [Rename.apply_changes_iff_noneCalled.mpr h, confidenceOf_nil]

theorem unfound_unchanged_hset : ∃ t, Detector.make .builtin {} = .ok t ∧
    (t.analyze "await c.hset('k', 'f', 'v')" .nodeRedis).findings = [] ∧
    ∃ file, convert {} "await c.hset('k', 'f', 'v')" (t.analyze "await c.hset('k', 'f', 'v')" .nodeRedis)
        "a.ts" = .ok file ∧
      file.code = "await c.hset('k', 'f', 'v')" ∧ file.changes = [] ∧ file.confidence = .decimal 10 1 := by
  obtain ⟨t, hmake, hnone⟩ := @Detector.exists_unfound "await c.hset('k', 'f', 'v')" (by decide +kernel)
  obtain ⟨file, hok, hcode, hchanges, hconfidence⟩ := unfound_unchanged_iff hnone {} "a.ts"
  have hcalled : Rename.NoneCalled .nodeRedis "await c.hset('k', 'f', 'v')" := by
    rw [Rename.NoneCalled]
    decide +kernel
  exact ⟨t, hmake, hnone, file, hok, hcode.mpr hcalled, hchanges.mpr hcalled, hconfidence hcalled⟩

/-- The camel-case spelling is not found either, but it is renamed. -/
theorem unfound_changed_hSet : ∃ t, Detector.make .builtin {} = .ok t ∧
    (t.analyze "await c.hSet('k', 'f', 'v')" .nodeRedis).findings = [] ∧
    ∃ file, convert {} "await c.hSet('k', 'f', 'v')" (t.analyze "await c.hSet('k', 'f', 'v')" .nodeRedis)
        "a.ts" = .ok file ∧
      file.code = "await c.hset('k', 'f', 'v')" ∧ file.changes ≠ [] := by
  obtain ⟨t, hmake, hnone⟩ := @Detector.exists_unfound "await c.hSet('k', 'f', 'v')" (by decide +kernel)
  refine ⟨t, hmake, hnone, _, convert_of_findings_eq_nil hnone {} _ _, ?_⟩
  have hcalled : ¬Rename.NoneCalled .nodeRedis "await c.hSet('k', 'f', 'v')" := by
    intro h
    exact absurd (h _ List.mem_cons_self) (by decide +kernel)
  rw [Detector.dialect_analyze]
  refine ⟨?_, fun hnil => hcalled (Rename.apply_changes_iff_noneCalled.mp hnil)⟩
  dsimp only
  rw [← String.toList_inj, Rename.toList_apply, Rename.substitutions_spelled]
  decide +kernel

end ConvertedFile

end ClientMigration
