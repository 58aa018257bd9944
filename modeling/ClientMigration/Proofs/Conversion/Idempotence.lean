import ClientMigration.Proofs.Catalog.Interference

/-! # Converting twice

Converting the code of a converted ioredis file changes nothing more. What the second conversion looks for
either was found by the first one and removed, or was not there, or belongs to an idiom that no conversion
brings into the text. -/

namespace ClientMigration
open Text (Substitution)
open Catalog

namespace Catalog

/-- The code that the idioms of a text are converted to holds nothing that its own idioms convert. -/
theorem ioredis_still {ids : List Idiom} {text code : List Char}
    (hids : ∀ i, i ∈ ids ↔ ∃ t ∈ builtinTexts .ioredis i, t <:+: text)
    (hcode : code = Substitution.run (ids.flatMap (builtinSubstitutions .ioredis)) text) {i : Idiom}
    (hi : ∃ t ∈ builtinTexts .ioredis i, t <:+: code) : ∀ σ ∈ builtinSubstitutions .ioredis i, σ.apply code = code := by
  intro σ hσ
  by_cases hidle : σ.Idle
  · exact hidle.apply code
  refine Substitution.apply_of_not_infix ?_
  have hmakes : ∀ τ ∈ ids.flatMap (builtinSubstitutions .ioredis), Substitution.MakesNo σ.target τ := by
    intro τ hτ
    obtain ⟨j, -, hτ⟩ := List.mem_flatMap.mp hτ
    exact interference.ioredis_makesNo i j σ hσ hidle τ hτ
  by_cases hfound : i ∈ ids
  · -- Its target was removed when the idiom was converted, and nothing brought it back.
    rw [hcode]
    exact Substitution.not_infix_run_of_mem hidle (List.mem_flatMap.mpr ⟨i, hfound, hσ⟩) hmakes text
  · intro ho
    rcases interference.ioredis_revealed i with hshown | hno
    · -- The idiom would have been recognized by the target itself.
      obtain ⟨t, ht, hsub⟩ := hshown σ hσ hidle
      exact hfound ((hids i).mpr ⟨t, ht, hsub.trans (Substitution.infix_of_run hmakes (hcode ▸ ho))⟩)
    · -- The idiom shows in the code, so it showed in the text.
      obtain ⟨t, ht, hshows⟩ := hi
      refine hfound ((hids i).mpr ⟨t, ht, Substitution.infix_of_run (fun τ hτ => ?_) (hcode ▸ hshows)⟩)
      obtain ⟨j, hj, hτ⟩ := List.mem_flatMap.mp hτ
      exact hno j (fun hji => hfound (hji ▸ hj)) τ hτ t ht

end Catalog

namespace ConvertedFile

/-- Converting the code of a converted ioredis file leaves it and logs no change. -/
theorem convert_twice {s : Settings} {t : Detector} (hmake : Detector.make .builtin s = .ok t)
    (hzero : s.scoring.threshold.isZero = true) (source name : String) :
    ∃ first, convert s.conversion source (t.analyze source .ioredis) name = .ok first ∧
      ∃ second, convert s.conversion first.code (t.analyze first.code .ioredis) name = .ok second ∧
        second.code = first.code ∧ second.changes = [] := by
  have hok := fun text =>
    convert_builtin_eq_ok (@Detector.isBuiltin_of_make s t hmake text .ioredis) s.conversion text name
  refine ⟨_, hok source, _, hok _, ?_⟩
  have hcode := toList_code_builtin (@Detector.isBuiltin_of_make s t hmake source .ioredis) s.conversion source name
  rw [Detector.dialect_analyze, Detector.findings_of_make hmake, Rename.forDialect, List.map_nil,
    List.append_nil] at hcode
  generalize made s.conversion source (t.analyze source .ioredis) name = first at hcode ⊢
  -- No edit of a recipe for an idiom of the code changes the code.
  have hstill : ∀ σ ∈ Conversion.substitutions .ioredis (t.analyze first.code .ioredis).findings,
      σ.apply first.code.toList = first.code.toList := by
    intro σ hσ
    rw [Finding.substitutions_of_isBuiltin (Detector.isBuiltin_of_make hmake), Detector.findings_of_make hmake] at hσ
    obtain ⟨i, hi, hσ⟩ := List.mem_flatMap.mp hσ
    exact ioredis_still (fun _ => Finding.mem_idioms_detect_iff hzero) hcode
      ((Finding.mem_idioms_detect_iff hzero).mp hi) σ hσ
  obtain ⟨hfinal, hlogged⟩ := Conversion.chain_of_still hstill
  have hrename : Rename.apply .ioredis first.code = (first.code, []) :=
    congrArg (·, []) (Text.joinLines_lines first.code)
  simp only [made, Detector.dialect_analyze, hfinal, hrename, List.append_nil, true_and]
  rw [List.flatten_eq_nil_iff]
  intro changes hchanges
  obtain ⟨c, hc, rfl⟩ := List.mem_map.mp hchanges
  exact hlogged c hc

theorem convert_twice_default : ∃ t, Detector.make .builtin {} = .ok t ∧
    ({} : Settings).scoring.threshold.isZero = true ∧
    ∃ first, convert {} "redis.pipeline()\nredis.multi()" (t.analyze "redis.pipeline()\nredis.multi()" .ioredis)
        "a.ts" = .ok first ∧
      ∃ second, convert {} first.code (t.analyze first.code .ioredis) "a.ts" = .ok second ∧
        second.code = first.code ∧ second.changes = [] := by
  obtain ⟨t, hmake⟩ := Detector.exists_make_default
  exact ⟨t, hmake, by decide, convert_twice hmake (by decide) _ _⟩

end ConvertedFile

end ClientMigration
