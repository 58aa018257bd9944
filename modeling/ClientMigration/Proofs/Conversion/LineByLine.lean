import ClientMigration.Proofs.Conversion.Classification
import ClientMigration.Proofs.Conversion.Replay

/-! # Conversion line by line

A target that stands on one line is never found across a newline. So a recipe with such targets does to a text what
it does to each line, and counts in it what it counts on the lines together, even where an edit brings in newlines of
its own. The renames do so too, and with them the conversion of a whole file. -/

namespace ClientMigration
open Text (Substitution)

/-! ### Parts of a text -/

theorem Text.countOf_intercalate {target : List Char} {c : Char} (hne : target ≠ []) (h : c ∉ target) :
    ∀ ls : List (List Char), countOf target ([c].intercalate ls) = (ls.map (countOf target)).sum
  | [] => countOf_nil
  | [l] => by simp
  | l :: m :: ls => by
    rw [List.intercalate_cons_cons, List.append_assoc, countOf_append_border hne (overlaps_tail_singleton h),
      List.singleton_append, countOf_cons (not_prefix_cons_of_not_mem hne h), countOf_intercalate hne h (m :: ls),
      List.map_cons (l := m :: ls), List.sum_cons]

namespace Text.Substitution
variable {c : Char}

/-- A substitution whose target lacks the separator works on each part. -/
theorem apply_intercalate {σ : Substitution} (h : c ∉ σ.target) (ls : List (List Char)) :
    σ.apply ([c].intercalate ls) = [c].intercalate (ls.map σ.apply) := by
  by_cases hls : ls = []
  · subst hls
    exact run_empty [σ]
  by_cases hne : σ.target = []
  · have hidle : σ.Idle := Or.inl hne
    have hsame : σ.apply = id := funext hidle.apply
    rw [hsame, List.map_id, id_eq]
  · have happly : σ.apply = replaceAll σ.target σ.replacement := funext (apply_of_ne_nil hne)
    rw [happly, replaceAll_intercalate hne h hls]

theorem run_intercalate : ∀ {σs : List Substitution}, (∀ σ ∈ σs, c ∉ σ.target) → ∀ ls : List (List Char),
    run σs ([c].intercalate ls) = [c].intercalate (ls.map (run σs))
  | [], _, ls => congrArg [c].intercalate (List.map_id ls).symm
  | σ :: σs, h, ls => by
    rw [run_cons, apply_intercalate (h σ List.mem_cons_self),
      run_intercalate (fun τ hτ => h τ (List.mem_cons_of_mem σ hτ)), List.map_map]
    rfl

theorem count_apply {σ : Substitution} (ht : c ∉ σ.target) (hr : c ∉ σ.replacement) (text : List Char) :
    (σ.apply text).count c = text.count c := by
  by_cases hi : σ.Idle
  · rw [hi.apply]
  · rw [apply_of_ne_nil (target_ne_nil hi), count_replaceAll (target_ne_nil hi) ht hr]

theorem count_run : ∀ {σs : List Substitution}, (∀ σ ∈ σs, c ∉ σ.target ∧ c ∉ σ.replacement) → ∀ text : List Char,
    (run σs text).count c = text.count c
  | [], _, _ => rfl
  | σ :: σs, h, text => by
    obtain ⟨ht, hr⟩ := h σ List.mem_cons_self
    rw [run_cons, count_run fun τ hτ => h τ (List.mem_cons_of_mem σ hτ), count_apply ht hr]

end Text.Substitution

/-! ### Edits -/

/-- The outcome counts what some others count together. -/
structure EditOutcome.IsSumOf (o : EditOutcome) (parts : List EditOutcome) : Prop where
  occurrences : o.occurrences = (parts.mapM EditOutcome.occurrences).map List.sum
  replacements : o.replacements = (parts.map (·.replacements)).sum

namespace Edit

theorem count_joinLines {e : Edit} (h : '\n' ∉ e.target.toList) (ls : List String) :
    (e.apply (Text.joinLines ls)).2 = (ls.map fun l => (e.apply l).2).sum := by
  simp only [apply_snd]
  split
  · simp
  · rename_i hne
    rw [Text.toList_joinLines, Text.countOf_intercalate (toList_target_ne_nil hne) h, List.map_map]
    rfl

theorem carryOutAll_joinLines {es : List Edit} (h : ∀ e ∈ es, '\n' ∉ e.target.toList) (ls : List String) :
    (carryOutAll es (Text.joinLines ls)).1 = Text.joinLines (ls.map fun l => (carryOutAll es l).1) := by
  have htargets : ∀ σ ∈ es.map (·.substitution), '\n' ∉ σ.target := by
    intro σ hσ
    obtain ⟨e, he, rfl⟩ := List.mem_map.mp hσ
    exact h e he
  rw [← String.toList_inj, toList_carryOutAll, Text.toList_joinLines, Substitution.run_intercalate htargets,
    Text.toList_joinLines, List.map_map, List.map_map]
  exact congrArg _ (List.map_congr_left fun l _ => (toList_carryOutAll es l).symm)

theorem mapM_occurrences_carryOut (e : Edit) : ∀ ls : List String,
    (ls.map fun l => (e.carryOut l).2).mapM EditOutcome.occurrences = some (ls.map fun l => (e.apply l).2)
  | [] => rfl
  | l :: ls => by
    rw [List.map_cons, List.mapM_cons, mapM_occurrences_carryOut e ls]
    rfl

/-- On joined lines an edit counts what it counts on the lines together. -/
theorem isSumOf_carryOut {e : Edit} (h : '\n' ∉ e.target.toList) (ls : List String) :
    (e.carryOut (Text.joinLines ls)).2.IsSumOf (ls.map fun l => (e.carryOut l).2) := by
  constructor
  · rw [mapM_occurrences_carryOut, Option.map_some, ← count_joinLines h]
    rfl
  · rw [List.map_map, replacements_carryOut, count_joinLines h]
    simp only [Function.comp_def, replacements_carryOut]
    split
    · simp
    · rfl

theorem newline_not_mem_replacement {e : Edit} (ht : '\n' ∉ e.target.toList) (hn : '\n' ∉ e.newCode.toList) :
    '\n' ∉ e.replacement.toList := by
  rw [replacement_eq]
  split
  · simp
  split
  · rw [String.toList_append, List.mem_append, not_or]
    exact ⟨ht, hn⟩
  · exact hn

end Edit

/-! ### Recipes -/

namespace Recipe

/-- Every target stands on one line. -/
def OnOneLine (r : Recipe) : Prop := ∀ e ∈ r.edits, '\n' ∉ e.target.toList

/-- Every new code is one line. -/
def WritesOneLine (r : Recipe) : Prop := ∀ e ∈ r.edits, '\n' ∉ e.newCode.toList

theorem OnOneLine.ordered {r : Recipe} (h : r.OnOneLine) : ∀ e ∈ r.ordered, '\n' ∉ e.target.toList :=
  fun e he => h e (r.ordered_perm.mem_iff.mp he)

theorem apply_joinLines {r : Recipe} (h : r.OnOneLine) (ls : List String) :
    (r.apply (Text.joinLines ls)).1 = Text.joinLines (ls.map fun l => (r.apply l).1) :=
  Edit.carryOutAll_joinLines h.ordered ls

/-- The outcome of an edit on joined lines is the sum of its outcomes on the lines. -/
theorem exists_parts {r : Recipe} (h : r.OnOneLine) (ls : List String) {i : Nat} {e : Edit}
    (he : r.ordered[i]? = some e) :
    ∃ (o : EditOutcome) (parts : List EditOutcome), (r.apply (Text.joinLines ls)).2[i]? = some o ∧ o.Records e ∧
      ls.map (fun l => (r.apply l).2[i]?) = parts.map some ∧ o.IsSumOf parts := by
  simp only [apply, Edit.getElem?_carryOutAll, he, Option.map_some]
  refine ⟨_, ls.map fun l => (e.carryOut (Edit.carryOutAll (r.ordered.take i) l).1).2, rfl, e.records_carryOut _, ?_, ?_⟩
  · rw [List.map_map]
    rfl
  · have hearlier : ∀ x ∈ r.ordered.take i, '\n' ∉ x.target.toList := fun x hx => h.ordered x (List.mem_of_mem_take hx)
    have hsum := Edit.isSumOf_carryOut (h.ordered e (List.mem_of_getElem? he))
      (ls.map fun l => (Edit.carryOutAll (r.ordered.take i) l).1)
    rwa [List.map_map, ← Edit.carryOutAll_joinLines hearlier] at hsum

end Recipe

/-! ### Files -/

theorem Finding.recipeFor_cases (f : Finding) (d : Option Dialect) :
    f.recipeFor d ∈ f.recipes ∨ f.recipeFor d = Recipe.fallback := by
  rw [recipeFor]
  split
  · rename_i r hr
    obtain ⟨d, -, hfind⟩ := Option.bind_eq_some_iff.mp hr
    exact Or.inl (List.mem_of_find?_eq_some hfind)
  · cases f.recipes with
    | nil => exact Or.inr rfl
    | cons r rs => exact Or.inl List.mem_cons_self

/-- What holds of the edits of every recipe of the findings holds of what is carried out. -/
theorem Conversion.forall_mem_substitutions {p : Edit → Prop} {q : Substitution → Prop}
    (hpq : ∀ e, p e → q e.substitution) {d : Dialect} {fs : List Finding}
    (h : ∀ f ∈ fs, ∀ r ∈ f.recipes, ∀ e ∈ r.edits, p e) : ∀ σ ∈ Conversion.substitutions d fs, q σ := by
  intro σ hσ
  obtain ⟨f, hf, hσ⟩ := List.mem_flatMap.mp hσ
  obtain ⟨e, he, rfl⟩ := List.mem_map.mp hσ
  rw [(Recipe.ordered_perm _).mem_iff] at he
  rcases f.recipeFor_cases (some d) with hr | hr
  · exact hpq e (h f hf _ hr e he)
  · rw [hr] at he
    cases he

namespace Conversion

theorem mapM_changes_eq_error : ∀ {cs : List Conversion}, (∃ c ∈ cs, c.finding.sightings = []) →
    cs.mapM (·.changes) = .error .noSighting
  | [], h => by simp at h
  | c :: cs, h => by
    rw [List.mapM_cons]
    by_cases hc : c.finding.sightings = []
    · rw [changes, hc]
      rfl
    · have hrest : ∃ x ∈ cs, x.finding.sightings = [] := by simpa [hc] using h
      rw [changes_eq_ok hc, mapM_changes_eq_error hrest]
      rfl

end Conversion

namespace ConvertedFile
variable (s : Settings.Conversion) (a : Analysis) (name : String)

/-- A finding without a sighting fails every conversion. -/
theorem convert_eq_error (h : ∃ f ∈ a.findings, f.sightings = []) (text : String) :
    convert s text a name = .error .noSighting := by
  have hchain : ∃ c ∈ Conversion.chain a.dialect a.findings text, c.finding.sightings = [] := by
    obtain ⟨f, hf, hnone⟩ := h
    rw [← Conversion.map_finding_chain (d := a.dialect) a.findings text] at hf
    obtain ⟨c, hc, rfl⟩ := List.mem_map.mp hf
    exact ⟨c, hc, hnone⟩
  rw [convert, Conversion.mapM_changes_eq_error hchain]
  rfl

theorem mapM_convert_eq_ok (h : ∀ f ∈ a.findings, f.sightings ≠ []) : ∀ ls : List String,
    ls.mapM (fun l => convert s l a name) = .ok (ls.map fun l => made s l a name)
  | [] => rfl
  | l :: ls => by
    rw [List.mapM_cons, convert_eq_ok h, mapM_convert_eq_ok h ls]
    rfl

theorem code_made_joinLines (h : ∀ f ∈ a.findings, ∀ r ∈ f.recipes, r.OnOneLine) (ls : List String) :
    (made s (Text.joinLines ls) a name).code = Text.joinLines (ls.map fun l => (made s l a name).code) := by
  have htargets : ∀ σ ∈ substitutions a, '\n' ∉ σ.target := by
    refine List.forall_mem_append.mpr ⟨Conversion.forall_mem_substitutions (fun _ => id) h, fun σ hσ => ?_⟩
    obtain ⟨r, hr, rfl⟩ := List.mem_map.mp hσ
    exact (Rename.onOneLine_of_mem r hr).2
  rw [← String.toList_inj, toList_code_made, Text.toList_joinLines, Substitution.run_intercalate htargets,
    Text.toList_joinLines, List.map_map, List.map_map]
  exact congrArg _ (List.map_congr_left fun l _ => (toList_code_made s l a name).symm)

theorem renames_writeOneLine : ∀ d, ∀ σ ∈ (Rename.forDialect d).map (·.substitution),
    '\n' ∉ σ.target ∧ '\n' ∉ σ.replacement := by
  simp only [Rename.substitutions_spelled]
  decide

theorem length_lines_code_made
    (h : ∀ f ∈ a.findings, ∀ r ∈ f.recipes, r.OnOneLine ∧ r.WritesOneLine) (text : String) :
    (Text.lines (made s text a name).code).length = (Text.lines text).length := by
  have hone : ∀ σ ∈ substitutions a, '\n' ∉ σ.target ∧ '\n' ∉ σ.replacement := by
    refine List.forall_mem_append.mpr ⟨?_, renames_writeOneLine a.dialect⟩
    refine Conversion.forall_mem_substitutions (p := fun e => '\n' ∉ e.target.toList ∧ '\n' ∉ e.newCode.toList)
      (fun e he => ⟨he.1, Edit.newline_not_mem_replacement he.1 he.2⟩) fun f hf r hr e he => ?_
    exact ⟨(h f hf r hr).1 e he, (h f hf r hr).2 e he⟩
  rw [Text.length_lines, Text.length_lines, toList_code_made, Substitution.count_run hone]

end ConvertedFile

/-! ### The built-in catalog -/

namespace Catalog

theorem exists_eq_builtinRecipe : ∀ e ∈ builtinEntries, ∀ r ∈ e.recipes, ∃ d, r = builtinRecipe d e.idiom := by
  intro e he
  simp only [builtinEntries, List.mem_cons, List.not_mem_nil, or_false] at he
  rcases he with rfl | rfl | rfl | rfl | rfl | rfl
  · exact List.forall_mem_cons.mpr ⟨⟨.ioredis, rfl⟩, List.forall_mem_singleton.mpr ⟨.nodeRedis, rfl⟩⟩
  all_goals exact List.forall_mem_singleton.mpr ⟨.ioredis, rfl⟩

theorem builtinSubstitutions_onOneLine : ∀ d i, ∀ σ ∈ builtinSubstitutions d i,
    '\n' ∉ σ.target ∧ '\n' ∉ σ.replacement := by
  simp only [builtinSubstitutions_spelled]
  decide

theorem builtinRecipe_actions : ∀ d i, ∀ e ∈ (builtinRecipe d i).edits, e.action ≠ .add ∧ e.action ≠ .remove := by
  decide

/-- Built-in recipes look for one line and write one line. -/
theorem builtin_onOneLine : ∀ e ∈ builtinEntries, ∀ r ∈ e.recipes, r.OnOneLine ∧ r.WritesOneLine := by
  intro e he r hr
  obtain ⟨d, rfl⟩ := exists_eq_builtinRecipe e he r hr
  have hone : ∀ x ∈ (builtinRecipe d e.idiom).edits, '\n' ∉ x.target.toList ∧ '\n' ∉ x.newCode.toList := by
    intro x hx
    have hσ := builtinSubstitutions_onOneLine d e.idiom x.substitution (List.mem_map_of_mem hx)
    obtain ⟨hadd, hremove⟩ := builtinRecipe_actions d e.idiom x hx
    have hnew : x.replacement = x.newCode := by rw [Edit.replacement_eq, if_neg hremove, if_neg hadd]
    exact ⟨hσ.1, hnew ▸ hσ.2⟩
  exact ⟨fun x hx => (hone x hx).1, fun x hx => (hone x hx).2⟩

end Catalog

namespace ConvertedFile

/-- A recipe whose targets stand on one line leaves of joined lines what it leaves of each, joined, and every edit
    counts in them what it counts on each, together. The same holds for the code of a file that is converted by such recipes;
    only a finding without a sighting fails its conversion, whatever the text. If new codes are one line too, the code
    has as many lines as the text. Built-in recipes are of both kinds. -/
theorem line_by_line :
    (∀ (r : Recipe) (ls : List String), r.OnOneLine →
      (r.apply (Text.joinLines ls)).1 = Text.joinLines (ls.map fun l => (r.apply l).1) ∧
      ∀ (i : Nat) (e : Edit), r.ordered[i]? = some e → ∃ (o : EditOutcome) (parts : List EditOutcome),
        (r.apply (Text.joinLines ls)).2[i]? = some o ∧ o.Records e ∧
        ls.map (fun l => (r.apply l).2[i]?) = parts.map some ∧ o.IsSumOf parts) ∧
    (∀ (s : Settings.Conversion) (a : Analysis) (name : String) (ls : List String),
      (∀ f ∈ a.findings, ∀ r ∈ f.recipes, r.OnOneLine) →
      ((∃ f ∈ a.findings, f.sightings = []) ∧ ∀ text, convert s text a name = .error .noSighting) ∨
      ∃ file files, convert s (Text.joinLines ls) a name = .ok file ∧
        ls.mapM (fun l => convert s l a name) = .ok files ∧ file.code = Text.joinLines (files.map (·.code)) ∧
        ((∀ f ∈ a.findings, ∀ r ∈ f.recipes, r.WritesOneLine) →
          (Text.lines file.code).length = (Text.lines (Text.joinLines ls)).length)) ∧
    ∀ e ∈ Catalog.builtinEntries, ∀ r ∈ e.recipes, r.OnOneLine ∧ r.WritesOneLine := by
  refine ⟨fun r ls h => ⟨Recipe.apply_joinLines h ls, fun i e => Recipe.exists_parts h ls⟩, fun s a name ls h => ?_,
    Catalog.builtin_onOneLine⟩
  by_cases hnone : ∃ f ∈ a.findings, f.sightings = []
  · exact Or.inl ⟨hnone, convert_eq_error s a name hnone⟩
  · have hall : ∀ f ∈ a.findings, f.sightings ≠ [] := fun f hf hnil => hnone ⟨f, hf, hnil⟩
    refine Or.inr ⟨_, _, convert_eq_ok hall s _ name, mapM_convert_eq_ok s a name hall ls, ?_, fun hwrites => ?_⟩
    · rw [code_made_joinLines s a name h, List.map_map]
      rfl
    · exact length_lines_code_made s a name (fun f hf r hr => ⟨h f hf r hr, hwrites f hf r hr⟩) _

/-- A recipe that breaks lines and then looks for a text that stands at their ends. -/
def breakingLines : Recipe where
  name := "break-lines"
  description := ""
  dialects := []
  edits := [⟨1, .add, ";", "\n", "", true⟩, ⟨2, .remove, "x", "", "", true⟩]
  risks := []
  validation := []

theorem line_by_line_default :
    (breakingLines.apply "x;x\nx").1 = Text.joinLines [(breakingLines.apply "x;x").1, (breakingLines.apply "x").1] ∧
    ∃ t, Detector.make .builtin {} = .ok t ∧
      ∃ file first second,
        convert {} "new Redis()\nredis.multi()" (t.analyze "redis.multi()" .ioredis) "a.ts" = .ok file ∧
        convert {} "new Redis()" (t.analyze "redis.multi()" .ioredis) "a.ts" = .ok first ∧
        convert {} "redis.multi()" (t.analyze "redis.multi()" .ioredis) "a.ts" = .ok second ∧
        file.code = Text.joinLines [first.code, second.code] := by
  obtain ⟨hrecipe, hconvert, hbuiltin⟩ := line_by_line
  obtain ⟨t, hmake⟩ := Detector.exists_make_default
  have hone : ∀ f ∈ (t.analyze "redis.multi()" .ioredis).findings, ∀ r ∈ f.recipes, r.OnOneLine := by
    intro f hf r hr
    obtain ⟨-, e, he, -, -, -, hrecipes⟩ := Detector.isBuiltin_of_make hmake f hf
    exact (hbuiltin e he r (hrecipes ▸ hr)).1
  have hbreaking : breakingLines.OnOneLine := by
    unfold Recipe.OnOneLine
    decide
  refine ⟨(hrecipe breakingLines ["x;x", "x"] hbreaking).1, t, hmake, ?_⟩
  rcases hconvert {} _ "a.ts" ["new Redis()", "redis.multi()"] hone with
    ⟨⟨f, hf, hnil⟩, -⟩ | ⟨file, files, hok, hfiles, hcode, -⟩
  · exact absurd hnil (Detector.sightings_ne_nil f hf)
  · have hall := @Detector.sightings_ne_nil t "redis.multi()" .ioredis
    rw [mapM_convert_eq_ok {} _ "a.ts" hall] at hfiles
    cases hfiles
    exact ⟨file, _, _, hok, convert_eq_ok hall _ _ _, convert_eq_ok hall _ _ _, hcode⟩

end ConvertedFile

end ClientMigration
