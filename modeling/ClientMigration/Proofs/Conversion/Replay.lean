import ClientMigration.Proofs.Catalog.Builtin
import ClientMigration.Proofs.Conversion.Provenance

/-! # Replaying the log of a conversion

Made again on the text, one after the other, the logged changes of the edits lead through the texts that the edits
left. This is so exactly if no addition was applied, and no removal with a new code: their changes log the new code as
what took the place of the target, but an addition also keeps the target, and a removal writes nothing. -/

namespace ClientMigration

/-- The text with a change made again, wherever the text before it stands. -/
def Change.replay (text : String) (c : Change) : String := Text.replace text c.before c.converted

/-- The new code of the edit is what it writes in place of its target. -/
def EditOutcome.LogsWritten (o : EditOutcome) : Prop := o.action ≠ .add ∧ (o.action = .remove → o.newCode = "")

/-! ### Edits -/

namespace Edit

theorem newCode_eq_replacement_iff {e : Edit} (h : e.target.toList ≠ []) :
    e.newCode.toList = e.replacement.toList ↔ e.action ≠ .add ∧ (e.action = .remove → e.newCode = "") := by
  rw [replacement]
  cases e.action with
  | add =>
    rw [String.toList_append, List.self_eq_append_left]
    exact iff_of_false h fun hadd => hadd.1 rfl
  | remove => simp
  | replace => simp
  | modify => simp
  | wrap => simp

/-- An edit that changed the text found its target. -/
theorem infix_of_apply_ne {e : Edit} {text : String} (h : (e.apply text).1 ≠ text) :
    e.target.toList ≠ [] ∧ e.target.toList <:+: text.toList := by
  rw [ne_eq, ← String.toList_inj, toList_apply] at h
  constructor
  · intro hnil
    have hidle : e.substitution.Idle := Or.inl hnil
    exact h (hidle.apply _)
  · by_contra hn
    exact h (Text.Substitution.apply_of_not_infix hn)

/-- The change of an edit leads to the text that the edit left exactly if it logs what was written. -/
theorem replace_newCode_eq_iff {e : Edit} {text : String} (h : (e.apply text).1 ≠ text) :
    Text.replace text e.target e.newCode = (e.apply text).1 ↔ (e.carryOut text).2.LogsWritten := by
  obtain ⟨hne, ho⟩ := infix_of_apply_ne h
  rw [← String.toList_inj, toList_apply, Text.Substitution.apply_of_ne_nil (σ := e.substitution) hne, Text.replace,
    String.toList_ofList]
  exact (Text.replaceAll_inj hne text.toList ho).trans (newCode_eq_replacement_iff hne)

/-- The texts that some edits leave one after the other; an edit that changes nothing leaves none of its own. -/
def stages : List Edit → String → List String
  | [], _ => []
  | e :: rest, text =>
    if (e.apply text).1 = text then stages rest text else (e.apply text).1 :: stages rest (e.apply text).1

theorem stages_append : ∀ (es es' : List Edit) (text : String),
    stages (es ++ es') text = stages es text ++ stages es' (carryOutAll es text).1
  | [], _, _ => rfl
  | e :: es, es', text => by
    rw [List.cons_append, stages, stages, carryOutAll_cons]
    dsimp only
    split
    · rename_i hsame
      rw [stages_append es, hsame]
    · rw [stages_append es, List.cons_append]

theorem getLast?_stages : ∀ (es : List Edit) (text : String),
    (text :: stages es text).getLast? = some (carryOutAll es text).1
  | [], _ => rfl
  | e :: es, text => by
    rw [stages, carryOutAll_cons]
    split
    · rename_i hsame
      rw [hsame]
      exact getLast?_stages es text
    · rw [List.getLast?_cons_cons]
      exact getLast?_stages es _

/-- The new codes of some edits, put in place of the targets of those that were applied, lead through the texts that
    the edits left exactly if they are what was written. -/
theorem scanl_eq_stages_iff : ∀ (es : List Edit) (text : String),
    ((carryOutAll es text).2.filter (·.applied)).scanl (fun text o => Text.replace text o.target o.newCode) text =
      text :: stages es text ↔ ∀ o ∈ (carryOutAll es text).2, o.applied = true → o.LogsWritten
  | [], text => by simp [carryOutAll, stages]
  | e :: es, text => by
    have ih := scanl_eq_stages_iff es (e.apply text).1
    rw [carryOutAll_cons, List.forall_mem_cons, stages]
    dsimp only
    by_cases hsame : (e.apply text).1 = text
    · have hnot : ¬(e.carryOut text).2.applied = true := fun h => applied_carryOut_iff.mp h hsame
      rw [List.filter_cons_of_neg hnot, if_pos hsame, and_iff_right fun h => absurd h hnot, ← ih, hsame]
    · have happlied := applied_carryOut_iff.mpr hsame
      rw [List.filter_cons_of_pos happlied, if_neg hsame, List.scanl_cons, List.cons.injEq, and_iff_right rfl,
        forall_prop_of_true happlied, ← replace_newCode_eq_iff hsame, ← ih]
      -- The first text of the rest of the trace is the one that the first change leads to.
      constructor
      · intro htrace
        have hfirst := congrArg List.head? htrace
        rw [List.head?_scanl, List.head?_cons, Option.some.injEq] at hfirst
        exact ⟨hfirst, hfirst ▸ htrace⟩
      · rintro ⟨hfirst, htrace⟩
        rw [← hfirst] at htrace ⊢
        exact htrace

end Edit

/-! ### Conversions -/

namespace Conversion

/-- The edits of the recipes for some findings, in the order in which they are carried out. -/
def edits (d : Dialect) (fs : List Finding) : List Edit := fs.flatMap fun f => (f.recipeFor (some d)).ordered

/-- The texts that the edits of the conversion left, one after the other. -/
def stages (c : Conversion) : List String := Edit.stages c.recipe.ordered c.before

/-- A chain of conversions carries out the edits of all its recipes in one run. -/
theorem chain_eq_run (d : Dialect) : ∀ (fs : List Finding) (text : String),
    Edit.carryOutAll (edits d fs) text = (finalText text (chain d fs text), (chain d fs text).flatMap (·.outcomes)) ∧
    Edit.stages (edits d fs) text = (chain d fs text).flatMap (·.stages)
  | [], _ => ⟨rfl, rfl⟩
  | f :: fs, text => by
    obtain ⟨hrun, hstages⟩ := chain_eq_run d fs (ofFinding f text (some d)).converted
    have hedits : edits d (f :: fs) = (f.recipeFor (some d)).ordered ++ edits d fs := List.flatMap_cons
    have hfirst : Edit.carryOutAll (f.recipeFor (some d)).ordered text =
        ((ofFinding f text (some d)).converted, (ofFinding f text (some d)).outcomes) := rfl
    rw [hedits, Edit.carryOutAll_append, Edit.stages_append, hfirst, hrun, hstages, chain, finalText_cons,
      List.flatMap_cons, List.flatMap_cons]
    exact ⟨rfl, rfl⟩

/-- The log of some conversions has, in order, the targets and new codes of the edits that were applied. -/
theorem map_logged : ∀ cs : List Conversion, ((cs.map (·.logged)).flatten).map (fun x => (x.before, x.converted)) =
    ((cs.flatMap (·.outcomes)).filter (·.applied)).map fun o => (o.target, o.newCode)
  | [] => rfl
  | c :: cs => by
    have hfirst : c.logged.map (fun x => (x.before, x.converted)) =
        (c.outcomes.filter (·.applied)).map fun o => (o.target, o.newCode) := List.map_map
    rw [List.map_cons, List.flatten_cons, List.map_append, hfirst, map_logged cs, List.flatMap_cons,
      List.filter_append, List.map_append]

theorem scanl_logged (cs : List Conversion) (text : String) :
    ((cs.map (·.logged)).flatten).scanl Change.replay text =
      ((cs.flatMap (·.outcomes)).filter (·.applied)).scanl (fun text o => Text.replace text o.target o.newCode) text := by
  have h := congrArg (List.scanl (fun text (p : String × String) => Text.replace text p.1 p.2) text) (map_logged cs)
  rw [List.scanl_map, List.scanl_map] at h
  exact h

end Conversion

/-! ### Files -/

namespace ConvertedFile

/-- The changes that edits made, without the renames. -/
def editLog (file : ConvertedFile) : List Change := file.changes.filter (·.kind == .conversion)

/-- The texts that the edits of all conversions left, one after the other. -/
def stages (file : ConvertedFile) : List String := file.conversions.flatMap (·.stages)

/-- Every edit that was applied logs what it wrote. -/
def LogsWritten (file : ConvertedFile) : Prop :=
  ∀ c ∈ file.conversions, ∀ o ∈ c.outcomes, o.applied = true → o.LogsWritten

variable (s : Settings.Conversion) (text : String) (a : Analysis) (name : String)

theorem scanl_editLog_made : (made s text a name).editLog.scanl Change.replay text =
    ((Edit.carryOutAll (Conversion.edits a.dialect a.findings) text).2.filter (·.applied)).scanl
      (fun text o => Text.replace text o.target o.newCode) text := by
  rw [editLog, filter_changes_made, (Conversion.chain_eq_run a.dialect a.findings text).1]
  exact Conversion.scanl_logged _ text

theorem finalText_made : Conversion.finalText text (made s text a name).conversions =
    (Edit.carryOutAll (Conversion.edits a.dialect a.findings) text).1 :=
  congrArg Prod.fst (Conversion.chain_eq_run a.dialect a.findings text).1.symm

theorem stages_made : (made s text a name).stages = Edit.stages (Conversion.edits a.dialect a.findings) text :=
  (Conversion.chain_eq_run a.dialect a.findings text).2.symm

theorem scanl_editLog_made_iff : (made s text a name).editLog.scanl Change.replay text =
    text :: (made s text a name).stages ↔ (made s text a name).LogsWritten := by
  rw [scanl_editLog_made, stages_made, Edit.scanl_eq_stages_iff, (Conversion.chain_eq_run a.dialect a.findings text).1]
  exact List.forall_mem_flatMap

theorem foldl_editLog_made (h : (made s text a name).LogsWritten) :
    (made s text a name).editLog.foldl Change.replay text =
      Conversion.finalText text (made s text a name).conversions := by
  have hlast := Edit.getLast?_stages (Conversion.edits a.dialect a.findings) text
  rw [← stages_made s text a name, ← (scanl_editLog_made_iff s text a name).mpr h, List.getLast?_scanl,
    ← finalText_made s text a name] at hlast
  exact Option.some.inj hlast

/-- Every change that an edit made leads to the text that the edit left exactly if every applied edit logs what it
    wrote. Then the whole log leads from the text to the one that is renamed. -/
theorem editLog_replays_iff (t : Detector) (analysed : String) (d : Dialect) :
    ∃ file, convert s text (t.analyze analysed d) name = .ok file ∧
      file.code = (Rename.apply d (Conversion.finalText text file.conversions)).1 ∧
      (file.editLog.scanl Change.replay text = text :: file.stages ↔ file.LogsWritten) ∧
      (file.LogsWritten →
        file.editLog.foldl Change.replay text = Conversion.finalText text file.conversions) := by
  have hcode := (provenance_made s text (t.analyze analysed d) name).code
  rw [Detector.dialect_analyze] at hcode
  exact ⟨_, convert_eq_ok Detector.sightings_ne_nil s text name, hcode, scanl_editLog_made_iff s text _ name,
    foldl_editLog_made s text _ name⟩

/-- The recipe adds a comment behind a call. -/
def markingCalls : Signature where
  idiom := .pipeline
  patterns := [(.ioredis, [.literal "run"])]
  keywords := []
  rating := .simple
  requirements := []
  recipes := [⟨"mark-calls", "", [.ioredis], [⟨1, .add, "run();", " // migrated", "Mark the call", true⟩], [], []⟩]

theorem exists_finding_markingCalls : ∃ f, Finding.detect {} ⟨[markingCalls]⟩ "run();" .ioredis = [f] ∧
    f.recipes = markingCalls.recipes := by
  refine Finding.exists_detect_of_literal (t := ['r', 'u', 'n']) rfl (by decide) ?_
  rw [← Text.occursIn_iff]
  decide

/-- The change of an addition tells that the call became the comment, and replayed it takes the call away. -/
theorem editLog_loses_marked_call : ∃ c t, Catalog.ofList [markingCalls] = .ok c ∧ Detector.make c {} = .ok t ∧
    ∃ file, convert {} "run();" (t.analyze "run();" .ioredis) "a.ts" = .ok file ∧
      file.editLog.foldl Change.replay "run();" = " // migrated" ∧
      file.editLog.foldl Change.replay "run();" ≠ Conversion.finalText "run();" file.conversions := by
  obtain ⟨t₀, hdefault⟩ := Detector.exists_make_default
  obtain ⟨t, hmake⟩ : ∃ t, Detector.make ⟨[markingCalls]⟩ {} = .ok t := ⟨_, Detector.make_catalog hdefault _⟩
  obtain ⟨hcatalog, hsettings⟩ := Detector.make_eq_ok hmake
  obtain ⟨f, hdetect, hrecipes⟩ := exists_finding_markingCalls
  have hfindings : (t.analyze "run();" .ioredis).findings = [f] := by
    rw [Detector.findings_analyze, hcatalog, hsettings]
    exact hdetect
  have hedits : Conversion.edits .ioredis [f] = [⟨1, .add, "run();", " // migrated", "Mark the call", true⟩] := by
    rw [Conversion.edits, List.flatMap_singleton, Finding.recipeFor, hrecipes]
    exact List.mergeSort_singleton _
  refine ⟨⟨[markingCalls]⟩, t, rfl, hmake, _, convert_eq_ok Detector.sightings_ne_nil _ _ _, ?_⟩
  have hlog := congrArg List.getLast? (scanl_editLog_made {} "run();" (t.analyze "run();" .ioredis) "a.ts")
  rw [List.getLast?_scanl, List.getLast?_scanl, Option.some.injEq] at hlog
  rw [hlog, finalText_made, Detector.dialect_analyze, hfindings, hedits]
  decide

end ConvertedFile

end ClientMigration
