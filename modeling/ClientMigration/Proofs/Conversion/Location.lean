import ClientMigration.Proofs.Conversion.LineByLine
import ClientMigration.Proofs.Text.FirstLine
import Mathlib.Data.List.Forall2

/-! # Where the log places a change

The log places the change of an edit on the line where its target first begins in the text before the whole
conversion, or else on the line of the first sighting. The edit itself works on what the edits before it left, where
its target may first begin on another line. No line is wrong if the edits of a recipe keep away from each other's
targets and write as many lines as they take, as those of the built-in recipes do. -/

namespace ClientMigration
open Text (Substitution)

/-! ### Substitutions that move no line -/

namespace Text.Substitution

/-- The substitution leaves the line on which a text first begins. -/
def KeepsLine (t : List Char) (σ : Substitution) : Prop :=
  σ.Idle ∨ Apart t σ.target ∧ Apart t σ.replacement ∧ σ.target.count '\n' = σ.replacement.count '\n'

instance (t : List Char) (σ : Substitution) : Decidable (KeepsLine t σ) := inferInstanceAs (Decidable (_ ∨ _))

theorem KeepsLine.firstLine?_apply {t : List Char} {σ : Substitution} (h : KeepsLine t σ) (hne : t ≠ [])
    (text : List Char) : firstLine? t (σ.apply text) = firstLine? t text := by
  by_cases hi : σ.Idle
  · rw [hi.apply]
  · obtain ⟨htarget, hreplacement, hlines⟩ := h.resolve_left hi
    rw [apply_of_ne_nil (target_ne_nil hi)]
    exact firstLine?_replaceAll hne (target_ne_nil hi) htarget hreplacement hlines text

end Text.Substitution

/-! ### Edits -/

namespace Edit

/-- The outcomes of some edits, one upon the other, each with the text that its edit worked on. -/
def rewrites : List Edit → String → List (EditOutcome × String)
  | [], _ => []
  | e :: rest, text => ((e.carryOut text).2, text) :: rewrites rest (e.apply text).1

theorem map_fst_rewrites : ∀ (es : List Edit) (text : String), (rewrites es text).map (·.1) = (carryOutAll es text).2
  | [], _ => rfl
  | e :: es, text => by simp [rewrites, map_fst_rewrites es]

/-- Each outcome is that of an edit on the text beside it. -/
theorem exists_edit_of_mem_rewrites {o : EditOutcome} {found : String} : ∀ {es : List Edit} {text : String},
    (o, found) ∈ rewrites es text → ∃ e ∈ es, o = (e.carryOut found).2
  | [], _, h => nomatch h
  | e :: es, text, h => by
    rw [rewrites] at h
    rcases List.mem_cons.mp h with heq | h
    · cases heq
      exact ⟨e, List.mem_cons_self, rfl⟩
    · obtain ⟨e', he', hsame⟩ := exists_edit_of_mem_rewrites h
      exact ⟨e', List.mem_cons_of_mem e he', hsame⟩

/-- An edit that was applied found its target in the text that it worked on, and put something else in its place. -/
theorem not_idle_of_applied {e : Edit} {text : String} (h : (e.carryOut text).2.applied = true) :
    ¬e.substitution.Idle ∧ e.target.toList <:+: text.toList := by
  have hchanged := applied_carryOut_iff.mp h
  refine ⟨fun hidle => hchanged ?_, (infix_of_apply_ne hchanged).2⟩
  rw [← String.toList_inj, toList_apply, hidle.apply]

/-- No edit moves the line on which the target of a later one first begins. -/
def KeepLines (es : List Edit) : Prop :=
  es.Pairwise fun e later => later.substitution.Idle ∨ e.substitution.KeepsLine later.target.toList

theorem KeepLines.firstLine?_eq {o : EditOutcome} {found : String} (happlied : o.applied = true) :
    ∀ {es : List Edit}, KeepLines es → ∀ {text : String}, (o, found) ∈ rewrites es text →
    Text.firstLine? o.target.toList found.toList = Text.firstLine? o.target.toList text.toList
  | [], _, _, h => nomatch h
  | e :: es, hkeep, text, h => by
    rw [KeepLines, List.pairwise_cons] at hkeep
    rw [rewrites] at h
    rcases List.mem_cons.mp h with heq | h
    · cases heq
      rfl
    · -- The rest leaves the line as the first edit left it, and that leaves it as it was.
      rw [KeepLines.firstLine?_eq happlied hkeep.2 h, toList_apply]
      obtain ⟨e', he', rfl⟩ := exists_edit_of_mem_rewrites h
      obtain ⟨hactive, -⟩ := not_idle_of_applied happlied
      exact ((hkeep.1 e' he').resolve_left hactive).firstLine?_apply (Substitution.target_ne_nil hactive) _

end Edit

/-- No edit of the recipe moves the line on which the target of a later one first begins. -/
def Recipe.KeepsLines (r : Recipe) : Prop := Edit.KeepLines r.ordered

/-! ### Conversions -/

/-- An edit that was applied, with the conversion that it is part of and the text that it worked on. -/
structure Rewrite where
  conversion : Conversion
  outcome : EditOutcome
  text : String

/-- What is logged of the rewrite. -/
def Rewrite.change (w : Rewrite) : Change := w.conversion.changeOf w.conversion.finding.firstLine w.outcome

/-- The line of the change is the one on which what it replaced first begins in a text. -/
def Change.PlacedIn (x : Change) (text : String) : Prop := Text.BeginsOn x.before.toList text.toList x.line

namespace Conversion

/-- The edits of the conversion that were applied. -/
def rewrites (c : Conversion) : List Rewrite :=
  ((Edit.rewrites c.recipe.ordered c.before).filter (·.1.applied)).map fun w => ⟨c, w.1, w.2⟩

theorem mem_rewrites_iff {c : Conversion} {w : Rewrite} : w ∈ c.rewrites ↔
    w.conversion = c ∧ (w.outcome, w.text) ∈ Edit.rewrites c.recipe.ordered c.before ∧ w.outcome.applied = true := by
  rw [rewrites, List.mem_map]
  constructor
  · rintro ⟨⟨o, text⟩, hw, rfl⟩
    exact ⟨rfl, List.mem_filter.mp hw⟩
  · rintro ⟨rfl, hw⟩
    exact ⟨(w.outcome, w.text), List.mem_filter.mpr hw, rfl⟩

theorem logged_eq_map_change {c : Conversion} (h : c.outcomes = (c.recipe.apply c.before).2) :
    c.logged = c.rewrites.map (·.change) := by
  rw [logged, h, Recipe.apply, ← Edit.map_fst_rewrites, List.filter_map, List.map_map, rewrites, List.map_map]
  rfl

end Conversion

namespace Rewrite
variable {c : Conversion} {w : Rewrite}

theorem line_change (w : Rewrite) : w.change.line =
    ((Text.firstLine? w.outcome.target.toList w.conversion.before.toList).map Int.ofNat).getD
      w.conversion.finding.firstLine := rfl

theorem target_of_mem (h : w ∈ c.rewrites) : w.outcome.target.toList ≠ [] ∧ w.outcome.target.toList <:+: w.text.toList := by
  obtain ⟨-, hmem, happlied⟩ := Conversion.mem_rewrites_iff.mp h
  obtain ⟨e, -, hsame⟩ := Edit.exists_edit_of_mem_rewrites hmem
  rw [hsame] at happlied ⊢
  obtain ⟨hactive, ho⟩ := Edit.not_idle_of_applied happlied
  exact ⟨Substitution.target_ne_nil hactive, ho⟩

theorem exists_beginsOn (h : w ∈ c.rewrites) : ∃ line, Text.BeginsOn w.outcome.target.toList w.text.toList line := by
  obtain ⟨hne, ho⟩ := target_of_mem h
  cases hline : Text.firstLine? w.outcome.target.toList w.text.toList with
  | none => exact absurd ho ((Text.firstLine?_eq_none_iff hne _).mp hline)
  | some n => exact ⟨n, (Text.map_firstLine?_eq_some_iff hne _).mp (by rw [hline]; rfl)⟩

/-- The log places a rewrite right exactly if its target first begins on the same line in the text before the
    conversion, or is not in that text and first begins on the line of the first sighting. -/
theorem placedIn_iff (h : w ∈ c.rewrites) : w.change.PlacedIn w.text ↔
    (∃ line, Text.BeginsOn w.outcome.target.toList w.conversion.before.toList line ∧
      Text.BeginsOn w.outcome.target.toList w.text.toList line) ∨
    ¬w.outcome.target.toList <:+: w.conversion.before.toList ∧
      Text.BeginsOn w.outcome.target.toList w.text.toList w.conversion.finding.firstLine := by
  obtain ⟨hne, -⟩ := target_of_mem h
  have hbefore : w.change.before = w.outcome.target := rfl
  have hthere := @Text.map_firstLine?_eq_some_iff _ hne w.conversion.before.toList
  have hnot := Text.firstLine?_eq_none_iff hne w.conversion.before.toList
  rw [Change.PlacedIn, hbefore, line_change]
  simp only [← hthere, ← hnot]
  cases Text.firstLine? w.outcome.target.toList w.conversion.before.toList with
  | none => simp
  | some n => simp

theorem placedIn_of_keepsLines (hkeeps : c.recipe.KeepsLines) (h : w ∈ c.rewrites) : w.change.PlacedIn w.text := by
  obtain ⟨line, hline⟩ := exists_beginsOn h
  obtain ⟨hne, -⟩ := target_of_mem h
  refine (placedIn_iff h).mpr (Or.inl ⟨line, ?_, hline⟩)
  obtain ⟨rfl, hmem, happlied⟩ := Conversion.mem_rewrites_iff.mp h
  rw [← Text.map_firstLine?_eq_some_iff hne] at hline ⊢
  rw [← hline, Edit.KeepLines.firstLine?_eq happlied hkeeps hmem]

end Rewrite

/-! ### The built-in catalog -/

namespace Catalog

theorem builtinSubstitutions_keepLines : ∀ d i,
    (builtinSubstitutions d i).Pairwise fun σ later => later.Idle ∨ σ.KeepsLine later.target := by
  simp only [builtinSubstitutions_spelled]
  decide

/-- The edits of a built-in recipe keep away from the targets of each other. -/
theorem builtin_keepsLines : ∀ e ∈ builtinEntries, ∀ r ∈ e.recipes, r.KeepsLines := by
  intro e he r hr
  obtain ⟨d, rfl⟩ := exists_eq_builtinRecipe e he r hr
  rw [Recipe.KeepsLines, ordered_builtinRecipe]
  exact List.pairwise_map.mp (builtinSubstitutions_keepLines d e.idiom)

end Catalog

/-! ### Files -/

namespace ConvertedFile

/-- The edits that were applied to the file, in the order in which they are logged. -/
def rewrites (file : ConvertedFile) : List Rewrite := file.conversions.flatMap (·.rewrites)

variable (s : Settings.Conversion) (text : String) (a : Analysis) (name : String)

theorem editLog_made : (made s text a name).editLog = (made s text a name).rewrites.map (·.change) := by
  have hlogged : ∀ c ∈ (made s text a name).conversions, c.logged = c.rewrites.map (·.change) := by
    intro c hc
    refine Conversion.logged_eq_map_change ?_
    rw [Conversion.eq_ofFinding_of_mem_chain c hc]
    rfl
  rw [editLog, filter_changes_made, rewrites, List.map_flatMap, List.map_congr_left hlogged]
  rfl

/-- The recipes of the findings, or the one that edits nothing, are those that were carried out. -/
theorem keepsLines_of_mem {a : Analysis} (h : ∀ f ∈ a.findings, ∀ r ∈ f.recipes, r.KeepsLines) :
    ∀ c ∈ (made s text a name).conversions, c.recipe.KeepsLines := by
  intro c hc
  have hrecipe : c.recipe = c.finding.recipeFor (some a.dialect) := by
    rw [Conversion.eq_ofFinding_of_mem_chain c hc]
    rfl
  rw [hrecipe]
  rcases c.finding.recipeFor_cases (some a.dialect) with hr | hr
  · exact h c.finding (Conversion.finding_mem_of_mem_chain hc) _ hr
  · have hnone : Recipe.fallback.ordered = [] := List.mergeSort_nil
    rw [hr, Recipe.KeepsLines, hnone]
    exact List.Pairwise.nil

/-- Every change that an edit made is placed right exactly if its target first begins on the same line in the text
    before the conversion and in the one that the edit worked on, or is not in the first and begins on the line of the
    first sighting in the second. If no edit of a recipe moves the first line of a later target, as in every built-in
    recipe, all changes are placed right. -/
theorem editLog_placed_iff (t : Detector) (analysed : String) (d : Dialect) :
    ∃ file, convert s text (t.analyze analysed d) name = .ok file ∧
      List.Forall₂ (fun x w => x.before = w.outcome.target ∧
        (∃ line, Text.BeginsOn x.before.toList w.text.toList line) ∧
        (x.PlacedIn w.text ↔
          (∃ line, Text.BeginsOn x.before.toList w.conversion.before.toList line ∧
            Text.BeginsOn x.before.toList w.text.toList line) ∨
          ¬x.before.toList <:+: w.conversion.before.toList ∧
            Text.BeginsOn x.before.toList w.text.toList w.conversion.finding.firstLine)) file.editLog file.rewrites ∧
      ((∀ f ∈ (t.analyze analysed d).findings, ∀ r ∈ f.recipes, r.KeepsLines) →
        List.Forall₂ (fun x w => x.PlacedIn w.text) file.editLog file.rewrites) ∧
      ∀ e ∈ Catalog.builtinEntries, ∀ r ∈ e.recipes, r.KeepsLines := by
  refine ⟨_, convert_eq_ok Detector.sightings_ne_nil s text name, ?_, fun hkeeps => ?_, Catalog.builtin_keepsLines⟩
  · rw [editLog_made, List.forall₂_map_left_iff, List.forall₂_same]
    intro w hw
    obtain ⟨c, -, hw⟩ := List.mem_flatMap.mp hw
    exact ⟨rfl, Rewrite.exists_beginsOn hw, Rewrite.placedIn_iff hw⟩
  · rw [editLog_made, List.forall₂_map_left_iff, List.forall₂_same]
    intro w hw
    obtain ⟨c, hc, hw⟩ := List.mem_flatMap.mp hw
    exact Rewrite.placedIn_of_keepsLines (keepsLines_of_mem s text name hkeeps c hc) hw

/-- The first edit takes a whole call, which has the target of the second in it. -/
def spellingOut : Recipe where
  name := "spell-out"
  description := ""
  dialects := [.ioredis]
  edits := [⟨1, .replace, "run().exec()", "runAll()", "Run at once", true⟩,
    ⟨2, .replace, ".exec()", ".execute()", "Spell out", true⟩]
  risks := []
  validation := []

def spelledOut : Signature where
  idiom := .pipeline
  patterns := [(.ioredis, [.literal "exec"])]
  keywords := []
  rating := .simple
  requirements := []
  recipes := [spellingOut]

theorem mem_rewrites_spellingOut :
    (⟨2, .replace, ".exec()", ".execute()", "Spell out", 1, some 1⟩, "runAll()\np.exec()") ∈
      Edit.rewrites spellingOut.ordered "run().exec()\np.exec()" := by
  have hordered : spellingOut.ordered = spellingOut.edits := List.mergeSort_of_pairwise (by decide)
  rw [hordered]
  decide

theorem exists_rewrite_spellingOut {f : Finding} (h : f.recipeFor (some .ioredis) = spellingOut) :
    ∃ w ∈ (Conversion.ofFinding f "run().exec()\np.exec()" (some .ioredis)).rewrites,
      w.change.before = ".exec()" ∧ w.text = "runAll()\np.exec()" ∧ w.change.line = 1 := by
  have hline : Text.firstLine? ".exec()".toList "run().exec()\np.exec()".toList = some 1 := by decide
  refine ⟨⟨_, _, _⟩, Conversion.mem_rewrites_iff.mpr ⟨rfl, h ▸ mem_rewrites_spellingOut, rfl⟩, rfl, rfl, ?_⟩
  rw [Rewrite.line_change]
  dsimp only
  rw [hline]
  rfl

/-- The second change is logged on the first line, where only the first edit found anything to replace. -/
theorem change_placed_above_its_edit : ∃ c t, Catalog.ofList [spelledOut] = .ok c ∧ Detector.make c {} = .ok t ∧
    ∃ file, convert {} "run().exec()\np.exec()" (t.analyze "run().exec()\np.exec()" .ioredis) "a.ts" = .ok file ∧
      ∃ x w, (x, w) ∈ file.editLog.zip file.rewrites ∧ x.before = ".exec()" ∧ w.text = "runAll()\np.exec()" ∧
        x.line = 1 ∧ Text.BeginsOn x.before.toList w.text.toList 2 := by
  obtain ⟨t₀, hdefault⟩ := Detector.exists_make_default
  obtain ⟨t, hmake⟩ : ∃ t, Detector.make ⟨[spelledOut]⟩ {} = .ok t := ⟨_, Detector.make_catalog hdefault _⟩
  obtain ⟨hcatalog, hsettings⟩ := Detector.make_eq_ok hmake
  have ho : ['e', 'x', 'e', 'c'] <:+: "run().exec()\np.exec()".toList := by
    rw [← Text.occursIn_iff]
    decide
  obtain ⟨f, hdetect, hrecipes⟩ := Finding.exists_detect_of_literal (e := spelledOut) (d := .ioredis) rfl (by decide) ho
  have hfindings : (t.analyze "run().exec()\np.exec()" .ioredis).findings = [f] := by
    rw [Detector.findings_analyze, hcatalog, hsettings]
    exact hdetect
  have hrecipe : f.recipeFor (some .ioredis) = spellingOut := by
    rw [Finding.recipeFor, hrecipes]
    rfl
  obtain ⟨w, hw, hbefore, htext, hline⟩ := exists_rewrite_spellingOut hrecipe
  refine ⟨_, t, rfl, hmake, _, convert_eq_ok Detector.sightings_ne_nil _ _ _, w.change, w, ?_, hbefore, htext, hline, ?_⟩
  · rw [editLog_made, ← List.map_prod_right_eq_zip, rewrites]
    refine List.mem_map_of_mem (List.mem_flatMap.mpr ⟨_, ?_, hw⟩)
    show _ ∈ Conversion.chain _ (t.analyze "run().exec()\np.exec()" .ioredis).findings _
    rw [hfindings, Detector.dialect_analyze]
    exact List.mem_cons_self
  · rw [hbefore, htext, ← Text.map_firstLine?_eq_some_iff (by decide)]
    decide

end ConvertedFile

end ClientMigration
