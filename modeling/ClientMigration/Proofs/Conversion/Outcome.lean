import ClientMigration.ConvertedFile
import ClientMigration.Proofs.Text.Lines
import ClientMigration.Proofs.Text.Substitution

/-! # What a conversion leaves

Edits and renames are substitutions, so the code of a converted file is the outcome of one run: the edits of
the recipes in the order of the findings, then the renames of the dialect. A conversion by findings that were
all sighted never fails. -/

namespace ClientMigration
open Text (Substitution)

/-! ### Edits -/

def Edit.substitution (e : Edit) : Substitution := ⟨e.target.toList, e.replacement.toList⟩

theorem Edit.toList_apply (e : Edit) (text : String) : (e.apply text).1.toList = e.substitution.apply text.toList := by
  unfold Edit.apply
  by_cases hne : e.target.toList = []
  · have hidle : e.substitution.Idle := Or.inl hne
    rw [if_pos (String.isEmpty_iff.mpr (String.toList_eq_nil_iff.mp hne)), hidle.apply]
  · have hemp : ¬e.target.isEmpty = true := fun h => hne (String.toList_eq_nil_iff.mpr (String.isEmpty_iff.mp h))
    rw [if_neg hemp]
    dsimp only
    split
    · rename_i hcount
      rw [Text.countOf_eq_zero_iff hne] at hcount
      exact (Substitution.apply_of_not_infix hcount).symm
    · rw [Substitution.apply_of_ne_nil hne, Text.replace, String.toList_ofList]
      rfl

@[simp] theorem Edit.carryOutAll_cons (e : Edit) (es : List Edit) (text : String) :
    Edit.carryOutAll (e :: es) text =
      ((Edit.carryOutAll es (e.apply text).1).1, (e.carryOut text).2 :: (Edit.carryOutAll es (e.apply text).1).2) := rfl

@[simp] theorem Edit.carryOutAll_append : ∀ (es es' : List Edit) (text : String), Edit.carryOutAll (es ++ es') text =
    ((Edit.carryOutAll es' (Edit.carryOutAll es text).1).1,
      (Edit.carryOutAll es text).2 ++ (Edit.carryOutAll es' (Edit.carryOutAll es text).1).2)
  | [], _, _ => rfl
  | e :: es, es', text => by
    simp [Edit.carryOutAll_append es]

theorem Edit.toList_carryOutAll : ∀ (es : List Edit) (text : String),
    (Edit.carryOutAll es text).1.toList = Substitution.run (es.map (·.substitution)) text.toList
  | [], _ => rfl
  | e :: es, text => by
    rw [Edit.carryOutAll_cons, List.map_cons, Substitution.run_cons, ← Edit.toList_apply]
    exact Edit.toList_carryOutAll es _

theorem Edit.apply_of_count_eq_zero {e : Edit} {text : String} (h : (e.apply text).2 = 0) : (e.apply text).1 = text := by
  unfold Edit.apply at h ⊢
  split
  · rfl
  · rename_i hne
    rw [if_neg hne] at h
    dsimp only at h ⊢
    split
    · rfl
    · rename_i hcount
      rw [if_neg hcount] at h
      exact absurd h hcount

/-- An edit counts as applied exactly if it changed the text. -/
theorem Edit.applied_carryOut_iff {e : Edit} {text : String} :
    (e.carryOut text).2.applied = true ↔ (e.apply text).1 ≠ text := by
  have hcount : (e.carryOut text).2.replacements = if (e.apply text).1 = text then 0 else (e.apply text).2 := rfl
  rw [EditOutcome.applied, decide_eq_true_iff, hcount]
  by_cases hsame : (e.apply text).1 = text
  · simp [hsame]
  · rw [if_neg hsame]
    exact iff_of_true (Nat.pos_of_ne_zero fun h0 => hsame (Edit.apply_of_count_eq_zero h0)) hsame

theorem Edit.carryOut_of_still {e : Edit} {text : String} (h : e.substitution.apply text.toList = text.toList) :
    (e.apply text).1 = text ∧ (e.carryOut text).2.applied = false := by
  have hsame : (e.apply text).1 = text := by
    rw [← String.toList_inj, Edit.toList_apply, h]
  exact ⟨hsame, Bool.eq_false_iff.mpr fun happlied => Edit.applied_carryOut_iff.mp happlied hsame⟩

theorem Edit.carryOutAll_of_still {text : String} : ∀ {es : List Edit},
    (∀ e ∈ es, e.substitution.apply text.toList = text.toList) →
    (Edit.carryOutAll es text).1 = text ∧ (Edit.carryOutAll es text).2.filter (·.applied) = []
  | [], _ => ⟨rfl, rfl⟩
  | e :: es, h => by
    obtain ⟨hsame, hnot⟩ := Edit.carryOut_of_still (h e List.mem_cons_self)
    obtain ⟨hfinal, hnone⟩ := Edit.carryOutAll_of_still fun x hx => h x (List.mem_cons_of_mem e hx)
    rw [Edit.carryOutAll_cons, hsame]
    refine ⟨hfinal, ?_⟩
    rw [List.filter_cons_of_neg (by rw [hnot]; exact Bool.false_ne_true), hnone]

/-! ### Renames -/

def Rename.substitution (r : Rename) : Substitution := ⟨r.call.toList, r.replacement.toList⟩

/-- A call that can be renamed line by line: it is not empty and stands on one line. -/
def Rename.OnOneLine (r : Rename) : Prop := r.call.toList ≠ [] ∧ '\n' ∉ r.call.toList

theorem Rename.onOneLine_of_mem {d : Dialect} : ∀ r ∈ Rename.forDialect d, r.OnOneLine := by
  cases d <;> simp only [Rename.forDialect, List.forall_mem_cons, Rename.OnOneLine] <;> decide

theorem Rename.toList_joinLines_map {r : Rename} (h : r.OnOneLine) {ls : List String} (hls : ls ≠ []) :
    (Text.joinLines (ls.map r.onLine)).toList = r.substitution.apply (Text.joinLines ls).toList := by
  have hmap : (ls.map r.onLine).map (·.toList) =
      (ls.map (·.toList)).map (Text.replaceAll r.call.toList r.replacement.toList) := by
    rw [List.map_map, List.map_map]
    refine List.map_congr_left fun l _ => ?_
    exact String.toList_ofList
  have hne : ls.map (·.toList) ≠ [] := fun h => hls (List.map_eq_nil_iff.mp h)
  rw [Text.toList_joinLines, hmap, ← Text.replaceAll_intercalate h.1 h.2 hne, ← Text.toList_joinLines]
  exact (Substitution.apply_of_ne_nil (σ := r.substitution) h.1 _).symm

theorem Rename.toList_joinLines_onLines : ∀ {rs : List Rename}, (∀ r ∈ rs, r.OnOneLine) →
    ∀ {ls : List String}, ls ≠ [] →
    (Text.joinLines (Rename.onLines rs ls).1).toList =
      Substitution.run (rs.map (·.substitution)) (Text.joinLines ls).toList
  | [], _, _, _ => rfl
  | r :: rs, h, ls, hls => by
    have hmap : ls.map r.onLine ≠ [] := fun h => hls (List.map_eq_nil_iff.mp h)
    rw [List.map_cons, Substitution.run_cons, ← Rename.toList_joinLines_map (h r List.mem_cons_self) hls]
    exact Rename.toList_joinLines_onLines (fun x hx => h x (List.mem_cons_of_mem r hx)) hmap

/-- Renaming line by line is renaming in the whole text. -/
theorem Rename.toList_apply (d : Dialect) (text : String) :
    (Rename.apply d text).1.toList = Substitution.run ((Rename.forDialect d).map (·.substitution)) text.toList := by
  have h := Rename.toList_joinLines_onLines (Rename.onOneLine_of_mem (d := d)) (Text.lines_ne_nil (s := text))
  rwa [Text.joinLines_lines] at h

theorem Rename.changes_eq_nil_iff {r : Rename} {ls : List String} :
    r.changes ls = [] ↔ ∀ l ∈ ls, ¬r.call.toList <:+: l.toList := by
  have hnone : ∀ (l : String) (i : Nat), r.change? l i = none ↔ ¬r.call.toList <:+: l.toList := by
    intro l i
    rw [← Text.contains_iff, Rename.change?]
    split <;> simp [*]
  simp only [Rename.changes, List.filterMap_eq_nil_iff, hnone]
  constructor
  · intro h l hl
    obtain ⟨i, hi, rfl⟩ := List.mem_iff_getElem.mp hl
    exact h (ls[i], i) (List.mk_mem_zipIdx_iff_getElem?.mpr (List.getElem?_eq_getElem hi))
  · rintro h ⟨l, i⟩ hl
    exact h l (List.fst_mem_of_mem_zipIdx hl)

theorem Rename.onLine_of_not_called {r : Rename} (hne : r.call.toList ≠ []) {l : String}
    (h : ¬r.call.toList <:+: l.toList) : r.onLine l = l := by
  rw [Rename.onLine, Text.replace, Text.replaceAll_of_not_infix hne _ h, String.ofList_toList]

/-- Renaming logs nothing exactly if no line calls a method that is renamed. -/
theorem Rename.onLines_changes_eq_nil_iff : ∀ {rs : List Rename}, (∀ r ∈ rs, r.OnOneLine) → ∀ {ls : List String},
    (Rename.onLines rs ls).2 = [] ↔ ∀ r ∈ rs, ∀ l ∈ ls, ¬r.call.toList <:+: l.toList
  | [], _, _ => by simp [Rename.onLines]
  | r :: rs, h, ls => by
    have hchanges : (Rename.onLines (r :: rs) ls).2 = r.changes ls ++ (Rename.onLines rs (ls.map r.onLine)).2 := rfl
    rw [hchanges, List.append_eq_nil_iff, Rename.changes_eq_nil_iff, List.forall_mem_cons]
    -- Where the first call does not occur its rename leaves the lines, so the rest sees them as they were.
    refine and_congr_right fun hfirst => ?_
    have hsame : ls.map r.onLine = ls := by
      refine (List.map_congr_left fun l hl => ?_).trans (List.map_id ls)
      exact Rename.onLine_of_not_called (h r List.mem_cons_self).1 (hfirst l hl)
    rw [hsame, Rename.onLines_changes_eq_nil_iff fun x hx => h x (List.mem_cons_of_mem r hx)]

theorem Rename.apply_changes_eq_nil_iff {d : Dialect} {text : String} :
    (Rename.apply d text).2 = [] ↔ ∀ r ∈ Rename.forDialect d, ¬r.call.toList <:+: text.toList := by
  have h := @Rename.onLines_changes_eq_nil_iff _ (@Rename.onOneLine_of_mem d) (Text.lines text)
  refine h.trans (forall₂_congr fun r hr => ?_)
  rw [← Text.exists_mem_lines_iff (Rename.onOneLine_of_mem r hr).2]
  simp only [not_exists, not_and]

theorem Rename.apply_of_not_called {d : Dialect} {text : String}
    (h : ∀ r ∈ Rename.forDialect d, ¬r.call.toList <:+: text.toList) : (Rename.apply d text).1 = text := by
  rw [← String.toList_inj, Rename.toList_apply]
  refine Substitution.run_of_still fun σ hσ => ?_
  obtain ⟨r, hr, rfl⟩ := List.mem_map.mp hσ
  exact Substitution.apply_of_not_infix (h r hr)

/-! ### Conversions -/

theorem Finding.recipeFor_congr {f g : Finding} (h : f.recipes = g.recipes) (d : Option Dialect) :
    f.recipeFor d = g.recipeFor d := by
  rw [Finding.recipeFor, Finding.recipeFor, h]

namespace Conversion

@[simp] theorem finalText_cons (text : String) (c : Conversion) (cs : List Conversion) :
    finalText text (c :: cs) = finalText c.converted cs := by
  rw [finalText, finalText, List.getLast?_cons, Option.map_some, Option.getD_some]
  cases cs.getLast? <;> rfl

/-- The substitutions that the recipes of some findings make, in their order. -/
def substitutions (d : Dialect) (fs : List Finding) : List Substitution :=
  fs.flatMap fun f => (f.recipeFor (some d)).ordered.map (·.substitution)

@[simp] theorem substitutions_cons (d : Dialect) (f : Finding) (fs : List Finding) :
    substitutions d (f :: fs) = (f.recipeFor (some d)).ordered.map (·.substitution) ++ substitutions d fs :=
  List.flatMap_cons

theorem toList_finalText_chain (d : Dialect) : ∀ (fs : List Finding) (text : String),
    (finalText text (chain d fs text)).toList = Substitution.run (substitutions d fs) text.toList
  | [], _ => rfl
  | f :: fs, text => by
    have hfirst : (ofFinding f text (some d)).converted.toList =
        Substitution.run ((f.recipeFor (some d)).ordered.map (·.substitution)) text.toList :=
      Edit.toList_carryOutAll _ text
    rw [chain, finalText_cons, toList_finalText_chain d fs, substitutions_cons, Substitution.run_append, hfirst]

theorem finding_mem_of_mem_chain {d : Dialect} : ∀ {fs : List Finding} {text : String} {c : Conversion},
    c ∈ chain d fs text → c.finding ∈ fs
  | [], _, _, h => nomatch h
  | f :: fs, text, c, h => by
    rw [chain] at h
    rcases List.mem_cons.mp h with rfl | h
    · exact List.mem_cons_self
    · exact List.mem_cons_of_mem f (finding_mem_of_mem_chain h)

/-- The changes that a conversion logs. -/
def logged (c : Conversion) : List Change := (c.outcomes.filter (·.applied)).map (c.changeOf c.finding.firstLine)

theorem changes_eq_ok {c : Conversion} (h : c.finding.sightings ≠ []) : c.changes = .ok c.logged := by
  obtain ⟨s, rest, hs⟩ := List.exists_cons_of_ne_nil h
  have hline : c.finding.firstLine = s.lineNumber := by rw [Finding.firstLine, hs]; rfl
  rw [changes, hs, logged, hline]

theorem mapM_changes_eq_ok : ∀ {cs : List Conversion}, (∀ c ∈ cs, c.finding.sightings ≠ []) →
    cs.mapM (·.changes) = .ok (cs.map (·.logged))
  | [], _ => rfl
  | c :: cs, h => by
    rw [List.mapM_cons, changes_eq_ok (h c List.mem_cons_self),
      mapM_changes_eq_ok fun x hx => h x (List.mem_cons_of_mem c hx)]
    rfl

/-- Conversions of a text that none of their edits changes leave it and log nothing. -/
theorem chain_of_still {d : Dialect} {text : String} : ∀ {fs : List Finding},
    (∀ σ ∈ substitutions d fs, σ.apply text.toList = text.toList) →
    finalText text (chain d fs text) = text ∧ ∀ c ∈ chain d fs text, c.logged = []
  | [], _ => ⟨rfl, by simp [chain]⟩
  | f :: fs, h => by
    rw [substitutions_cons, List.forall_mem_append] at h
    have hedits : ∀ e ∈ (f.recipeFor (some d)).ordered, e.substitution.apply text.toList = text.toList :=
      fun e he => h.1 e.substitution (List.mem_map_of_mem he)
    obtain ⟨hsame, hnone⟩ := Edit.carryOutAll_of_still hedits
    have hconv : (ofFinding f text (some d)).converted = text := hsame
    obtain ⟨hfinal, hrest⟩ := chain_of_still h.2
    rw [chain, finalText_cons, hconv]
    refine ⟨hfinal, List.forall_mem_cons.mpr ⟨?_, hrest⟩⟩
    have hout : (ofFinding f text (some d)).outcomes.filter (·.applied) = [] := hnone
    rw [logged, hout, List.map_nil]

end Conversion

/-! ### Files -/

namespace ConvertedFile

/-- The file that a conversion makes if every finding has a sighting to log its changes at. -/
def made (s : Settings.Conversion) (text : String) (a : Analysis) (name : String) : ConvertedFile :=
  let conversions := Conversion.chain a.dialect a.findings text
  let renamed := Rename.apply a.dialect (Conversion.finalText text conversions)
  let changes := (conversions.map (·.logged)).flatten ++ renamed.2
  let skipped := conversions.foldl (fun n c => n + c.skippedEdits) 0
  { name := name
    code := renamed.1
    changes := changes
    confidence := confidenceOf s changes a.findings skipped
    warnings := warningsOf changes a.findings conversions
    skippedEdits := skipped
    conversions := conversions }

theorem convert_eq_ok {a : Analysis} (h : ∀ f ∈ a.findings, f.sightings ≠ []) (s : Settings.Conversion)
    (text name : String) : convert s text a name = .ok (made s text a name) := by
  have hedits := Conversion.mapM_changes_eq_ok fun c hc =>
    h c.finding (@Conversion.finding_mem_of_mem_chain a.dialect a.findings text c hc)
  rw [convert, hedits]
  rfl

/-- The substitutions that turn a text into the code of the converted file. -/
def substitutions (a : Analysis) : List Substitution :=
  Conversion.substitutions a.dialect a.findings ++ (Rename.forDialect a.dialect).map (·.substitution)

theorem toList_code_made (s : Settings.Conversion) (text : String) (a : Analysis) (name : String) :
    (made s text a name).code.toList = Substitution.run (substitutions a) text.toList := by
  rw [substitutions, Substitution.run_append, ← Conversion.toList_finalText_chain]
  exact Rename.toList_apply a.dialect _

end ConvertedFile

end ClientMigration
