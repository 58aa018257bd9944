import ClientMigration.Proofs.Conversion.Outcome
import ClientMigration.Proofs.Detection
import Mathlib.Algebra.Ring.Nat
import Mathlib.Data.List.Chain

/-! # Where a converted file comes from

Each finding is converted once, on the text that the conversion before it left, and the last text is renamed. An edit
counts as applied exactly if it changed its text, so a file without changes is the text it was made from. -/

namespace ClientMigration

/-! ### Edits that were applied -/

theorem Edit.carryOutAll_of_none_applied : ∀ {es : List Edit} {text : String},
    (Edit.carryOutAll es text).2.filter (·.applied) = [] → (Edit.carryOutAll es text).1 = text
  | [], _, _ => rfl
  | e :: es, text, h => by
    rw [Edit.carryOutAll_cons, List.filter_eq_nil_iff, List.forall_mem_cons, Edit.applied_carryOut_iff, not_not] at h
    obtain ⟨hsame, hrest⟩ := h
    rw [hsame] at hrest
    rw [Edit.carryOutAll_cons, hsame]
    exact Edit.carryOutAll_of_none_applied (List.filter_eq_nil_iff.mpr hrest)

/-! ### Renames -/

theorem Rename.kind_of_mem_onLines : ∀ {rs : List Rename} {ls : List String},
    ∀ c ∈ (Rename.onLines rs ls).2, c.kind = .rename
  | [], _, _, h => nomatch h
  | r :: rs, ls, c, h => by
    have hchanges : (Rename.onLines (r :: rs) ls).2 = r.changes ls ++ (Rename.onLines rs (ls.map r.onLine)).2 := rfl
    rw [hchanges, List.mem_append] at h
    rcases h with h | h
    · obtain ⟨⟨l, i⟩, -, hc⟩ := List.mem_filterMap.mp h
      simp only [Rename.change?] at hc
      split at hc <;> cases hc
      rfl
    · exact Rename.kind_of_mem_onLines c h

theorem Rename.kind_of_mem_apply {d : Dialect} {text : String} : ∀ c ∈ (Rename.apply d text).2, c.kind = .rename :=
  Rename.kind_of_mem_onLines

/-! ### Conversions -/

namespace Conversion

theorem kind_of_mem_logged {c : Conversion} : ∀ x ∈ c.logged, x.kind = .conversion := by
  intro x hx
  obtain ⟨o, -, rfl⟩ := List.mem_map.mp hx
  rfl

theorem length_logged (c : Conversion) : c.logged.length = c.appliedEdits := by
  rw [logged, List.length_map, appliedEdits, countApplied, List.countP_eq_length_filter]

variable {d : Dialect}

theorem map_finding_chain : ∀ (fs : List Finding) (text : String), (chain d fs text).map (·.finding) = fs
  | [], _ => rfl
  | f :: fs, text => congrArg (f :: ·) (map_finding_chain fs (ofFinding f text (some d)).converted)

theorem eq_ofFinding_of_mem_chain : ∀ {fs : List Finding} {text : String},
    ∀ c ∈ chain d fs text, c = ofFinding c.finding c.before (some d)
  | [], _, _, h => nomatch h
  | f :: fs, text, c, h => by
    rw [chain] at h
    rcases List.mem_cons.mp h with rfl | h
    · rfl
    · exact eq_ofFinding_of_mem_chain c h

theorem before_of_mem_head?_chain {fs : List Finding} {text : String} :
    ∀ c ∈ (chain d fs text).head?, c.before = text := by
  intro c hc
  cases fs with
  | nil => cases hc
  | cons f fs =>
    cases hc
    rfl

theorem isChain_chain : ∀ (fs : List Finding) (text : String),
    (chain d fs text).IsChain fun c next => next.before = c.converted
  | [], _ => .nil
  | f :: fs, text => by
    rw [chain, List.isChain_cons]
    exact ⟨before_of_mem_head?_chain, isChain_chain fs _⟩

theorem finalText_of_none_logged : ∀ {fs : List Finding} {text : String},
    (∀ c ∈ chain d fs text, c.logged = []) → finalText text (chain d fs text) = text
  | [], _, _ => rfl
  | f :: fs, text, h => by
    rw [chain, List.forall_mem_cons] at h
    obtain ⟨hfirst, hrest⟩ := h
    have hsame : (ofFinding f text (some d)).converted = text :=
      Edit.carryOutAll_of_none_applied (List.map_eq_nil_iff.mp hfirst)
    rw [chain, finalText_cons, hsame]
    rw [hsame] at hrest
    exact finalText_of_none_logged hrest

end Conversion

/-! ### Files -/

namespace ConvertedFile

/-- How a file was made from a text by the findings of an analysis. -/
structure Provenance (text : String) (a : Analysis) (file : ConvertedFile) : Prop where
  findings : file.conversions.map (·.finding) = a.findings
  conversions : ∀ c ∈ file.conversions, c = .ofFinding c.finding c.before (some a.dialect)
  starts : ∀ c ∈ file.conversions.head?, c.before = text
  follows : file.conversions.IsChain fun c next => next.before = c.converted
  code : file.code = (Rename.apply a.dialect (Conversion.finalText text file.conversions)).1
  changes : file.changes = file.changes.filter (·.kind == .conversion) ++ file.changes.filter (·.kind == .rename)
  applied : (file.changes.filter (·.kind == .conversion)).length = (file.conversions.map (·.appliedEdits)).sum
  renamed : file.changes.filter (·.kind == .rename) =
    (Rename.apply a.dialect (Conversion.finalText text file.conversions)).2
  skipped : file.skippedEdits = (file.conversions.map (·.skippedEdits)).sum
  unchanged : file.changes = [] → file.code = text

theorem kind_of_mem_flatten_logged {cs : List Conversion} : ∀ x ∈ (cs.map (·.logged)).flatten, x.kind = .conversion := by
  intro x hx
  obtain ⟨log, hlog, hx⟩ := List.mem_flatten.mp hx
  obtain ⟨c, -, rfl⟩ := List.mem_map.mp hlog
  exact Conversion.kind_of_mem_logged x hx

theorem filter_kind {changes : List Change} {k : ChangeKind} (h : ∀ x ∈ changes, x.kind = k) (k' : ChangeKind) :
    changes.filter (·.kind == k') = if k = k' then changes else [] := by
  split
  · rename_i hk
    exact List.filter_eq_self.mpr fun x hx => by simp [h x hx, hk]
  · rename_i hk
    exact List.filter_eq_nil_iff.mpr fun x hx => by simp [h x hx, hk]

variable (s : Settings.Conversion) (text : String) (a : Analysis) (name : String)

theorem filter_changes_made (k : ChangeKind) : (made s text a name).changes.filter (·.kind == k) =
    match k with
    | .conversion => ((made s text a name).conversions.map (·.logged)).flatten
    | .rename => (Rename.apply a.dialect (Conversion.finalText text (made s text a name).conversions)).2 := by
  have hchanges : (made s text a name).changes = ((made s text a name).conversions.map (·.logged)).flatten ++
      (Rename.apply a.dialect (Conversion.finalText text (made s text a name).conversions)).2 := rfl
  rw [hchanges, List.filter_append, filter_kind kind_of_mem_flatten_logged, filter_kind Rename.kind_of_mem_apply]
  cases k
  · exact List.nil_append _
  · exact List.append_nil _

theorem code_made_of_changes_eq_nil (h : (made s text a name).changes = []) : (made s text a name).code = text := by
  obtain ⟨hedits, hrenames⟩ := List.append_eq_nil_iff.mp h
  have hfinal : Conversion.finalText text (Conversion.chain a.dialect a.findings text) = text := by
    refine Conversion.finalText_of_none_logged fun c hc => ?_
    exact List.flatten_eq_nil_iff.mp hedits _ (List.mem_map_of_mem hc)
  exact (Rename.apply_of_not_called (Rename.apply_changes_eq_nil_iff.mp hrenames)).trans hfinal

theorem provenance_made : Provenance text a (made s text a name) where
  findings := Conversion.map_finding_chain a.findings text
  conversions := Conversion.eq_ofFinding_of_mem_chain
  starts := Conversion.before_of_mem_head?_chain
  follows := Conversion.isChain_chain a.findings text
  code := rfl
  changes := by
    rw [filter_changes_made, filter_changes_made]
    rfl
  applied := by
    rw [filter_changes_made, List.length_flatten, List.map_map]
    exact congrArg List.sum (List.map_congr_left fun c _ => Conversion.length_logged c)
  renamed := filter_changes_made s text a name .rename
  skipped := by
    rw [List.sum_eq_foldl, List.foldl_map]
    rfl
  unchanged := code_made_of_changes_eq_nil s text a name

/-- Whatever text an analysis was made of, converting by it never fails, and the file tells where it comes from. -/
theorem exists_provenance (t : Detector) (analysed : String) (d : Dialect) :
    ∃ file, convert s text (t.analyze analysed d) name = .ok file ∧ Provenance text (t.analyze analysed d) file :=
  ⟨_, convert_eq_ok Detector.sightings_ne_nil s text name, provenance_made s text _ name⟩

end ConvertedFile

end ClientMigration
