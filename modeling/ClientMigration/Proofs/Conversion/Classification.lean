import ClientMigration.Proofs.Conversion.Provenance
import ClientMigration.Proofs.StableSort

/-! # What becomes of each edit

A recipe leaves one outcome for each of its edits, by ascending order. Whether the outcome is skipped, applied or
neither is read off the edit and the text that the edits before it left: the target is not found there, it is found
and something else takes its place, or it is found and stands for itself. -/

namespace ClientMigration

/-! ### One edit -/

namespace Edit

/-- The target is not empty and occurs in the text. -/
def FoundIn (e : Edit) (text : String) : Prop := e.target ≠ "" ∧ e.target.toList <:+: text.toList

theorem replacement_eq (e : Edit) : e.replacement =
    if e.action = .remove then "" else if e.action = .add then e.target ++ e.newCode else e.newCode := by
  rw [replacement]
  cases e.action <;> rfl

theorem toList_target_ne_nil {e : Edit} (h : e.target ≠ "") : e.target.toList ≠ [] :=
  fun hnil => h (String.toList_eq_nil_iff.mp hnil)

theorem apply_fst (e : Edit) (text : String) :
    (e.apply text).1 = if e.target = "" then text else Text.replace text e.target e.replacement := by
  rw [← String.toList_inj, toList_apply]
  split
  · rename_i hempty
    have hidle : e.substitution.Idle := Or.inl (String.toList_eq_nil_iff.mpr hempty)
    exact hidle.apply _
  · rename_i hne
    rw [Text.Substitution.apply_of_ne_nil (toList_target_ne_nil hne), Text.replace, String.toList_ofList]
    rfl

theorem apply_snd (e : Edit) (text : String) :
    (e.apply text).2 = if e.target = "" then 0 else Text.countOf e.target.toList text.toList := by
  unfold apply
  simp only [String.isEmpty_iff]
  split
  · rfl
  · split
    · rename_i hcount
      exact hcount.symm
    · rfl

/-- The target is counted exactly if it is found. -/
theorem count_pos_iff {e : Edit} {text : String} : 0 < (e.apply text).2 ↔ e.FoundIn text := by
  rw [apply_snd, FoundIn]
  split
  · rename_i hempty
    exact iff_of_false (Nat.lt_irrefl 0) fun h => h.1 hempty
  · rename_i hne
    rw [Nat.pos_iff_ne_zero, ne_eq, Text.countOf_eq_zero_iff (toList_target_ne_nil hne), not_not, and_iff_right hne]

/-- An edit changes the text exactly if its target is found and something else takes its place. -/
theorem apply_ne_iff {e : Edit} {text : String} :
    (e.apply text).1 ≠ text ↔ e.FoundIn text ∧ e.replacement ≠ e.target := by
  by_cases hfound : e.FoundIn text
  · obtain ⟨hne, ho⟩ := hfound
    have hself := Text.replaceAll_self (toList_target_ne_nil hne) text.toList
    have hinj := @Text.replaceAll_inj _ e.replacement.toList e.target.toList (toList_target_ne_nil hne) _ ho
    rw [hself, String.toList_inj] at hinj
    rw [and_iff_right ⟨hne, ho⟩, apply_fst, if_neg hne, ne_eq, ← String.toList_inj, Text.replace, String.toList_ofList,
      hinj]
  · have hcount : (e.apply text).2 = 0 := by
      rwa [← count_pos_iff, Nat.pos_iff_ne_zero, not_not] at hfound
    exact iff_of_false (fun h => h (apply_of_count_eq_zero hcount)) fun h => hfound h.1

/-- What an edit replaces is every occurrence of its target, unless the target stands for itself. -/
theorem replacements_carryOut (e : Edit) (text : String) :
    (e.carryOut text).2.replacements = if e.replacement = e.target then 0 else (e.apply text).2 := by
  have hcount : (e.carryOut text).2.replacements = if (e.apply text).1 = text then 0 else (e.apply text).2 := rfl
  rw [hcount]
  by_cases hsame : (e.apply text).1 = text
  · rw [if_pos hsame]
    split
    · rfl
    · rename_i hother
      have hnot : ¬e.FoundIn text := fun hfound => apply_ne_iff.mpr ⟨hfound, hother⟩ hsame
      rw [← count_pos_iff, Nat.pos_iff_ne_zero, not_not] at hnot
      exact hnot.symm
  · rw [if_neg hsame, if_neg (apply_ne_iff.mp hsame).2]

end Edit

namespace EditOutcome

/-- The outcome is one of the edit. -/
structure Records (o : EditOutcome) (e : Edit) : Prop where
  order : o.order = e.order
  action : o.action = e.action
  target : o.target = e.target
  newCode : o.newCode = e.newCode
  explanation : o.explanation = e.explanation

/-- What the outcome says of an edit that turned one text into another. -/
structure Classified (o : EditOutcome) (e : Edit) (before after : String) : Prop where
  after_eq : after = if e.target = "" then before else Text.replace before e.target e.replacement
  skipped : o.skipped = true ↔ e.target = "" ∨ ¬e.target.toList <:+: before.toList
  applied : o.applied = true ↔ e.FoundIn before ∧ e.replacement ≠ e.target
  neither : o.skipped = false ∧ o.applied = false ↔ e.FoundIn before ∧ e.replacement = e.target
  not_both : ¬(o.skipped = true ∧ o.applied = true)
  changed : o.applied = true ↔ after ≠ before

end EditOutcome

namespace Edit

theorem records_carryOut (e : Edit) (text : String) : (e.carryOut text).2.Records e := ⟨rfl, rfl, rfl, rfl, rfl⟩

theorem skipped_carryOut_iff {e : Edit} {text : String} :
    (e.carryOut text).2.skipped = true ↔ ¬e.FoundIn text := by
  rw [← count_pos_iff]
  have hfound : (e.carryOut text).2.found = decide (0 < (e.apply text).2) := rfl
  rw [EditOutcome.skipped, hfound, Bool.not_eq_true', decide_eq_false_iff_not]

theorem classified_carryOut (e : Edit) (text : String) :
    (e.carryOut text).2.Classified e text (e.apply text).1 := by
  have hskipped := @skipped_carryOut_iff e text
  have happlied := (@applied_carryOut_iff e text).trans apply_ne_iff
  refine ⟨apply_fst e text, ?_, happlied, ?_, ?_, applied_carryOut_iff⟩
  · rw [hskipped, FoundIn, not_and_or, not_not]
  · rw [← Bool.not_eq_true, ← Bool.not_eq_true, hskipped, happlied, not_not]
    exact and_congr_right fun hfound => by rw [and_iff_right hfound, not_not]
  · rw [hskipped, happlied]
    exact fun h => h.1 h.2.1

/-! ### Edits one upon the other -/

/-- The outcome at a place is that of the edit there, on the text that the edits before it left. -/
theorem getElem?_carryOutAll : ∀ (es : List Edit) (text : String) (i : Nat), (carryOutAll es text).2[i]? =
    es[i]?.map fun e => (e.carryOut (carryOutAll (es.take i) text).1).2
  | [], _, _ => rfl
  | _ :: _, _, 0 => rfl
  | e :: es, text, i + 1 => by
    rw [carryOutAll_cons, List.getElem?_cons_succ, List.getElem?_cons_succ, getElem?_carryOutAll es,
      List.take_succ_cons, carryOutAll_cons]

@[simp] theorem length_carryOutAll : ∀ (es : List Edit) (text : String), (carryOutAll es text).2.length = es.length
  | [], _ => rfl
  | e :: es, text => by simp [length_carryOutAll es]

theorem carryOutAll_take_succ {es : List Edit} {i : Nat} {e : Edit} (h : es[i]? = some e) (text : String) :
    (carryOutAll (es.take (i + 1)) text).1 = (e.apply (carryOutAll (es.take i) text).1).1 := by
  rw [List.take_add_one, h, Option.toList_some, carryOutAll_append]
  rfl

end Edit

/-! ### Recipes -/

namespace Recipe

theorem order_trans (a b c : Edit) (hab : decide (a.order ≤ b.order) = true) (hbc : decide (b.order ≤ c.order) = true) :
    decide (a.order ≤ c.order) = true :=
  decide_eq_true (Int.le_trans (of_decide_eq_true hab) (of_decide_eq_true hbc))

theorem order_total (a b : Edit) : (decide (a.order ≤ b.order) || decide (b.order ≤ a.order)) = true := by
  rw [Bool.or_eq_true, decide_eq_true_iff, decide_eq_true_iff]
  exact Int.le_total _ _

theorem ordered_perm (r : Recipe) : r.ordered.Perm r.edits := List.mergeSort_perm _ _

theorem pairwise_ordered (r : Recipe) : r.ordered.Pairwise fun a b => a.order ≤ b.order :=
  (List.pairwise_mergeSort order_trans order_total r.edits).imp of_decide_eq_true

/-- Edits of one order keep their places among each other. -/
theorem filter_ordered (r : Recipe) (k : Int) :
    r.ordered.filter (·.order = k) = r.edits.filter (·.order = k) := by
  refine filter_mergeSort_of_tied (fun a _ b _ c _ => order_trans a b c) (fun a _ b _ => order_total a b) ?_
  intro a _ b _ ha hb
  have hka := of_decide_eq_true ha
  have hkb := of_decide_eq_true hb
  exact decide_eq_true (Int.le_of_eq (hka.trans hkb.symm))

/-- A recipe leaves one outcome for each edit, by ascending order, and edits of one order in their places. Between the
    text and what the recipe leaves of it stand the texts that the edits leave one after the other, and each outcome is
    skipped, applied or neither according to the edit and the text before it. So a text that was changed has an edit
    that was applied. -/
theorem apply_classified (r : Recipe) (text : String) :
    r.ordered.Perm r.edits ∧ r.ordered.Pairwise (fun a b => a.order ≤ b.order) ∧
    (∀ k, r.ordered.filter (·.order = k) = r.edits.filter (·.order = k)) ∧
    (r.apply text).2.length = r.ordered.length ∧
    (∃ texts : Nat → String, texts 0 = text ∧ texts r.ordered.length = (r.apply text).1 ∧
      ∀ (i : Nat) (e : Edit), r.ordered[i]? = some e → ∃ o : EditOutcome, (r.apply text).2[i]? = some o ∧
        o.Records e ∧ o.Classified e (texts i) (texts (i + 1))) ∧
    (∀ e : Edit, e.replacement =
      if e.action = .remove then "" else if e.action = .add then e.target ++ e.newCode else e.newCode) ∧
    ((r.apply text).1 ≠ text → 1 ≤ countApplied (r.apply text).2) := by
  refine ⟨r.ordered_perm, r.pairwise_ordered, r.filter_ordered, Edit.length_carryOutAll _ _,
    ⟨fun i => (Edit.carryOutAll (r.ordered.take i) text).1, rfl, ?_, fun i e he => ?_⟩, Edit.replacement_eq,
    fun h => ?_⟩
  · exact congrArg (fun es => (Edit.carryOutAll es text).1) List.take_length
  · refine ⟨_, ?_, e.records_carryOut _, Edit.carryOutAll_take_succ he text ▸ e.classified_carryOut _⟩
    rw [apply, Edit.getElem?_carryOutAll, he, Option.map_some]
  · rw [countApplied, Nat.one_le_iff_ne_zero, List.countP_eq_length_filter, ne_eq, List.length_eq_zero_iff]
    exact fun hnone => h (Edit.carryOutAll_of_none_applied hnone)

/-- The first edit brings in what the second looks for, the third finds its target standing for itself, and the fourth
    finds nothing. -/
def threeWays : Recipe where
  name := "three-ways"
  description := ""
  dialects := []
  edits := [⟨1, .replace, "a", "b", "", true⟩, ⟨1, .add, "b", "!", "", true⟩, ⟨2, .modify, "!", "!", "", true⟩,
    ⟨3, .remove, "a", "", "", true⟩]
  risks := []
  validation := []

theorem ordered_threeWays : threeWays.ordered = threeWays.edits := List.mergeSort_of_pairwise (by decide)

theorem apply_classified_threeWays : ∃ added kept gone : EditOutcome,
    (threeWays.apply "a").2[1]? = some added ∧ added.applied = true ∧
    (threeWays.apply "a").2[2]? = some kept ∧ kept.skipped = false ∧ kept.applied = false ∧
    (threeWays.apply "a").2[3]? = some gone ∧ gone.skipped = true ∧
    (threeWays.apply "a").1 = "b!" ∧ 1 ≤ countApplied (threeWays.apply "a").2 := by
  obtain ⟨-, -, -, -, ⟨texts, hfirst, hlast, hclassified⟩, -, hchanged⟩ := apply_classified threeWays "a"
  rw [ordered_threeWays] at hclassified hlast
  obtain ⟨_, -, -, hreplace⟩ := hclassified 0 _ rfl
  obtain ⟨added, hadded, -, hadd⟩ := hclassified 1 _ rfl
  obtain ⟨kept, hkept, -, hkeep⟩ := hclassified 2 _ rfl
  obtain ⟨gone, hgone, -, hgo⟩ := hclassified 3 _ rfl
  have hone : texts 1 = "b" := hreplace.after_eq.trans (by rw [hfirst]; decide)
  have htwo : texts 2 = "b!" := hadd.after_eq.trans (by rw [hone]; decide)
  have hthree : texts 3 = "b!" := hkeep.after_eq.trans (by rw [htwo]; decide)
  have hfinal : (threeWays.apply "a").1 = "b!" := hlast.symm.trans (hgo.after_eq.trans (by rw [hthree]; decide))
  rw [hone] at hadd
  rw [htwo] at hkeep
  rw [hthree] at hgo
  obtain ⟨hskip, happly⟩ := hkeep.neither.mpr (by unfold Edit.FoundIn; decide)
  exact ⟨added, kept, gone, hadded, hadd.applied.mpr (by unfold Edit.FoundIn; decide), hkept, hskip, happly, hgone,
    hgo.skipped.mpr (by decide), hfinal, hchanged (by rw [hfinal]; decide)⟩

end Recipe

end ClientMigration
