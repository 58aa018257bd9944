import ClientMigration.Proofs.Conversion.Classification
import ClientMigration.Proofs.Text.Cutting

/-! # What edits take out and put in

An edit cuts the text at its target and puts the replacement between the pieces, as often as it counts the target. An
edit that adds keeps its target, and one that removes puts nothing in its place. So a text only grows under edits that
add, also where a later one finds what an earlier one brought in, and it only shrinks under edits that remove, also where
a later one finds what an earlier one joined. -/

namespace ClientMigration
open Text (Substitution)

namespace Text.Substitution

theorem sublist_apply {σ : Substitution} (h : σ.target.Sublist σ.replacement) (text : List Char) :
    text.Sublist (σ.apply text) := by
  by_cases hi : σ.Idle
  · rw [hi.apply]
  · have hgrown := replaceAll_sublist_replaceAll (target_ne_nil hi) h text
    rwa [replaceAll_self (target_ne_nil hi), ← apply_of_ne_nil (target_ne_nil hi)] at hgrown

theorem apply_sublist {σ : Substitution} (h : σ.replacement.Sublist σ.target) (text : List Char) :
    (σ.apply text).Sublist text := by
  by_cases hi : σ.Idle
  · rw [hi.apply]
  · have hshrunk := replaceAll_sublist_replaceAll (target_ne_nil hi) h text
    rwa [replaceAll_self (target_ne_nil hi), ← apply_of_ne_nil (target_ne_nil hi)] at hshrunk

end Text.Substitution

namespace Edit

/-! ### One edit -/

/-- An edit with a target cuts the text at the first occurrence of the target after each cut, and puts the replacement in
    place of each of them. The count is the number of cuts, and without a cut the text is left as it was. -/
theorem apply_cuts (e : Edit) (text : String) (h : e.target ≠ "") :
    (∃ ps : List (List Char), Text.Cut e.target.toList text.toList ps ∧ ps.length = (e.apply text).2 + 1 ∧
      text.toList = e.target.toList.intercalate ps ∧ (e.apply text).1.toList = e.replacement.toList.intercalate ps) ∧
    ((e.apply text).1.length : Int) =
      text.length + (e.apply text).2 * ((e.replacement.length : Int) - e.target.length) ∧
    ((e.apply text).2 = 0 ↔ ¬e.target.toList <:+: text.toList) ∧
    ((e.apply text).2 = 0 → (e.apply text).1 = text) ∧
    e.replacement = if e.action = .remove then "" else if e.action = .add then e.target ++ e.newCode else e.newCode := by
  have hne := toList_target_ne_nil h
  have hcount : (e.apply text).2 = Text.countOf e.target.toList text.toList := by rw [apply_snd, if_neg h]
  have hafter : (e.apply text).1.toList = Text.replaceAll e.target.toList e.replacement.toList text.toList := by
    rw [apply_fst, if_neg h, Text.replace, String.toList_ofList]
  refine ⟨⟨Text.pieces e.target.toList text.toList, Text.cut_pieces hne _, ?_, ?_, hafter⟩, ?_, ?_,
    apply_of_count_eq_zero, e.replacement_eq⟩
  · rw [hcount, Text.length_pieces]
  · exact (Text.intercalate_pieces hne _).symm
  · have hlength := @Text.length_replaceAll _ e.replacement.toList hne text.toList
    rw [← hafter, ← hcount] at hlength
    simp only [String.length_toList] at hlength
    rw [Int.mul_sub]
    omega
  · rw [hcount, Text.countOf_eq_zero_iff hne]

/-- The target overlaps itself and stands in its own replacement. -/
def overlapping : Edit := ⟨1, .replace, "aa", "baa", "", true⟩

theorem apply_cuts_overlapping : overlapping.target ≠ "" ∧ overlapping.apply "aaa" = ("baaa", 1) ∧
    ∃ ps : List (List Char), Text.Cut "aa".toList "aaa".toList ps ∧ ps.length = 2 ∧
      "aaa".toList = "aa".toList.intercalate ps ∧ "baaa".toList = "baa".toList.intercalate ps := by
  have happly : overlapping.apply "aaa" = ("baaa", 1) := by decide
  have hcuts := apply_cuts overlapping "aaa" (by decide)
  rw [happly] at hcuts
  exact ⟨by decide, happly, hcuts.1⟩

theorem apply_eq_iff {e : Edit} {text : String} :
    (e.apply text).1 = text ↔ (e.FoundIn text → e.replacement = e.target) := by
  rw [← not_iff_not, ← ne_eq, apply_ne_iff, Classical.not_imp]

theorem apply_eq_iff_of_add {e : Edit} (h : e.action = .add) {text : String} :
    (e.apply text).1 = text ↔ (e.FoundIn text → e.newCode = "") := by
  have hsame : e.replacement = e.target ↔ e.newCode = "" := by
    rw [replacement, h, ← String.toList_inj, ← String.toList_inj, String.toList_append]
    exact List.append_right_eq_self
  rw [apply_eq_iff, hsame]

theorem apply_eq_iff_of_remove {e : Edit} (h : e.action = .remove) {text : String} :
    (e.apply text).1 = text ↔ ¬e.FoundIn text := by
  rw [apply_eq_iff, replacement, h]
  refine ⟨fun himp hfound => ?_, fun hnot hfound => absurd hfound hnot⟩
  exact hfound.1 (himp hfound).symm

theorem sublist_apply {e : Edit} (h : e.action = .add) (text : String) :
    text.toList.Sublist (e.apply text).1.toList := by
  rw [toList_apply]
  refine Substitution.sublist_apply ?_ _
  rw [substitution, replacement, h, String.toList_append]
  exact List.sublist_append_left _ _

theorem apply_sublist {e : Edit} (h : e.action = .remove) (text : String) :
    (e.apply text).1.toList.Sublist text.toList := by
  rw [toList_apply]
  refine Substitution.apply_sublist ?_ _
  rw [substitution, replacement, h]
  exact List.nil_sublist _

/-! ### Edits one upon the other -/

/-- A relation between what a text was and what it has become, in which it never comes back. -/
structure OneWay (R : String → String → Prop) : Prop where
  refl : ∀ a, R a a
  trans : ∀ a b c, R a b → R b c → R a c
  antisymm : ∀ a b, R a b → R b a → a = b

theorem oneWay_sublist : OneWay fun a b => a.toList.Sublist b.toList where
  refl a := .refl a.toList
  trans _ _ _ hab hbc := hab.trans hbc
  antisymm _ _ hab hba := String.toList_inj.mp (hab.antisymm hba)

namespace OneWay
variable {R : String → String → Prop}

theorem flip (w : OneWay R) : OneWay fun a b => R b a where
  refl := w.refl
  trans a b c hba hcb := w.trans c b a hcb hba
  antisymm a b hba hab := w.antisymm a b hab hba

theorem carryOutAll (w : OneWay R) : ∀ {es : List Edit} {text : String}, (∀ e ∈ es, ∀ t, R t (e.apply t).1) →
    R text (Edit.carryOutAll es text).1
  | [], text, _ => w.refl text
  | e :: es, text, h => by
    obtain ⟨hfirst, hrest⟩ := List.forall_mem_cons.mp h
    rw [carryOutAll_cons]
    exact w.trans _ _ _ (hfirst text) (w.carryOutAll hrest)

/-- The edits leave a text as it was only if each of them does. -/
theorem carryOutAll_eq_iff (w : OneWay R) : ∀ {es : List Edit} {text : String}, (∀ e ∈ es, ∀ t, R t (e.apply t).1) →
    ((Edit.carryOutAll es text).1 = text ↔ ∀ e ∈ es, (e.apply text).1 = text)
  | [], _, _ => iff_of_true rfl (List.forall_mem_nil _)
  | e :: es, text, h => by
    obtain ⟨hfirst, hrest⟩ := List.forall_mem_cons.mp h
    have ih := @w.carryOutAll_eq_iff es text hrest
    rw [carryOutAll_cons, List.forall_mem_cons]
    constructor
    · intro hback
      -- The edits behind the first lead from what it left back to the text, so it left the text itself.
      have hon : R (e.apply text).1 (Edit.carryOutAll es (e.apply text).1).1 := w.carryOutAll hrest
      rw [hback] at hon
      have hsame : (e.apply text).1 = text := w.antisymm _ _ hon (hfirst text)
      rw [hsame] at hback
      exact ⟨hsame, ih.mp hback⟩
    · rintro ⟨hsame, hall⟩
      rw [hsame]
      exact ih.mpr hall

end OneWay

end Edit

/-! ### Recipes -/

namespace Recipe

theorem oneWay_apply {R : String → String → Prop} (w : Edit.OneWay R) {r : Recipe}
    (h : ∀ e ∈ r.edits, ∀ t, R t (e.apply t).1) (text : String) :
    R text (r.apply text).1 ∧ ((r.apply text).1 = text ↔ ∀ e ∈ r.edits, (e.apply text).1 = text) := by
  have hstep : ∀ e ∈ r.ordered, ∀ t, R t (e.apply t).1 := fun e he => h e (r.ordered_perm.mem_iff.mp he)
  refine ⟨w.carryOutAll hstep, (w.carryOutAll_eq_iff hstep).trans ?_⟩
  exact forall_congr' fun e => imp_congr_left r.ordered_perm.mem_iff

/-- Under a recipe that only adds, all of the text stays, in its order, and something comes in unless no edit finds its
    target with something to add. Under one that only removes, nothing comes in, and something goes unless no edit finds
    its target. -/
theorem apply_grows_or_shrinks (r : Recipe) (text : String) :
    ((∀ e ∈ r.edits, e.action = .add) → text.toList.Sublist (r.apply text).1.toList ∧
      ((r.apply text).1 = text ↔ ∀ e ∈ r.edits, e.FoundIn text → e.newCode = "")) ∧
    ((∀ e ∈ r.edits, e.action = .remove) → (r.apply text).1.toList.Sublist text.toList ∧
      ((r.apply text).1 = text ↔ ∀ e ∈ r.edits, ¬e.FoundIn text)) := by
  constructor
  · intro hadd
    obtain ⟨hgrown, hsame⟩ := oneWay_apply Edit.oneWay_sublist (fun e he => Edit.sublist_apply (hadd e he)) text
    refine ⟨hgrown, hsame.trans ?_⟩
    exact forall₂_congr fun e he => Edit.apply_eq_iff_of_add (hadd e he)
  · intro hremove
    obtain ⟨hshrunk, hsame⟩ :=
      oneWay_apply Edit.oneWay_sublist.flip (fun e he => Edit.apply_sublist (hremove e he)) text
    refine ⟨hshrunk, hsame.trans ?_⟩
    exact forall₂_congr fun e he => Edit.apply_eq_iff_of_remove (hremove e he)

def ofEdits (edits : List Edit) : Recipe := ⟨"edits", "", [], edits, [], []⟩

/-- The first edit brings in what the second looks for. -/
def adding : Recipe := ofEdits [⟨1, .add, "a", "b", "", true⟩, ⟨2, .add, "ab", "!", "", true⟩]

/-- The first edit joins what the second looks for. -/
def removing : Recipe := ofEdits [⟨1, .remove, "ab", "c", "", true⟩, ⟨2, .remove, "ab", "", "", true⟩]

theorem ordered_adding : adding.ordered = adding.edits := List.mergeSort_of_pairwise (by decide)

theorem ordered_removing : removing.ordered = removing.edits := List.mergeSort_of_pairwise (by decide)

theorem apply_grows_or_shrinks_twice :
    (∀ e ∈ adding.edits, e.action = .add) ∧ (adding.apply "a").1 = "ab!" ∧ "a".toList.Sublist "ab!".toList ∧
    (∃ e ∈ adding.edits, e.FoundIn "a" ∧ e.newCode ≠ "") ∧
    (∀ e ∈ removing.edits, e.action = .remove) ∧ (removing.apply "aabbc").1 = "c" ∧
    "c".toList.Sublist "aabbc".toList ∧ ∃ e ∈ removing.edits, e.FoundIn "aabbc" := by
  have hadd : ∀ e ∈ adding.edits, e.action = .add := by decide
  have hremove : ∀ e ∈ removing.edits, e.action = .remove := by decide
  have hadded : (adding.apply "a").1 = "ab!" := by
    rw [apply, ordered_adding]
    decide
  have hremoved : (removing.apply "aabbc").1 = "c" := by
    rw [apply, ordered_removing]
    decide
  obtain ⟨hgrown, hfinds⟩ := (apply_grows_or_shrinks adding "a").1 hadd
  obtain ⟨hshrunk, hfound⟩ := (apply_grows_or_shrinks removing "aabbc").2 hremove
  rw [hadded] at hgrown hfinds
  rw [hremoved] at hshrunk hfound
  refine ⟨hadd, hadded, hgrown, ?_, hremove, hremoved, hshrunk, ?_⟩
  · by_contra hnone
    refine absurd (hfinds.mpr fun e he hf => ?_) (by decide)
    exact not_not.mp fun hnew => hnone ⟨e, he, hf, hnew⟩
  · by_contra hnone
    exact absurd (hfound.mpr fun e he hf => hnone ⟨e, he, hf⟩) (by decide)

end Recipe

end ClientMigration
