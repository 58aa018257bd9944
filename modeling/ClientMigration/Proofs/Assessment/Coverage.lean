import ClientMigration.Assessment.Complexity
import Mathlib.Data.List.Perm.Subperm

/-! # Covered lines

A line is relevant if it matches the relevance pattern or lies in the window of a sighting. A line counts once however
many windows overlap on it, and windows may reach beyond the text. So the order and repetition of findings play no
part, and more findings never make the count smaller. -/

namespace ClientMigration

/-- The line lies in the window of the sighting. -/
def Sighting.Spans (x : Sighting) (i : Nat) : Prop := x.first ≤ i ∧ i ≤ x.last

namespace Complexity

/-- The line exists, and it matches the pattern or lies in the window of a sighting. -/
def RelevantAt (relevance : Regex) (ls : List String) (fs : List Finding) (i : Nat) : Prop :=
  ∃ l, ls[i]? = some l ∧ (relevance.matches? l.toList = true ∨ ∃ f ∈ fs, ∃ x ∈ f.sightings, x.Spans i)

/-- The lines that are counted, from the first to the last. -/
def relevantPlaces (relevance : Regex) (ls : List String) (fs : List Finding) : List Nat :=
  (ls.zipIdx.filter fun (l, i) => covered fs i || relevance.matches? l.toList).map Prod.snd

variable {relevance : Regex} {ls : List String} {fs gs : List Finding}

theorem covered_iff {i : Nat} : covered fs i = true ↔ ∃ f ∈ fs, ∃ x ∈ f.sightings, x.Spans i := by
  simp only [covered, List.any_eq_true, Bool.and_eq_true, decide_eq_true_iff, Sighting.Spans]

theorem RelevantAt.mono (h : fs ⊆ gs) {i : Nat} (hi : RelevantAt relevance ls fs i) : RelevantAt relevance ls gs i := by
  obtain ⟨l, hl, hmatch | ⟨f, hf, hspans⟩⟩ := hi
  · exact ⟨l, hl, Or.inl hmatch⟩
  · exact ⟨l, hl, Or.inr ⟨f, h hf, hspans⟩⟩

theorem mem_relevantPlaces_iff {i : Nat} : i ∈ relevantPlaces relevance ls fs ↔ RelevantAt relevance ls fs i := by
  rw [relevantPlaces, List.mem_map]
  constructor
  · rintro ⟨⟨l, i⟩, hmem, rfl⟩
    obtain ⟨hline, hcounted⟩ := List.mem_filter.mp hmem
    rw [Bool.or_eq_true, covered_iff] at hcounted
    exact ⟨l, List.mk_mem_zipIdx_iff_getElem?.mp hline, hcounted.symm⟩
  · rintro ⟨l, hline, hrelevant⟩
    refine ⟨(l, i), List.mem_filter.mpr ⟨List.mk_mem_zipIdx_iff_getElem?.mpr hline, ?_⟩, rfl⟩
    rw [Bool.or_eq_true, covered_iff]
    exact hrelevant.symm

theorem nodup_relevantPlaces (relevance : Regex) (ls : List String) (fs : List Finding) :
    (relevantPlaces relevance ls fs).Nodup := by
  refine (List.filter_sublist.map Prod.snd).nodup ?_
  rw [List.zipIdx_map_snd]
  exact List.nodup_range'

theorem countRelevant_eq_length (relevance : Regex) (ls : List String) (fs : List Finding) :
    countRelevant relevance ls fs = (relevantPlaces relevance ls fs).length := by
  rw [countRelevant, relevantPlaces, List.length_map, List.countP_eq_length_filter]

/-- So many different lines are counted as are known to be relevant. -/
theorem length_le_countRelevant {places : List Nat} (hnodup : places.Nodup)
    (h : ∀ i ∈ places, RelevantAt relevance ls fs i) : places.length ≤ countRelevant relevance ls fs := by
  rw [countRelevant_eq_length]
  exact (List.subperm_of_subset hnodup fun i hi => mem_relevantPlaces_iff.mpr (h i hi)).length_le

theorem countRelevant_le_length (relevance : Regex) (ls : List String) (fs : List Finding) :
    countRelevant relevance ls fs ≤ ls.length := by
  have hle := List.countP_le_length (l := ls.zipIdx) (p := fun (l, i) => covered fs i || relevance.matches? l.toList)
  rwa [List.length_zipIdx] at hle

theorem countRelevant_mono (h : fs ⊆ gs) (relevance : Regex) (ls : List String) :
    countRelevant relevance ls fs ≤ countRelevant relevance ls gs := by
  rw [countRelevant_eq_length]
  refine length_le_countRelevant (nodup_relevantPlaces relevance ls fs) fun i hi => ?_
  exact (mem_relevantPlaces_iff.mp hi).mono h

theorem countRelevant_congr (h : ∀ f, f ∈ fs ↔ f ∈ gs) (relevance : Regex) (ls : List String) :
    countRelevant relevance ls fs = countRelevant relevance ls gs :=
  Nat.le_antisymm (countRelevant_mono (fun f => (h f).mp) relevance ls)
    (countRelevant_mono (fun f => (h f).mpr) relevance ls)

end Complexity

end ClientMigration
