import ClientMigration.Proofs.Findings
import ClientMigration.Proofs.StableSort

/-! # The order of findings

Findings come by falling confidence, and equal ones in the order of the catalog. A confidence is always a proper number,
so any two of them compare. A threshold cuts the findings off from some point on: with a higher one they are the first
of those with a lower one. -/

namespace ClientMigration

/-! ### Findings whatever their confidence -/

namespace Finding

theorem isDefined_confidenceOf (s : Settings.Scoring) (keywords snippets : List String) :
    (confidenceOf s keywords snippets).IsDefined := by
  refine Number.isDefined_greatest ?_ _
  obtain ⟨e, he⟩ := @Number.exists_point_of_isZero (.decimal 0 1) rfl
  rw [Number.IsDefined, he]
  exact fun h => Point.noConfusion h

/-- What is found of a signature in a text, whatever its confidence. -/
def candidate? (s : Settings) (source : String) (d : Dialect) (e : Signature) : Option Finding :=
  let sightings := Sighting.inText s.scanner source (e.patternsFor d)
  if sightings.isEmpty then none else some (ofSightings s.scoring e sightings)

/-- What a catalog finds in a text, whatever the confidence, in its order. -/
def candidates (s : Settings) (c : Catalog) (source : String) (d : Dialect) : List Finding :=
  c.entries.filterMap (candidate? s source d)

/-- The first is not below the second in confidence. -/
def notBelow (f g : Finding) : Bool := !f.confidence.less g.confidence

/-- The confidence is not below a threshold. -/
def reaches (m : Number) (f : Finding) : Bool := !f.confidence.less m

section Candidates
variable {s : Settings} {c : Catalog} {source : String} {d : Dialect}

theorem candidate?_eq_some {e : Signature} {f : Finding} (h : candidate? s source d e = some f) :
    f.idiom = e.idiom ∧ f.confidence.IsDefined := by
  rw [candidate?] at h
  split at h
  · cases h
  · cases h
    exact ⟨rfl, isDefined_confidenceOf _ _ _⟩

theorem isDefined_of_mem_candidates {f : Finding} (h : f ∈ candidates s c source d) : f.confidence.IsDefined := by
  obtain ⟨e, -, he⟩ := List.mem_filterMap.mp h
  exact (candidate?_eq_some he).2

theorem idioms_candidates_sublist : ((candidates s c source d).map (·.idiom)).Sublist c.idioms :=
  idioms_filterMap_sublist (fun _ _ h => (candidate?_eq_some h).1) c.entries

theorem ofSignature?_eq_filter (e : Signature) :
    ofSignature? s (Text.lines source) (Enclosing.ofLines (Text.lines source)) d e =
      (candidate? s source d e).filter (reaches s.scoring.threshold) := by
  rw [ofSignature?, candidate?, Sighting.inText]
  dsimp only
  split
  · rfl
  · rw [Option.filter_some, reaches]
    cases (ofSightings s.scoring e _).confidence.less s.scoring.threshold <;> rfl

theorem notBelow_iff {f g : Finding} (hf : f ∈ candidates s c source d) (hg : g ∈ candidates s c source d) :
    f.notBelow g = true ↔ g.confidence.atMost f.confidence = true := by
  rw [notBelow, Bool.not_eq_true',
    Number.less_eq_false_iff (isDefined_of_mem_candidates hf) (isDefined_of_mem_candidates hg)]

theorem notBelow_trans : ∀ f ∈ candidates s c source d, ∀ g ∈ candidates s c source d,
    ∀ h ∈ candidates s c source d, f.notBelow g = true → g.notBelow h = true → f.notBelow h = true := by
  intro f hf g hg h hh hfg hgh
  rw [notBelow_iff hf hg] at hfg
  rw [notBelow_iff hg hh] at hgh
  exact (notBelow_iff hf hh).mpr (Number.atMost_trans hgh hfg)

theorem notBelow_total : ∀ f ∈ candidates s c source d, ∀ g ∈ candidates s c source d,
    (f.notBelow g || g.notBelow f) = true := by
  intro f hf g hg
  rw [Bool.or_eq_true, notBelow_iff hf hg, notBelow_iff hg hf]
  exact Number.atMost_total (isDefined_of_mem_candidates hg) (isDefined_of_mem_candidates hf)

/-- The candidates by falling confidence. -/
def ranked (s : Settings) (c : Catalog) (source : String) (d : Dialect) : List Finding :=
  (candidates s c source d).mergeSort notBelow

/-- The detector ranks all candidates and keeps those that reach the threshold. -/
theorem detect_eq_filter (hne : source ≠ "") :
    detect s c source d = (ranked s c source d).filter (reaches s.scoring.threshold) := by
  rw [detect, if_neg fun hemp => hne (String.isEmpty_iff.mp hemp), ranked,
    filter_mergeSort notBelow_trans notBelow_total, candidates, List.filter_filterMap]
  simp only [ofSignature?_eq_filter]
  rfl

theorem detect_perm_filter (hne : source ≠ "") :
    (detect s c source d).Perm ((candidates s c source d).filter (reaches s.scoring.threshold)) := by
  rw [detect_eq_filter hne]
  exact (List.mergeSort_perm _ _).filter _

/-- The first has the greater confidence, or an equal one and the earlier place in the catalog. -/
def Precedes (c : Catalog) (f g : Finding) : Prop :=
  g.confidence.atMost f.confidence = true ∧
    (f.confidence.atMost g.confidence = true → [f.idiom, g.idiom].Sublist c.idioms)

theorem pairwise_ranked : (ranked s c source d).Pairwise (Precedes c) := by
  refine List.pairwise_iff_forall_sublist.mpr fun {f g} hpair => ?_
  have hf : f ∈ candidates s c source d := List.mem_mergeSort.mp (hpair.subset (by simp))
  have hg : g ∈ candidates s c source d := List.mem_mergeSort.mp (hpair.subset (by simp))
  have hfalling : (ranked s c source d).Pairwise fun x y => x.notBelow y = true :=
    pairwise_mergeSort_of_members notBelow_trans notBelow_total
  refine ⟨(notBelow_iff hf hg).mp (List.pairwise_iff_forall_sublist.mp hfalling hpair), fun hge => ?_⟩
  have hkept := pair_sublist_of_mergeSort notBelow_trans notBelow_total hpair ((notBelow_iff hg hf).mpr hge)
  exact (hkept.map (·.idiom)).trans idioms_candidates_sublist

end Candidates

/-! ### Thresholds -/

theorem reaches_of_atMost_threshold {m₁ m₂ : Number} (h : m₁.atMost m₂ = true) {f : Finding} (hf : f.reaches m₂ = true) :
    f.reaches m₁ = true := by
  rw [reaches, Bool.not_eq_true', ← Bool.not_eq_true] at hf ⊢
  exact fun hless => hf (Number.less_of_less_of_atMost hless h)

theorem reaches_of_precedes {c : Catalog} {f g : Finding} (h : f.Precedes c g) {m : Number} (hg : g.reaches m = true) :
    f.reaches m = true := by
  rw [reaches, Bool.not_eq_true', ← Bool.not_eq_true] at hg ⊢
  exact fun hless => hg (Number.less_of_atMost_of_less h.1 hless)

/-- In a list by falling confidence, those that reach a threshold come first. -/
theorem filter_reaches_isPrefix {c : Catalog} (m : Number) : ∀ {fs : List Finding}, fs.Pairwise (Precedes c) →
    fs.filter (reaches m) <+: fs
  | [], _ => List.prefix_rfl
  | f :: fs, h => by
    rw [List.pairwise_cons] at h
    by_cases hf : f.reaches m = true
    · rw [List.filter_cons_of_pos hf]
      exact (List.prefix_cons_inj f).mpr (filter_reaches_isPrefix m h.2)
    · have hnone : ∀ g ∈ fs, ¬g.reaches m = true := fun g hg hreaches => hf (reaches_of_precedes (h.1 g hg) hreaches)
      rw [List.filter_cons_of_neg hf, List.filter_eq_nil_iff.mpr hnone]
      exact List.nil_prefix

end Finding

/-- The settings with another threshold. -/
def Settings.withThreshold (s : Settings) (m : Number) : Settings :=
  { s with scoring := { s.scoring with threshold := m } }

namespace Finding
variable {s : Settings} {c : Catalog} {source : String} {d : Dialect}

theorem pairwise_detect : (detect s c source d).Pairwise (Precedes c) := by
  by_cases hne : source = ""
  · subst hne
    exact List.Pairwise.nil
  · rw [detect_eq_filter hne]
    exact pairwise_ranked.sublist List.filter_sublist

theorem detect_withThreshold_eq_filter {m₁ m₂ : Number} (h : m₁.atMost m₂ = true) :
    detect (s.withThreshold m₂) c source d = (detect (s.withThreshold m₁) c source d).filter (reaches m₂) := by
  by_cases hne : source = ""
  · subst hne
    rfl
  · have hranked : ∀ m, ranked (s.withThreshold m) c source d = ranked s c source d := fun _ => rfl
    rw [detect_eq_filter hne, detect_eq_filter hne, hranked, hranked, List.filter_filter]
    refine List.filter_congr fun f _ => ?_
    rw [Bool.eq_iff_iff, Bool.and_eq_true]
    exact ⟨fun hf => ⟨hf, reaches_of_atMost_threshold h hf⟩, And.left⟩

theorem detect_withThreshold_isPrefix {m₁ m₂ : Number} (h : m₁.atMost m₂ = true) :
    detect (s.withThreshold m₂) c source d <+: detect (s.withThreshold m₁) c source d := by
  rw [detect_withThreshold_eq_filter h]
  exact filter_reaches_isPrefix m₂ pairwise_detect

end Finding

namespace Detector

theorem make_withThreshold {c : Catalog} {s : Settings} {t : Detector} (h : make c s = .ok t) (m : Number) :
    make c (s.withThreshold m) = .ok { t with settings := s.withThreshold m } := by
  obtain ⟨r, hr, rfl⟩ := make_eq_ok_iff.mp h
  exact make_eq_ok_iff.mpr ⟨r, hr, rfl⟩

/-- Findings are all the candidates that reach the threshold, by falling confidence and equal ones in the order of the
    catalog. A detector with a higher threshold finds the first of what one with a lower threshold finds. -/
theorem detect_ranked {c : Catalog} {s : Settings} {t : Detector} (ht : make c s = .ok t) (source : String) (d : Dialect) :
    (t.detect source d).Pairwise (Finding.Precedes c.orBuiltin) ∧
    (source ≠ "" → (t.detect source d).Perm
      ((Finding.candidates s c.orBuiltin source d).filter (Finding.reaches s.scoring.threshold))) ∧
    ∀ m₁ m₂ : Number, m₁.atMost m₂ = true → ∃ t₁ t₂, make c (s.withThreshold m₁) = .ok t₁ ∧
      make c (s.withThreshold m₂) = .ok t₂ ∧ t₂.detect source d <+: t₁.detect source d ∧
      t₂.detect source d = (t₁.detect source d).filter (Finding.reaches m₂) := by
  rw [detect_of_make ht]
  refine ⟨Finding.pairwise_detect, Finding.detect_perm_filter, fun m₁ m₂ h => ?_⟩
  have ht₁ := make_withThreshold ht m₁
  have ht₂ := make_withThreshold ht m₂
  refine ⟨_, _, ht₁, ht₂, ?_⟩
  rw [detect_of_make ht₁, detect_of_make ht₂]
  exact ⟨Finding.detect_withThreshold_isPrefix h, Finding.detect_withThreshold_eq_filter h⟩

/-- Calls of `run` are found at the default threshold; at one they may be missing, but nothing else comes in. -/
theorem detect_ranked_runCalls : ∃ t t₁ t₂, make ⟨[Sighting.runCalls]⟩ {} = .ok t ∧
    (Number.decimal 0 1).atMost 1 = true ∧
    make ⟨[Sighting.runCalls]⟩ (Settings.withThreshold {} (.decimal 0 1)) = .ok t₁ ∧
    make ⟨[Sighting.runCalls]⟩ (Settings.withThreshold {} 1) = .ok t₂ ∧
    (t.detect "run()" .ioredis).Pairwise (Finding.Precedes ⟨[Sighting.runCalls]⟩) ∧
    (t.detect "run()" .ioredis).Perm ((Finding.candidates {} ⟨[Sighting.runCalls]⟩ "run()" .ioredis).filter
      (Finding.reaches ({} : Settings).scoring.threshold)) ∧
    t₁.detect "run()" .ioredis ≠ [] ∧ t₂.detect "run()" .ioredis <+: t₁.detect "run()" .ioredis := by
  obtain ⟨b, hbuiltin⟩ := exists_make_default
  have ht := make_catalog hbuiltin ⟨[Sighting.runCalls]⟩
  have hle : (Number.decimal 0 1).atMost 1 = true := by
    obtain ⟨e, he⟩ := @Number.exists_point_of_isZero (.decimal 0 1) rfl
    rw [Number.atMost_iff, he]
    exact Or.inl (Point.zero_order_lt_iff.mpr (Or.inr ⟨1, 0, rfl, by decide⟩))
  obtain ⟨hranked, hall, hfirst⟩ := detect_ranked ht "run()" .ioredis
  obtain ⟨t₁, t₂, ht₁, ht₂, h, -⟩ := hfirst (.decimal 0 1) 1 hle
  refine ⟨_, t₁, t₂, ht, hle, ht₁, ht₂, hranked, hall (by decide), ?_, h⟩
  have hcall : ['r', 'u', 'n', '('] <:+: "run()".toList := by
    rw [← Text.occursIn_iff]
    decide
  obtain ⟨f, hf, -⟩ := Finding.exists_detect_of_literal (e := Sighting.runCalls) (d := .ioredis) rfl (by decide) hcall
  rw [detect_of_make ht₁, Catalog.orBuiltin_of_mem List.mem_cons_self]
  exact hf ▸ List.cons_ne_nil f []

end Detector

end ClientMigration
