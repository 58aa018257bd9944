import ClientMigration.Proofs.Assessment.Coverage
import ClientMigration.Proofs.Catalog.Builtin

/-! # Detection of one idiom

What a catalog finds of an idiom depends on its signature of that idiom alone, and of that only on what it says for
the dialect at hand. The other signatures and the order of registration play no part. -/

namespace ClientMigration

/-! ### Accepted catalogs -/

namespace Catalog

@[simp] theorem entryFailure?_eq_none_iff {seen : List Idiom} {e : Signature} :
    entryFailure? seen e = none ↔ e.idiom ∉ seen ∧ ∀ r ∈ e.recipes, recipeFailure? r = none := by
  rw [entryFailure?]
  by_cases hseen : e.idiom ∈ seen
  · simp [hseen]
  · simp [hseen, List.findSome?_eq_none_iff]

theorem firstFailure?_eq_none_iff : ∀ {es : List Signature} {seen : List Idiom},
    firstFailure? seen es = none ↔ (∀ e ∈ es, e.idiom ∉ seen) ∧ (es.map (·.idiom)).Nodup ∧
      ∀ e ∈ es, ∀ r ∈ e.recipes, recipeFailure? r = none
  | [], _ => by simp [firstFailure?]
  | e :: es, seen => by
    have hcons : firstFailure? seen (e :: es) = none ↔
        entryFailure? seen e = none ∧ firstFailure? (e.idiom :: seen) es = none := by
      rw [firstFailure?]
      cases entryFailure? seen e <;> simp
    rw [hcons, entryFailure?_eq_none_iff, firstFailure?_eq_none_iff, List.forall_mem_cons, List.forall_mem_cons,
      List.map_cons, List.nodup_cons]
    constructor
    · rintro ⟨⟨hseen, hrecipes⟩, hnew, hnodup, hrest⟩
      refine ⟨⟨hseen, fun x hx h => hnew x hx (List.mem_cons_of_mem _ h)⟩, ⟨fun h => ?_, hnodup⟩, hrecipes, hrest⟩
      obtain ⟨x, hx, hidiom⟩ := List.mem_map.mp h
      exact hnew x hx (hidiom ▸ List.mem_cons_self)
    · rintro ⟨⟨hseen, hold⟩, ⟨hnew, hnodup⟩, hrecipes, hrest⟩
      refine ⟨⟨hseen, hrecipes⟩, fun x hx h => ?_, hnodup, hrest⟩
      rcases List.mem_cons.mp h with hidiom | h
      · exact hnew (hidiom ▸ List.mem_map_of_mem hx)
      · exact hold x hx h

/-- A list of signatures is accepted exactly if no idiom comes twice and every recipe lists its edits in order. -/
theorem ofList_eq_ok_iff {es : List Signature} {c : Catalog} :
    ofList es = .ok c ↔ c = ⟨es⟩ ∧ (es.map (·.idiom)).Nodup ∧ ∀ e ∈ es, ∀ r ∈ e.recipes, recipeFailure? r = none := by
  have hnone := @firstFailure?_eq_none_iff es []
  rw [and_iff_right fun _ _ => List.not_mem_nil] at hnone
  rw [← hnone, ofList]
  cases firstFailure? [] es with
  | none => simp [eq_comm]
  | some f => simp

theorem ofList_of_perm {es es' : List Signature} {c : Catalog} (hp : es.Perm es') (h : ofList es = .ok c) :
    ofList es' = .ok ⟨es'⟩ := by
  obtain ⟨-, hnodup, hrecipes⟩ := ofList_eq_ok_iff.mp h
  exact ofList_eq_ok_iff.mpr ⟨rfl, (hp.map _).nodup_iff.mp hnodup, fun e he => hrecipes e (hp.mem_iff.mpr he)⟩

theorem orBuiltin_of_mem {es : List Signature} {e : Signature} (h : e ∈ es) : orBuiltin ⟨es⟩ = ⟨es⟩ := by
  have hne : ¬es.isEmpty = true := fun hemp => List.ne_nil_of_mem h (List.isEmpty_iff.mp hemp)
  exact if_neg hne

theorem orBuiltin_perm {es es' : List Signature} (hp : es.Perm es') :
    (orBuiltin ⟨es⟩).entries.Perm (orBuiltin ⟨es'⟩).entries := by
  cases es with
  | nil =>
    rw [List.nil_perm.mp hp]
  | cons e rest =>
    rw [orBuiltin_of_mem List.mem_cons_self, orBuiltin_of_mem (hp.mem_iff.mp List.mem_cons_self)]
    exact hp

end Catalog

/-! ### Signatures that agree -/

/-- The signatures recognize, rate and convert the same idiom alike in a dialect. What they say of the other dialect
    may differ. -/
structure Signature.AgreesFor (d : Dialect) (e e' : Signature) : Prop where
  idiom : e.idiom = e'.idiom
  patterns : e.patternsFor d = e'.patternsFor d
  keywords : e.keywords = e'.keywords
  rating : e.rating = e'.rating
  requirements : e.requirements = e'.requirements
  recipes : e.recipes = e'.recipes

namespace Finding

theorem ofSightings_congr {d : Dialect} {e e' : Signature} (h : e.AgreesFor d e') (s : Settings.Scoring)
    (sightings : List Sighting) : ofSightings s e sightings = ofSightings s e' sightings := by
  rw [ofSightings, ofSightings, h.idiom, h.keywords, h.rating, h.requirements, h.recipes]

theorem ofSignature?_congr {d : Dialect} {e e' : Signature} (h : e.AgreesFor d e') (s : Settings) (ls : List String)
    (around : List Enclosing) : ofSignature? s ls around d e = ofSignature? s ls around d e' := by
  simp only [ofSignature?, h.patterns, ofSightings_congr h]

/-! ### Findings of one idiom -/

/-- Where no idiom comes twice, what is found of an idiom is found by its signature. -/
theorem filter_idiom_filterMap {find : Signature → Option Finding}
    (hfind : ∀ e f, find e = some f → f.idiom = e.idiom) : ∀ {es : List Signature}, (es.map (·.idiom)).Nodup →
    ∀ e ∈ es, (es.filterMap find).filter (·.idiom == e.idiom) = (find e).toList
  | [], _, _, he => nomatch he
  | x :: es, hnodup, e, he => by
    rw [List.map_cons, List.nodup_cons] at hnodup
    obtain ⟨hnew, hnodup⟩ := hnodup
    rcases List.mem_cons.mp he with rfl | he
    · -- Nothing that the rest finds is of this idiom.
      have hrest : (es.filterMap find).filter (·.idiom == e.idiom) = [] := by
        refine List.filter_eq_nil_iff.mpr fun f hf hidiom => hnew ?_
        rw [← beq_iff_eq.mp hidiom]
        exact (idioms_filterMap_sublist hfind es).subset (List.mem_map_of_mem hf)
      cases hx : find e with
      | none => rw [List.filterMap_cons_none hx, hrest, Option.toList_none]
      | some f =>
        have hsame : (f.idiom == e.idiom) = true := beq_iff_eq.mpr (hfind e f hx)
        rw [List.filterMap_cons_some hx, List.filter_cons, if_pos hsame, hrest, Option.toList_some]
    · have hne : x.idiom ≠ e.idiom := fun h => hnew (h ▸ List.mem_map_of_mem he)
      have ih := filter_idiom_filterMap hfind hnodup e he
      cases hx : find x with
      | none => rw [List.filterMap_cons_none hx, ih]
      | some f =>
        have hother : ¬(f.idiom == e.idiom) = true := fun h => hne ((hfind x f hx).symm.trans (beq_iff_eq.mp h))
        rw [List.filterMap_cons_some hx, List.filter_cons, if_neg hother, ih]

theorem filter_idiom_detect {s : Settings} {c : Catalog} {source : String} {d : Dialect} (hnodup : c.idioms.Nodup)
    {e : Signature} (he : e ∈ c.entries) (hne : source ≠ "") :
    (detect s c source d).filter (·.idiom == e.idiom) =
      (ofSignature? s (Text.lines source) (Enclosing.ofLines (Text.lines source)) d e).toList := by
  rw [detect, if_neg fun hemp => hne (String.isEmpty_iff.mp hemp)]
  have hperm := (List.mergeSort_perm (c.entries.filterMap
    (ofSignature? s (Text.lines source) (Enclosing.ofLines (Text.lines source)) d))
    fun a b => !a.confidence.less b.confidence).filter (·.idiom == e.idiom)
  rw [filter_idiom_filterMap (fun _ _ => idiom_of_ofSignature?) hnodup e he] at hperm
  -- Sorting cannot reorder what is at most one finding.
  cases hfound : ofSignature? s (Text.lines source) (Enclosing.ofLines (Text.lines source)) d e with
  | none =>
    rw [hfound] at hperm
    exact List.perm_nil.mp hperm
  | some f =>
    rw [hfound] at hperm
    exact List.perm_singleton.mp hperm

theorem detect_perm {s : Settings} {c c' : Catalog} (hp : c.entries.Perm c'.entries) (source : String) (d : Dialect) :
    (detect s c source d).Perm (detect s c' source d) := by
  rw [detect, detect]
  split
  · exact List.Perm.refl _
  · exact (List.mergeSort_perm _ _).trans ((hp.filterMap _).trans (List.mergeSort_perm _ _).symm)

end Finding

/-! ### Detectors -/

namespace Detector

theorem detect_of_make {c : Catalog} {s : Settings} {t : Detector} (h : make c s = .ok t) (source : String) (d : Dialect) :
    t.detect source d = Finding.detect s c.orBuiltin source d := by
  obtain ⟨hcatalog, hsettings⟩ := make_eq_ok h
  rw [detect, hcatalog, hsettings]

theorem relevantLines_of_perm {t t' : Detector} {source : String} {d : Dialect} (hrelevance : t'.relevance = t.relevance)
    (hp : (t.detect source d).Perm (t'.detect source d)) :
    (t.analyze source d).complexity.relevantLines = (t'.analyze source d).complexity.relevantLines := by
  rw [analyze, analyze]
  split
  · rfl
  · rw [hrelevance]
    exact congrArg Int.ofNat (Complexity.countRelevant_congr (fun _ => hp.mem_iff) t.relevance _)

/-- Of an idiom whose signatures in two catalogs agree for the dialect, both find the same; and a catalog in another
    order is accepted, finds the same in another order, and leaves as many lines relevant. -/
theorem detect_independent {s : Settings} {es : List Signature} {c : Catalog} {t : Detector}
    (hc : Catalog.ofList es = .ok c) (ht : make c s = .ok t) (source : String) (d : Dialect) :
    (∀ es' c' t', Catalog.ofList es' = .ok c' → make c' s = .ok t' →
      ∀ e ∈ es, ∀ e' ∈ es', e.AgreesFor d e' →
        (t.detect source d).filter (·.idiom == e.idiom) = (t'.detect source d).filter (·.idiom == e.idiom)) ∧
    (∀ es', es.Perm es' → ∃ c' t', Catalog.ofList es' = .ok c' ∧ make c' s = .ok t' ∧
      (t.detect source d).Perm (t'.detect source d) ∧
      (t.analyze source d).complexity.relevantLines = (t'.analyze source d).complexity.relevantLines) := by
  obtain ⟨rfl, hnodup, -⟩ := Catalog.ofList_eq_ok_iff.mp hc
  constructor
  · intro es' c' t' hc' ht' e he e' he' hagrees
    obtain ⟨rfl, hnodup', -⟩ := Catalog.ofList_eq_ok_iff.mp hc'
    rw [detect_of_make ht, detect_of_make ht', Catalog.orBuiltin_of_mem he, Catalog.orBuiltin_of_mem he']
    by_cases hne : source = ""
    · subst hne
      rfl
    · rw [Finding.filter_idiom_detect hnodup he hne, hagrees.idiom, Finding.filter_idiom_detect hnodup' he' hne,
        Finding.ofSignature?_congr hagrees]
  · intro es' hp
    have ht' := make_catalog ht ⟨es'⟩
    have hdetect : (t.detect source d).Perm (detect { t with catalog := Catalog.orBuiltin ⟨es'⟩ } source d) := by
      rw [detect_of_make ht, detect_of_make ht']
      exact Finding.detect_perm (Catalog.orBuiltin_perm hp) source d
    refine ⟨_, _, Catalog.ofList_of_perm hp hc, ht', hdetect, ?_⟩
    exact relevantLines_of_perm rfl hdetect

/-- The built-in signature of pipelines without its patterns for node-redis. -/
def pipelineOfIoredis : Signature :=
  { Catalog.pipeline with patterns := [(.ioredis, Catalog.pipeline.patternsFor .ioredis)] }

theorem detect_independent_pipeline : ∃ t t', make .builtin {} = .ok t ∧ make ⟨[pipelineOfIoredis]⟩ {} = .ok t' ∧
    (t.detect "redis.pipeline()" .ioredis).filter (·.idiom == .pipeline) =
      (t'.detect "redis.pipeline()" .ioredis).filter (·.idiom == .pipeline) ∧
    (t.detect "redis.pipeline()" .ioredis).filter (·.idiom == .pipeline) ≠ [] ∧
    ∃ c t', Catalog.ofList Catalog.builtinEntries.reverse = .ok c ∧ make c {} = .ok t' ∧
      (t.detect "redis.pipeline()" .ioredis).Perm (t'.detect "redis.pipeline()" .ioredis) ∧
      (t.analyze "redis.pipeline()" .ioredis).complexity.relevantLines =
        (t'.analyze "redis.pipeline()" .ioredis).complexity.relevantLines := by
  obtain ⟨t, hmake⟩ := exists_make_default
  have haccepted : Catalog.ofList Catalog.builtinEntries = .ok .builtin := rfl
  have halone := make_catalog hmake ⟨[pipelineOfIoredis]⟩
  obtain ⟨hsame, hperm⟩ := detect_independent haccepted hmake "redis.pipeline()" .ioredis
  have hfound : .pipeline ∈ (t.detect "redis.pipeline()" .ioredis).map (·.idiom) := by
    have hzero : ({} : Settings).scoring.threshold.isZero = true := by decide
    have htext : ∃ text ∈ Catalog.builtinTexts .ioredis .pipeline, text <:+: "redis.pipeline()".toList := by
      simp only [← Text.occursIn_iff, Catalog.builtinTexts_spelled]
      decide
    rw [detect_of_make hmake]
    exact (Finding.mem_idioms_detect_iff hzero).mpr htext
  refine ⟨t, _, hmake, halone, ?_, ?_, hperm _ (List.reverse_perm _).symm⟩
  · have hagrees : Catalog.pipeline.AgreesFor .ioredis pipelineOfIoredis := ⟨rfl, rfl, rfl, rfl, rfl, rfl⟩
    exact hsame [pipelineOfIoredis] _ _ rfl halone Catalog.pipeline (Catalog.builtinOf_mem .pipeline) pipelineOfIoredis
      List.mem_cons_self hagrees
  · obtain ⟨f, hf, hidiom⟩ := List.mem_map.mp hfound
    exact List.ne_nil_of_mem (List.mem_filter.mpr ⟨hf, beq_iff_eq.mpr hidiom⟩)

end Detector

end ClientMigration
