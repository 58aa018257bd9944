import ClientMigration.Proofs.Catalog.Builtin
import ClientMigration.Proofs.Scanning

/-! # Findings

A detector finds each idiom at most once, and exactly those that a line of the text matches and whose score reaches the
threshold. A finding lists what a scan sights of its idiom, which is never nothing, so an analysis converts any text, also
one that it was not made of. What is found is registered, unless the catalog is empty and the built-in one stands in for
it. -/

namespace ClientMigration

namespace Signature

/-- A line of the text matches one of the patterns of the signature for the dialect. -/
def MatchesIn (e : Signature) (d : Dialect) (source : String) : Prop :=
  ∃ l ∈ Text.lines source, ∃ p ∈ e.patternsFor d, p.matches? l = true

/-- The confidence that the sightings in a text give the idiom of the signature. -/
def score (e : Signature) (s : Settings) (d : Dialect) (source : String) : Number :=
  Finding.confidenceOf s.scoring e.keywords ((Sighting.inText s.scanner source (e.patternsFor d)).map (·.code))

theorem score_not_less_of_isZero {s : Settings} (h : s.scoring.threshold.isZero = true) (e : Signature) (d : Dialect)
    (source : String) : (e.score s d source).less s.scoring.threshold = false :=
  Finding.ofSightings_not_less_of_isZero h e _

/-- An empty text is matched by no built-in pattern. -/
theorem not_matchesIn_empty {e : Signature} (he : e ∈ Catalog.builtinEntries) (d : Dialect) : ¬e.MatchesIn d "" := by
  intro h
  have hline : ∃ l ∈ Text.lines "", Sighting.onLine (e.patternsFor d) l = true := by
    simpa only [MatchesIn, Sighting.onLine, List.any_eq_true] using h
  have hpatterns : e.patternsFor d = (Catalog.builtinTexts d e.idiom).map fun t => .literal (String.ofList t) :=
    (congrArg (·.patternsFor d) (Catalog.eq_builtinOf_of_mem he)).trans (Catalog.patternsFor_builtinOf d e.idiom)
  have htexts := Catalog.builtinTexts_onOneLine d e.idiom
  obtain ⟨t, ht, ho⟩ := (Sighting.exists_onLine_iff hpatterns fun t ht => (htexts t ht).2).mp hline
  exact (htexts t ht).1 (List.infix_nil.mp ho)

end Signature

namespace Finding

/-- The finding lists what a scan sights of the idiom, and has the rest from the signature. -/
structure IsOf (f : Finding) (e : Signature) (s : Settings) (c : Catalog) (source : String) (d : Dialect) : Prop where
  idiom : f.idiom = e.idiom
  sighted : f.sightings ≠ []
  sightings : f.sightings = Sighting.listed (Sighting.scan s.scanner c source d) e.idiom
  confidence : f.confidence = e.score s d source
  rating : f.rating = e.rating
  requirements : f.requirements = e.requirements
  recipes : f.recipes = e.recipes

section Detect
variable {s : Settings} {c : Catalog} {source : String} {d : Dialect}

theorem mem_detect_iff_matchesIn {f : Finding} (hne : source ≠ "") : f ∈ detect s c source d ↔
    ∃ e ∈ c.entries, e.MatchesIn d source ∧ (e.score s d source).less s.scoring.threshold = false ∧
      f = ofSightings s.scoring e (Sighting.inText s.scanner source (e.patternsFor d)) := by
  rw [mem_detect_iff, and_iff_right hne]
  refine exists_congr fun e => and_congr_right fun _ => ?_
  rw [ofSignature?_eq_some_iff, Signature.MatchesIn, ← Sighting.inText_ne_nil_iff, and_comm (b := f = _)]
  refine and_congr_right fun _ => and_congr_right fun hf => ?_
  rw [hf]
  rfl

theorem mem_idioms_detect_iff_matchesIn (hne : source ≠ "") {i : Idiom} : i ∈ (detect s c source d).map (·.idiom) ↔
    ∃ e ∈ c.entries, e.idiom = i ∧ e.MatchesIn d source ∧ (e.score s d source).less s.scoring.threshold = false := by
  rw [List.mem_map]
  constructor
  · rintro ⟨f, hf, rfl⟩
    obtain ⟨e, he, hmatch, hscore, rfl⟩ := (mem_detect_iff_matchesIn hne).mp hf
    exact ⟨e, he, rfl, hmatch, hscore⟩
  · rintro ⟨e, he, rfl, hmatch, hscore⟩
    exact ⟨_, (mem_detect_iff_matchesIn hne).mpr ⟨e, he, hmatch, hscore, rfl⟩, rfl⟩

theorem exists_isOf (hnodup : c.idioms.Nodup) (hne : source ≠ "") {f : Finding} (hf : f ∈ detect s c source d) :
    ∃ e ∈ c.entries, f.IsOf e s c source d := by
  obtain ⟨e, he, hmatch, -, rfl⟩ := (mem_detect_iff_matchesIn hne).mp hf
  have hsighted : Sighting.inText s.scanner source (e.patternsFor d) ≠ [] := Sighting.inText_ne_nil_iff.mpr hmatch
  have hlisted : Sighting.listed (Sighting.scan s.scanner c source d) e.idiom =
      Sighting.inText s.scanner source (e.patternsFor d) :=
    Sighting.listed_of_mem ((Sighting.idioms_scan_sublist s.scanner c source d).nodup hnodup)
      ((Sighting.mem_scan_iff hne).mpr ⟨hsighted, e, he, rfl, rfl⟩)
  exact ⟨e, he, rfl, hsighted, hlisted.symm, rfl, rfl, rfl, rfl⟩

end Detect

open Catalog in
theorem detect_builtin_eq_nil_iff {s : Settings} {source : String} {d : Dialect} : detect s builtin source d = [] ↔
    ∀ e ∈ builtinEntries, e.MatchesIn d source → (e.score s d source).less s.scoring.threshold = true := by
  by_cases hne : source = ""
  · subst hne
    exact iff_of_true rfl fun e he h => absurd h (Signature.not_matchesIn_empty he d)
  · rw [List.eq_nil_iff_forall_not_mem]
    simp only [mem_detect_iff_matchesIn hne, not_exists, not_and]
    constructor
    · intro h e he hmatch
      exact Bool.not_eq_false _ ▸ fun hscore => h _ e he hmatch hscore rfl
    · intro h f e he hmatch hscore
      rw [h e he hmatch] at hscore
      cases hscore

end Finding

namespace Detector

/-- What a detector of an accepted catalog finds, and that its analysis can convert whatever text. -/
theorem detect_exact {es : List Signature} {c : Catalog} (hc : Catalog.ofList es = .ok c) (hes : es ≠ [])
    {s : Settings} {t : Detector} (ht : make c s = .ok t) {source : String} (hne : source ≠ "") (d : Dialect) :
    ((t.detect source d).map (·.idiom)).Nodup ∧
    (∀ i, i ∈ (t.detect source d).map (·.idiom) ↔ ∃ e ∈ es, e.idiom = i ∧
      e.MatchesIn d source ∧ (e.score s d source).less s.scoring.threshold = false) ∧
    (∀ f ∈ t.detect source d, ∃ e ∈ es, f.IsOf e s c source d) ∧
    (t.analyze source d).findings = t.detect source d ∧
    ∀ (s' : Settings.Conversion) (text name : String), ∃ file,
      ConvertedFile.convert s' text (t.analyze source d) name = .ok file := by
  obtain ⟨rfl, hnodup, -⟩ := Catalog.ofList_eq_ok_iff.mp hc
  obtain ⟨e, he⟩ := List.exists_mem_of_ne_nil es hes
  have hdetect : t.detect source d = Finding.detect s ⟨es⟩ source d := by
    rw [detect_of_make ht, Catalog.orBuiltin_of_mem he]
  refine ⟨?_, fun i => ?_, fun f hf => ?_, findings_analyze t source d, fun s' text name => ?_⟩
  · rw [hdetect]
    exact Finding.idioms_detect_nodup hnodup
  · rw [hdetect]
    exact Finding.mem_idioms_detect_iff_matchesIn hne
  · rw [hdetect] at hf
    exact Finding.exists_isOf hnodup hne hf
  · exact ⟨_, ConvertedFile.convert_eq_ok sightings_ne_nil s' text name⟩

/-- Calls of `run` are found in the dialect that has a pattern for them, and the analysis converts a text without any. -/
theorem detect_exact_runCalls : ∃ t, make ⟨[Sighting.runCalls]⟩ {} = .ok t ∧
    Catalog.ofList [Sighting.runCalls] = .ok ⟨[Sighting.runCalls]⟩ ∧ [Sighting.runCalls] ≠ [] ∧ "a\nrun()" ≠ "" ∧
    .pipeline ∈ (t.detect "a\nrun()" .ioredis).map (·.idiom) ∧
    .pipeline ∉ (t.detect "a\nrun()" .nodeRedis).map (·.idiom) ∧
    ∃ file, ConvertedFile.convert {} "b.exec()" (t.analyze "a\nrun()" .ioredis) "b.ts" = .ok file := by
  obtain ⟨b, hbuiltin⟩ := exists_make_default
  have ht := make_catalog hbuiltin ⟨[Sighting.runCalls]⟩
  have haccepted : Catalog.ofList [Sighting.runCalls] = .ok ⟨[Sighting.runCalls]⟩ := rfl
  have hsome : [Sighting.runCalls] ≠ [] := List.cons_ne_nil _ _
  have hne : "a\nrun()" ≠ "" := by decide
  have hmatch : Sighting.runCalls.MatchesIn .ioredis "a\nrun()" :=
    ⟨"run()", by decide, .literal "run(", List.mem_singleton_self _, by decide⟩
  have hscore : (Sighting.runCalls.score {} .ioredis "a\nrun()").less ({} : Settings).scoring.threshold = false :=
    Signature.score_not_less_of_isZero rfl Sighting.runCalls .ioredis "a\nrun()"
  obtain ⟨-, hfound, -, -, hconvert⟩ := detect_exact haccepted hsome ht hne .ioredis
  obtain ⟨-, hnotFound, -⟩ := detect_exact haccepted hsome ht hne .nodeRedis
  refine ⟨_, ht, haccepted, hsome, hne, ?_, fun h => ?_, hconvert {} "b.exec()" "b.ts"⟩
  · exact (hfound .pipeline).mpr ⟨_, List.mem_singleton_self _, rfl, hmatch, hscore⟩
  · obtain ⟨e, he, -, ⟨l, -, p, hp, -⟩, -⟩ := (hnotFound .pipeline).mp h
    rw [List.mem_singleton.mp he] at hp
    exact List.not_mem_nil hp

/-! ### Registered idioms -/

open Catalog (builtin builtinEntries orBuiltin idioms)

/-- What a detector finds is registered in the catalog it is made of, unless that is empty: the built-in catalog then
    stands in for it, and whatever that finds is not registered. -/
theorem registered_iff {es : List Signature} {c : Catalog} (hc : Catalog.ofList es = .ok c) {s : Settings} {t : Detector}
    (ht : make c s = .ok t) (source : String) (d : Dialect) :
    (t.analyze source d).findings = t.detect source d ∧
    ((∀ f ∈ t.detect source d, f.idiom ∈ c.idioms) ↔ es ≠ [] ∨
      ∀ e ∈ builtinEntries, e.MatchesIn d source → (e.score s d source).less s.scoring.threshold = true) ∧
    (es = [] → make .builtin s = .ok t) := by
  obtain ⟨rfl, -, -⟩ := Catalog.ofList_eq_ok_iff.mp hc
  refine ⟨findings_analyze t source d, ?_, ?_⟩
  · rw [detect_of_make ht]
    cases es with
    | nil =>
      have hnil : orBuiltin ⟨[]⟩ = builtin := rfl
      rw [hnil, ← Finding.detect_builtin_eq_nil_iff, List.eq_nil_iff_forall_not_mem]
      simp [idioms]
    | cons e rest =>
      rw [Catalog.orBuiltin_of_mem List.mem_cons_self]
      refine iff_of_true (fun f hf => ?_) (Or.inl (List.cons_ne_nil _ _))
      obtain ⟨-, e', he', hidiom, -⟩ := Finding.exists_entry_of_mem_detect hf
      exact List.mem_map.mpr ⟨e', he', hidiom.symm⟩
  · rintro rfl
    exact ht

/-- Pipelines are all that is registered, and all that is found. -/
theorem registered_runCalls : ∃ t, Catalog.ofList [Sighting.runCalls] = .ok ⟨[Sighting.runCalls]⟩ ∧
    make ⟨[Sighting.runCalls]⟩ {} = .ok t ∧
    (∃ f ∈ t.detect "redis.multi()\nrun()" .ioredis, f.idiom = .pipeline) ∧
    ∀ f ∈ t.detect "redis.multi()\nrun()" .ioredis, f.idiom ∈ [.pipeline] := by
  obtain ⟨b, hbuiltin⟩ := exists_make_default
  have ht := make_catalog hbuiltin ⟨[Sighting.runCalls]⟩
  have haccepted : Catalog.ofList [Sighting.runCalls] = .ok ⟨[Sighting.runCalls]⟩ := rfl
  obtain ⟨-, hregistered, -⟩ := registered_iff haccepted ht "redis.multi()\nrun()" .ioredis
  have hall := hregistered.mpr (Or.inl (List.cons_ne_nil _ _))
  have hcall : ['r', 'u', 'n', '('] <:+: "redis.multi()\nrun()".toList := by
    rw [← Text.occursIn_iff]
    decide
  obtain ⟨f, hf, -⟩ := Finding.exists_detect_of_literal (e := Sighting.runCalls) (d := .ioredis) rfl (by decide) hcall
  have hmem : f ∈ Finding.detect {} ⟨[Sighting.runCalls]⟩ "redis.multi()\nrun()" .ioredis := hf ▸ List.mem_singleton_self f
  rw [← Catalog.orBuiltin_of_mem List.mem_cons_self, ← detect_of_make ht] at hmem
  exact ⟨_, haccepted, ht, ⟨f, hmem, List.mem_singleton.mp (hall f hmem)⟩, hall⟩

/-- An empty catalog is accepted and registers nothing, yet pipelines are found. -/
theorem unregistered_pipeline : ∃ t, Catalog.ofList [] = .ok ⟨[]⟩ ∧ make ⟨[]⟩ {} = .ok t ∧
    ∃ f ∈ t.detect "redis.pipeline()" .ioredis, f.idiom = .pipeline ∧ f.idiom ∉ idioms ⟨[]⟩ := by
  obtain ⟨t, ht⟩ := exists_make_default
  have hzero : ({} : Settings).scoring.threshold.isZero = true := by decide
  have htext : ∃ text ∈ Catalog.builtinTexts .ioredis .pipeline, text <:+: "redis.pipeline()".toList := by
    simp only [← Text.occursIn_iff, Catalog.builtinTexts_spelled]
    decide
  have hfound : .pipeline ∈ (t.detect "redis.pipeline()" .ioredis).map (·.idiom) := by
    rw [detect_of_make ht]
    exact (Finding.mem_idioms_detect_iff hzero).mpr htext
  obtain ⟨f, hf, hidiom⟩ := List.mem_map.mp hfound
  exact ⟨t, rfl, ht, f, hf, hidiom, List.not_mem_nil⟩

end Detector

end ClientMigration
