import ClientMigration.Analysis
import ClientMigration.Proofs.Number.Order
import ClientMigration.Proofs.Regex.Literal
import ClientMigration.Proofs.Text.Lines

/-! # What is detected

An idiom is found in a text exactly if one of its patterns matches on a line and its confidence reaches the
threshold. A finding keeps the recipes of its signature, has a sighting, and no idiom of a catalog without
repetitions is found twice. -/

namespace ClientMigration

/-! ### Sightings -/

theorem Enclosing.length_along : ∀ (e : Enclosing) (ls : List (List Char)), (e.along ls).length = ls.length
  | _, [] => rfl
  | e, l :: ls => by rw [along, List.length_cons, List.length_cons, length_along]

theorem Enclosing.length_ofLines (ls : List String) : (Enclosing.ofLines ls).length = ls.length := by
  rw [ofLines, length_along, List.length_map]

theorem Sighting.ofPatterns_ne_nil_iff {s : Settings.Scanner} {ls : List String} {around : List Enclosing}
    (h : around.length = ls.length) {ps : List Pattern} :
    Sighting.ofPatterns s ls around ps ≠ [] ↔ ∃ l ∈ ls, Sighting.onLine ps l = true := by
  rw [Sighting.ofPatterns, ne_eq, List.map_eq_nil_iff, List.filter_eq_nil_iff]
  constructor
  · intro hsome
    refine Classical.byContradiction fun hnone => hsome ?_
    rintro ⟨⟨l, e⟩, i⟩ hmem hl
    have hzip : (l, e) ∈ ls.zip around := List.fst_mem_of_mem_zipIdx hmem
    exact hnone ⟨l, (List.of_mem_zip hzip).1, hl⟩
  · rintro ⟨l, hl, hmatch⟩ hnone
    obtain ⟨i, hi, rfl⟩ := List.mem_iff_getElem.mp hl
    have hzip : (ls.zip around)[i]? = some (ls[i], around[i]) := by
      rw [List.getElem?_eq_getElem (by rw [List.length_zip]; omega), List.getElem_zip]
    exact hnone ((ls[i], around[i]), i) (List.mk_mem_zipIdx_iff_getElem?.mpr hzip) hmatch

/-- Patterns of literal texts, each on one line, match on some line exactly if one of the texts occurs. -/
theorem Sighting.exists_onLine_iff {ts : List (List Char)} {ps : List Pattern}
    (hps : ps = ts.map fun t => .literal (String.ofList t)) (hts : ∀ t ∈ ts, '\n' ∉ t) {source : String} :
    (∃ l ∈ Text.lines source, Sighting.onLine ps l = true) ↔ ∃ t ∈ ts, t <:+: source.toList := by
  have honLine : ∀ l, Sighting.onLine ps l = true ↔ ∃ t ∈ ts, t <:+: l.toList := by
    intro l
    subst hps
    simp only [Sighting.onLine, List.any_map, List.any_eq_true, Function.comp_apply, Pattern.literal_matches?_iff,
      String.toList_ofList]
  simp only [honLine]
  constructor
  · rintro ⟨l, hl, t, ht, ho⟩
    exact ⟨t, ht, (Text.exists_mem_lines_iff (hts t ht)).mp ⟨l, hl, ho⟩⟩
  · rintro ⟨t, ht, ho⟩
    obtain ⟨l, hl, ho⟩ := (Text.exists_mem_lines_iff (hts t ht)).mpr ho
    exact ⟨l, hl, t, ht, ho⟩

/-! ### Findings -/

namespace Finding

theorem ofSignature?_eq_some_iff {s : Settings} {ls : List String} {around : List Enclosing} {d : Dialect}
    {e : Signature} {f : Finding} :
    ofSignature? s ls around d e = some f ↔
      Sighting.ofPatterns s.scanner ls around (e.patternsFor d) ≠ [] ∧
      f = ofSightings s.scoring e (Sighting.ofPatterns s.scanner ls around (e.patternsFor d)) ∧
      f.confidence.less s.scoring.threshold = false := by
  rw [ofSignature?]
  dsimp only
  split
  · rename_i hempty
    simp [List.isEmpty_iff.mp hempty]
  · rename_i hsome
    have hne := mt List.isEmpty_iff.mpr hsome
    split
    · rename_i hless
      constructor
      · intro h
        cases h
      · rintro ⟨-, rfl, hnot⟩
        rw [hless] at hnot
        cases hnot
    · rename_i hless
      rw [Option.some.injEq]
      constructor
      · rintro rfl
        exact ⟨hne, rfl, Bool.not_eq_true _ ▸ hless⟩
      · rintro ⟨-, rfl, -⟩
        rfl

theorem idiom_of_ofSignature? {s : Settings} {ls : List String} {around : List Enclosing} {d : Dialect} {e : Signature}
    {f : Finding} (h : ofSignature? s ls around d e = some f) : f.idiom = e.idiom := by
  obtain ⟨-, rfl, -⟩ := ofSignature?_eq_some_iff.mp h
  rfl

theorem mem_detect_iff {s : Settings} {c : Catalog} {source : String} {d : Dialect} {f : Finding} :
    f ∈ detect s c source d ↔ source ≠ "" ∧ ∃ e ∈ c.entries,
      ofSignature? s (Text.lines source) (Enclosing.ofLines (Text.lines source)) d e = some f := by
  rw [detect]
  by_cases h : source = ""
  · simp [h]
  · have hne : ¬source.isEmpty = true := fun hemp => h (String.isEmpty_iff.mp hemp)
    rw [if_neg hne, List.mem_mergeSort, List.mem_filterMap]
    exact (and_iff_right h).symm

theorem detect_singleton {s : Settings} {e : Signature} {source : String} {d : Dialect} {f : Finding} (hne : source ≠ "")
    (h : ofSignature? s (Text.lines source) (Enclosing.ofLines (Text.lines source)) d e = some f) :
    detect s ⟨[e]⟩ source d = [f] := by
  rw [detect, if_neg fun hemp => hne (String.isEmpty_iff.mp hemp)]
  dsimp only
  rw [List.filterMap_cons_some h, List.filterMap_nil, List.mergeSort_singleton]

/-- Findings whose confidence falls along the catalog stay in its order. -/
theorem idioms_detect_of_pairwise {s : Settings} {c : Catalog} {source : String} {d : Dialect} (hne : source ≠ "")
    {ids : List Idiom}
    (h : let fs := c.entries.filterMap (ofSignature? s (Text.lines source) (Enclosing.ofLines (Text.lines source)) d)
      (fs.Pairwise fun a b => a.confidence.less b.confidence = false) ∧ fs.map (·.idiom) = ids) :
    (detect s c source d).map (·.idiom) = ids := by
  rw [detect, if_neg fun hemp => hne (String.isEmpty_iff.mp hemp)]
  have hsorted := List.mergeSort_of_pairwise (h.1.imp fun hless => Bool.not_eq_true' _ ▸ hless)
  exact (congrArg (List.map Finding.idiom) hsorted).trans h.2

/-- What a finding has of the signature that it was made from. -/
theorem exists_entry_of_mem_detect {s : Settings} {c : Catalog} {source : String} {d : Dialect} {f : Finding}
    (h : f ∈ detect s c source d) : f.sightings ≠ [] ∧ ∃ e ∈ c.entries, f.idiom = e.idiom ∧ f.rating = e.rating ∧
      f.requirements = e.requirements ∧ f.recipes = e.recipes := by
  obtain ⟨-, e, he, hf⟩ := mem_detect_iff.mp h
  obtain ⟨hne, rfl, -⟩ := ofSignature?_eq_some_iff.mp hf
  exact ⟨hne, e, he, rfl, rfl, rfl, rfl⟩

/-- A confidence is never below zero, so a threshold of zero drops nothing. -/
theorem ofSightings_not_less_of_isZero {s : Settings.Scoring} (h : s.threshold.isZero = true) (e : Signature)
    (found : List Sighting) : (ofSightings s e found).confidence.less s.threshold = false :=
  Number.greatest_zero_not_less (by decide) h

/-- By default a signature that recognizes its idiom by a literal text finds it wherever the text occurs. -/
theorem exists_detect_of_literal {e : Signature} {d : Dialect} {t : List Char} {source : String}
    (hpatterns : e.patternsFor d = [t].map fun t => .literal (String.ofList t)) (ht : t ≠ [] ∧ '\n' ∉ t)
    (ho : t <:+: source.toList) :
    ∃ f, detect {} ⟨[e]⟩ source d = [f] ∧ f.recipes = e.recipes := by
  have hsource : source ≠ "" := by
    rintro rfl
    exact ht.1 (List.infix_nil.mp ho)
  have hsighted : Sighting.ofPatterns ({} : Settings).scanner (Text.lines source)
      (Enclosing.ofLines (Text.lines source)) (e.patternsFor d) ≠ [] := by
    rw [Sighting.ofPatterns_ne_nil_iff (Enclosing.length_ofLines _), Sighting.exists_onLine_iff hpatterns]
    · exact ⟨t, List.mem_singleton_self t, ho⟩
    · exact List.forall_mem_singleton.mpr ht.2
  have hfound := ofSignature?_eq_some_iff.mpr ⟨hsighted, rfl, ofSightings_not_less_of_isZero rfl _ _⟩
  exact ⟨_, detect_singleton hsource hfound, rfl⟩

/-- What is found of some signatures comes in their order. -/
theorem idioms_filterMap_sublist {find : Signature → Option Finding}
    (hfind : ∀ e f, find e = some f → f.idiom = e.idiom) :
    ∀ es : List Signature, ((es.filterMap find).map (·.idiom)).Sublist (es.map (·.idiom))
  | [] => List.Sublist.refl _
  | e :: es => by
    have ih := idioms_filterMap_sublist hfind es
    cases hf : find e with
    | none =>
      rw [List.filterMap_cons_none hf]
      exact ih.cons _
    | some f =>
      rw [List.filterMap_cons_some hf, List.map_cons, List.map_cons, hfind e f hf]
      exact ih.cons_cons _

theorem idioms_detect_nodup {s : Settings} {c : Catalog} {source : String} {d : Dialect} (h : c.idioms.Nodup) :
    ((detect s c source d).map (·.idiom)).Nodup := by
  rw [detect]
  split
  · exact List.nodup_nil
  · refine ((List.mergeSort_perm _ _).map Finding.idiom).nodup_iff.mpr ?_
    exact (idioms_filterMap_sublist (fun _ _ => idiom_of_ofSignature?) c.entries).nodup h

end Finding

/-! ### Analyses -/

@[simp] theorem Detector.dialect_analyze (t : Detector) (source : String) (d : Dialect) :
    (t.analyze source d).dialect = d := by
  rw [Detector.analyze]
  split <;> rfl

theorem Detector.findings_analyze (t : Detector) (source : String) (d : Dialect) :
    (t.analyze source d).findings = Finding.detect t.settings t.catalog source d := by
  rw [Detector.analyze]
  split
  · rename_i hemp
    rw [Finding.detect, if_pos hemp]
    rfl
  · rfl

theorem Detector.sightings_ne_nil {t : Detector} {source : String} {d : Dialect} :
    ∀ f ∈ (t.analyze source d).findings, f.sightings ≠ [] := by
  rw [Detector.findings_analyze]
  exact fun f hf => (Finding.exists_entry_of_mem_detect hf).1

theorem Detector.make_eq_ok_iff {c : Catalog} {s : Settings} {t : Detector} : Detector.make c s = .ok t ↔
    ∃ r, Regex.read s.scanner.relevance = .ok r ∧ t = ⟨c.orBuiltin, s, r⟩ := by
  rw [Detector.make]
  cases hr : Regex.read s.scanner.relevance with
  | error e =>
    constructor
    · intro h
      cases h
    · rintro ⟨r, h, -⟩
      cases h
  | ok r =>
    constructor
    · intro h
      cases h
      exact ⟨r, rfl, rfl⟩
    · rintro ⟨r', h, rfl⟩
      cases h
      rfl

theorem Detector.make_eq_ok {c : Catalog} {s : Settings} {t : Detector} (h : Detector.make c s = .ok t) :
    t.catalog = c.orBuiltin ∧ t.settings = s := by
  obtain ⟨r, -, rfl⟩ := Detector.make_eq_ok_iff.mp h
  exact ⟨rfl, rfl⟩

/-- Settings that make a detector of one catalog make one of every catalog. -/
theorem Detector.make_catalog {c : Catalog} {s : Settings} {t : Detector} (h : Detector.make c s = .ok t) (c' : Catalog) :
    Detector.make c' s = .ok { t with catalog := c'.orBuiltin } := by
  obtain ⟨r, hr, rfl⟩ := Detector.make_eq_ok_iff.mp h
  exact Detector.make_eq_ok_iff.mpr ⟨r, hr, rfl⟩

end ClientMigration
