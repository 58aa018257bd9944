import ClientMigration.Proofs.Findings

/-! # Relevant lines

An analysis counts the lines of a text that match the relevance pattern or lie in a window of what it finds. Every
sighting stands on a line of its own, inside its window, so an idiom has at most as many sightings as there are relevant
lines, and of these there are at most as many as the text has lines. -/

namespace ClientMigration

theorem Finding.exists_inText_of_mem_detect {s : Settings} {c : Catalog} {source : String} {d : Dialect}
    (hne : source ≠ "") {f : Finding} (hf : f ∈ detect s c source d) :
    ∃ e ∈ c.entries, f.sightings = Sighting.inText s.scanner source (e.patternsFor d) := by
  obtain ⟨e, he, -, -, rfl⟩ := (mem_detect_iff_matchesIn hne).mp hf
  exact ⟨e, he, rfl⟩

namespace Sighting
variable {s : Settings.Scanner} {ls : List String} {ps : List Pattern} {found : List Sighting}

theorem Windowed.spans {x : Sighting} (h : Windowed s ls x) : x.Spans x.line.toNat := by
  obtain ⟨hzero, hfirst, hlast, -⟩ := h.inText
  constructor <;> omega

theorem Windowed.line_lt {x : Sighting} (h : Windowed s ls x) : x.line.toNat < ls.length := by
  obtain ⟨hzero, hfirst, hlast, hend⟩ := h.inText
  omega

theorem ExactOn.nodup_lines (h : ExactOn s ls ps found) : (found.map (·.line.toNat)).Nodup := by
  have hdistinct : (found.map (·.line)).Nodup := h.increasing.nodup
  refine hdistinct.of_map.map_on fun x hx y hy heq => ?_
  have hx' := (h.windows x hx).inText
  have hy' := (h.windows y hy).inText
  exact List.inj_on_of_nodup_map hdistinct hx hy (by omega)

end Sighting

/-- The lines of sightings are relevant, and no two are the same. -/
theorem Complexity.length_sightings_le {relevance : Regex} {s : Settings.Scanner} {ls : List String} {ps : List Pattern}
    {fs : List Finding} {f : Finding} (hf : f ∈ fs) (h : Sighting.ExactOn s ls ps f.sightings) :
    f.sightings.length ≤ countRelevant relevance ls fs := by
  have hle : (f.sightings.map (·.line.toNat)).length ≤ countRelevant relevance ls fs := by
    refine length_le_countRelevant h.nodup_lines fun i hi => ?_
    obtain ⟨x, hx, rfl⟩ := List.mem_map.mp hi
    have hwindow := h.windows x hx
    exact ⟨_, List.getElem?_eq_getElem hwindow.line_lt, Or.inr ⟨f, hf, x, hx, hwindow.spans⟩⟩
  rwa [List.length_map] at hle

namespace Detector

theorem complexity_analyze {source : String} (hne : source ≠ "") (t : Detector) (d : Dialect) :
    (t.analyze source d).complexity =
      Complexity.ofCounts t.settings.complexity (t.detect source d) (Text.lines source).length
        (Complexity.countRelevant t.relevance (Text.lines source) (t.detect source d)) := by
  have hempty : ¬source.isEmpty = true := fun h => hne (String.isEmpty_iff.mp h)
  rw [analyze, if_neg hempty]
  dsimp only
  rw [Complexity.ofSource, if_neg hempty]

theorem length_sightings_le {source : String} (hne : source ≠ "") {t : Detector} {d : Dialect} {f : Finding}
    (hf : f ∈ t.detect source d) :
    f.sightings.length ≤ Complexity.countRelevant t.relevance (Text.lines source) (t.detect source d) := by
  obtain ⟨e, -, hsightings⟩ := Finding.exists_inText_of_mem_detect hne hf
  have hexact : Sighting.ExactOn t.settings.scanner (Text.lines source) (e.patternsFor d) f.sightings :=
    hsightings ▸ Sighting.exactOn_ofPatterns _ (fun l hl => Text.newline_not_mem_of_mem_lines hl) _
  exact Complexity.length_sightings_le hf hexact

/-- The relevant lines are those that match the pattern or lie in a window of a finding, each counted once. There are at
    least as many as any finding has sightings, and at most as many as the text has lines. Whatever the findings, the
    count stays within the lines, depends on nothing but which findings there are, and does not fall as more come in. -/
theorem relevantLines_accounted {c : Catalog} {s : Settings} {t : Detector} (ht : make c s = .ok t) {source : String}
    (hne : source ≠ "") (d : Dialect) :
    let a := t.analyze source d
    (∃ (relevance : Regex) (places : List Nat), Regex.read s.scanner.relevance = .ok relevance ∧ places.Nodup ∧
      (∀ i, i ∈ places ↔ Complexity.RelevantAt relevance (Text.lines source) a.findings i) ∧
      a.complexity.relevantLines = places.length) ∧
    (∀ f ∈ a.findings, f.sightings.length ≤ a.complexity.relevantLines) ∧
    a.complexity.relevantLines ≤ a.complexity.totalLines ∧
    a.complexity.totalLines = source.toList.count '\n' + 1 ∧
    ∀ (relevance : Regex) (ls : List String) (fs : List Finding),
      Complexity.countRelevant relevance ls fs ≤ ls.length ∧
      (∀ gs, (∀ f, f ∈ fs ↔ f ∈ gs) →
        Complexity.countRelevant relevance ls fs = Complexity.countRelevant relevance ls gs) ∧
      ∀ gs, fs ⊆ gs → Complexity.countRelevant relevance ls fs ≤ Complexity.countRelevant relevance ls gs := by
  dsimp only
  obtain ⟨r, hr, rfl⟩ := make_eq_ok_iff.mp ht
  rw [complexity_analyze hne, findings_analyze]
  refine ⟨⟨r, _, hr, Complexity.nodup_relevantPlaces r _ _, fun i => Complexity.mem_relevantPlaces_iff, ?_⟩,
    fun f hf => ?_, ?_, ?_, fun relevance ls fs => ⟨Complexity.countRelevant_le_length relevance ls fs,
      fun gs h => Complexity.countRelevant_congr h relevance ls,
      fun gs h => Complexity.countRelevant_mono h relevance ls⟩⟩
  · exact congrArg Int.ofNat (Complexity.countRelevant_eq_length r _ _)
  · exact Int.ofNat_le.mpr (length_sightings_le hne hf)
  · exact Int.ofNat_le.mpr (Complexity.countRelevant_le_length r _ _)
  · exact congrArg Int.ofNat (Text.length_lines source)

/-- Calls of `run` are found by default, with one sighting for each line that has one. -/
theorem exists_found_runCalls {source : String} (hcall : ['r', 'u', 'n', '('] <:+: source.toList) :
    ∃ t f, make ⟨[Sighting.runCalls]⟩ {} = .ok t ∧ t.detect source .ioredis = [f] ∧ f.idiom = .pipeline ∧
      f.rating = .simple ∧
      f.sightings.length = ((Text.lines source).findIdxs (Sighting.onLine [.literal "run("])).length := by
  obtain ⟨b, hbuiltin⟩ := exists_make_default
  have ht := make_catalog hbuiltin ⟨[Sighting.runCalls]⟩
  have hne : source ≠ "" := by
    rintro rfl
    exact absurd (List.infix_nil.mp hcall) (List.cons_ne_nil _ _)
  obtain ⟨f, hf, -⟩ := Finding.exists_detect_of_literal (e := Sighting.runCalls) (d := .ioredis) rfl (by decide) hcall
  obtain ⟨e, he, -, -, hmade⟩ := (Finding.mem_detect_iff_matchesIn hne).mp (hf ▸ List.mem_singleton_self f)
  obtain rfl := List.mem_singleton.mp he
  refine ⟨_, f, ht, ?_, by rw [hmade]; rfl, by rw [hmade]; rfl, ?_⟩
  · rw [detect_of_make ht, Catalog.orBuiltin_of_mem List.mem_cons_self]
    exact hf
  · have hsightings : f.sightings = Sighting.inText {} source [.literal "run("] := by
      rw [hmade]
      rfl
    rw [hsightings, Sighting.inText, Sighting.ofPatterns_eq_map, List.length_map]

/-- Both windows span both lines, and each line counts once. -/
theorem relevantLines_accounted_runCalls : ∃ t, make ⟨[Sighting.runCalls]⟩ {} = .ok t ∧ "run()\nrun()" ≠ "" ∧
    (∃ f ∈ (t.analyze "run()\nrun()" .ioredis).findings, f.sightings.length = 2) ∧
    (t.analyze "run()\nrun()" .ioredis).complexity.relevantLines = 2 := by
  have hne : "run()\nrun()" ≠ "" := by decide
  have hcall : ['r', 'u', 'n', '('] <:+: "run()\nrun()".toList := by
    rw [← Text.occursIn_iff]
    decide
  obtain ⟨t, f, ht, hdetect, -, -, hlength⟩ := exists_found_runCalls hcall
  have htwo : f.sightings.length = 2 := hlength.trans (by decide)
  have hfound : f ∈ (t.analyze "run()\nrun()" .ioredis).findings := by
    rw [findings_analyze, ← detect, hdetect]
    exact List.mem_singleton_self f
  obtain ⟨-, hleast, hmost, htotal, -⟩ := relevantLines_accounted ht hne .ioredis
  have hlines : "run()\nrun()".toList.count '\n' = 1 := by decide
  have hle := hleast f hfound
  refine ⟨t, ht, hne, ⟨f, hfound, htwo⟩, ?_⟩
  omega

end Detector

end ClientMigration
