import ClientMigration.Plan
import ClientMigration.Proofs.Assessment.RelevantLines
import Mathlib.Data.List.Count
import Mathlib.Data.List.Nodup

/-! # The phases of a plan

A plan numbers its phases from one: those of the outline, of the dependencies and of the optimizations, in this order.
An analysis of medium complexity parts its findings by rating among the phases of the outline, so that each idiom is
converted in exactly one of them, and each of these phases depends on phases before it only. -/

namespace ClientMigration

/-! ### Numbered phases -/

namespace Phase

/-- The phases with numbers that follow those of so many others. -/
def numberedFrom (k : Nat) (ps : List Phase) : List Phase :=
  (ps.zipIdx k).map fun (p, i) => { p with number := i + 1 }

theorem numbered_append (ps qs rs : List Phase) : numbered (ps ++ qs ++ rs) =
    numberedFrom 0 ps ++ numberedFrom ps.length qs ++ numberedFrom (ps.length + qs.length) rs := by
  rw [numbered, List.zipIdx_append, List.zipIdx_append, List.map_append, List.map_append, List.length_append,
    Nat.zero_add, Nat.zero_add]
  rfl

/-- Numbers change nothing but the numbers. -/
theorem map_numberedFrom {β : Type} {g : Phase → β} (hg : ∀ p n, g { p with number := n } = g p) (k : Nat)
    (ps : List Phase) : (numberedFrom k ps).map g = ps.map g := by
  have hfst : (g ∘ fun (p, i) => { p with number := i + 1 } : Phase × Nat → β) = g ∘ Prod.fst := by
    funext ⟨p, i⟩
    exact hg p (i + 1)
  rw [numberedFrom, List.map_map, hfst, ← List.map_map, List.zipIdx_map_fst]

theorem length_numberedFrom (k : Nat) (ps : List Phase) : (numberedFrom k ps).length = ps.length := by
  rw [numberedFrom, List.length_map, List.length_zipIdx]

theorem map_number_numbered (ps : List Phase) : (numbered ps).map (·.number) = List.range' 1 ps.length := by
  have hsnd : ((·.number) ∘ fun (p, i) => { p with number := i + 1 } : Phase × Nat → Nat) = (1 + ·) ∘ Prod.snd := by
    funext ⟨p, i⟩
    exact Nat.add_comm i 1
  rw [numbered, List.map_map, hsnd, ← List.map_map, List.zipIdx_map_snd, List.map_add_range']

theorem length_numbered (ps : List Phase) : (numbered ps).length = ps.length := length_numberedFrom 0 ps

/-- Whatever phase a list is parted at, the phase depends on titles of those before it only. -/
def DependOnEarlier (ps : List Phase) : Prop :=
  ∀ before p behind, ps = before ++ p :: behind → ∀ title ∈ p.dependencies, title ∈ before.map (·.title)

/-- The task of converting an idiom. -/
def conversionOf (name : String) : String := "Convert " ++ name ++ " pattern"

theorem conversionOf_injective : Function.Injective conversionOf := by
  intro a b h
  rw [conversionOf, conversionOf, String.append_left_inj, String.append_right_inj] at h
  exact h

/-- A stage without idioms has its deliverables as tasks. If none of these converts an idiom, the tasks convert what the
    stage lists. -/
theorem count_tasks_ofStage {s : Stage} {name : String} (h : conversionOf name ∉ s.deliverables) :
    (ofStage s).tasks.count (conversionOf name) = s.idioms.count name := by
  rw [ofStage]
  dsimp only
  split
  · rename_i hempty
    rw [List.isEmpty_iff.mp hempty, List.count_nil, List.count_eq_zero.mpr h]
  · exact List.count_map_of_injective _ _ conversionOf_injective name

theorem mem_tasks_ofStage_iff {s : Stage} {name : String} (h : conversionOf name ∉ s.deliverables) :
    conversionOf name ∈ (ofStage s).tasks ↔ name ∈ s.idioms := by
  rw [← List.count_pos_iff, count_tasks_ofStage h, List.count_pos_iff]

theorem count_tasks_ofStages {name : String} : ∀ {stages : List Stage},
    (∀ s ∈ stages, conversionOf name ∉ s.deliverables) →
    ((stages.map ofStage).flatMap (·.tasks)).count (conversionOf name) = (stages.flatMap (·.idioms)).count name
  | [], _ => rfl
  | s :: stages, h => by
    rw [List.forall_mem_cons] at h
    rw [List.map_cons, List.flatMap_cons, List.flatMap_cons, List.count_append, List.count_append,
      count_tasks_ofStage h.1, count_tasks_ofStages h.2]

theorem exists_stage_of_mem {k : Nat} {stages : List Stage} {p : Phase} (h : p ∈ numberedFrom k (stages.map ofStage)) :
    ∃ s ∈ stages, p.title = s.name ∧ p.tasks = (ofStage s).tasks := by
  have hpair := List.mem_map_of_mem (f := fun p : Phase => (p.title, p.tasks)) h
  rw [map_numberedFrom fun _ _ => rfl, List.map_map] at hpair
  obtain ⟨s, hs, heq⟩ := List.mem_map.mp hpair
  obtain ⟨htitle, htasks⟩ := Prod.mk.inj heq
  exact ⟨s, hs, htitle.symm, htasks.symm⟩

end Phase

/-! ### The parts of a plan -/

namespace Plan
variable {s : Settings.Plan} {a : Analysis} {d : Dependencies} {r : Optimizations} {o : Options} {plan : Plan}

theorem make_eq_ok_iff : make s a d r o = .ok plan ↔
    ∃ duration, durationOf s a.effort.total (o.optimizations r).length = .ok duration ∧
      let phases := phasesOf s a d (o.optimizations r)
      plan = ⟨phases, phases.length, duration, a.outline.dependencies.eraseDups,
        phases.map fun p => "Validate " ++ p.title⟩ := by
  rw [make]
  cases durationOf s a.effort.total (o.optimizations r).length with
  | error e =>
    constructor
    · intro h
      cases h
    · rintro ⟨duration, h, -⟩
      cases h
  | ok duration =>
    constructor
    · intro h
      cases h
      exact ⟨duration, rfl, rfl⟩
    · rintro ⟨duration', h, rfl⟩
      cases h
      rfl

/-- A plan can be made exactly if its hours can be told. -/
theorem exists_make_iff : (∃ plan, make s a d r o = .ok plan) ↔
    ∃ duration, durationOf s a.effort.total (o.optimizations r).length = .ok duration := by
  constructor
  · rintro ⟨plan, h⟩
    obtain ⟨duration, hduration, -⟩ := make_eq_ok_iff.mp h
    exact ⟨duration, hduration⟩
  · rintro ⟨duration, hduration⟩
    exact ⟨_, make_eq_ok_iff.mpr ⟨duration, hduration, rfl⟩⟩

/-- The phases are numbered from one without a gap, and each has its checkpoint. -/
structure Numbered (plan : Plan) : Prop where
  steps : plan.totalSteps = plan.phases.length
  numbers : plan.phases.map (·.number) = List.range' 1 plan.totalSteps
  checkpoints : plan.checkpoints = plan.phases.map fun p => "Validate " ++ p.title

theorem numbered_of_make (h : make s a d r o = .ok plan) : plan.Numbered := by
  obtain ⟨duration, -, rfl⟩ := make_eq_ok_iff.mp h
  refine ⟨rfl, ?_, rfl⟩
  dsimp only [phasesOf]
  rw [Phase.map_number_numbered, Phase.length_numbered]

/-- The phases of a plan, one for each stage of the outline, then one for each phase of the dependencies, then one for
    each optimization if they are wanted. -/
structure Parts (plan : Plan) (a : Analysis) (d : Dependencies) (r : Optimizations) (o : Options)
    (strategy dependency optimization : List Phase) : Prop where
  phases : plan.phases = strategy ++ dependency ++ optimization
  strategy : strategy.map (·.title) = a.outline.stages.map (·.name)
  dependency : dependency.map (·.title) = d.phases.map (·.name)
  optimization : (optimization.map (·.title)).Perm
    (if o.includeOptimizations then r.recommendations.map fun x => "Apply " ++ x.title else [])

/-- The phases that a plan has for the stages of an outline. -/
def strategyOf (a : Analysis) : List Phase := Phase.numberedFrom 0 (a.outline.stages.map .ofStage)

theorem optimizations_perm (o : Options) (r : Optimizations) :
    (o.optimizations r).Perm (if o.includeOptimizations then r.recommendations else []) := by
  rw [Options.optimizations]
  split
  · exact List.mergeSort_perm _ _
  · exact List.Perm.refl _

theorem phasesOf_eq (s : Settings.Plan) (a : Analysis) (d : Dependencies) (os : List Optimization) :
    phasesOf s a d os = strategyOf a ++
      Phase.numberedFrom a.outline.stages.length (d.phases.map (.ofDependencyPhase s)) ++
      Phase.numberedFrom (a.outline.stages.length + d.phases.length) (os.map (.ofOptimization s)) := by
  rw [phasesOf, Phase.numbered_append, List.length_map, List.length_map]
  rfl

theorem parts_of_make (h : make s a d r o = .ok plan) :
    ∃ dependency optimization, plan.Parts a d r o (strategyOf a) dependency optimization := by
  obtain ⟨duration, -, rfl⟩ := make_eq_ok_iff.mp h
  refine ⟨_, _, phasesOf_eq s a d (o.optimizations r), ?_, ?_, ?_⟩
  · rw [strategyOf, Phase.map_numberedFrom fun _ _ => rfl, List.map_map]
    rfl
  · rw [Phase.map_numberedFrom fun _ _ => rfl, List.map_map]
    rfl
  · rw [Phase.map_numberedFrom fun _ _ => rfl, List.map_map]
    have hperm := (optimizations_perm o r).map fun x => "Apply " ++ x.title
    rw [apply_ite (List.map fun x : Optimization => "Apply " ++ x.title)] at hperm
    exact hperm

theorem Parts.totalSteps_eq {strategy dependency optimization : List Phase}
    (h : plan.Parts a d r o strategy dependency optimization) (hn : plan.Numbered) :
    plan.totalSteps = a.outline.stages.length + d.phases.length +
      if o.includeOptimizations then r.recommendations.length else 0 := by
  have hstrategy := congrArg List.length h.strategy
  have hdependency := congrArg List.length h.dependency
  have hoptimization := h.optimization.length_eq
  rw [apply_ite List.length] at hoptimization
  simp only [List.length_map, List.length_nil] at hstrategy hdependency hoptimization
  rw [hn.steps, h.phases, List.length_append, List.length_append, hstrategy, hdependency, hoptimization]

end Plan

/-! ### Stages -/

theorem Idiom.name_injective : Function.Injective Idiom.name := by
  intro i j h
  cases i <;> cases j <;> first | rfl | exact absurd h (by decide)

namespace Rating

/-- The title of the stage for idioms of the rating. -/
def stageTitle : Rating → String
  | .simple => "Phase 1"
  | .moderate => "Phase 2"
  | .complex => "Phase 3"

/-- What the stage for idioms of the rating is about. -/
def stageCaption : Rating → String
  | .simple => "Simple patterns"
  | .moderate => "Moderate patterns"
  | .complex => "Complex patterns"

theorem stageTitle_injective : Function.Injective stageTitle := by
  intro r q h
  cases r <;> cases q <;> first | rfl | exact absurd h (by decide)

end Rating

/-- The stages list the idiom once, in the stage for its rating, and of the phases made of them that one has the task to
    convert it, once. -/
structure Finding.PlacedIn (f : Finding) (stages : List Stage) (phases : List Phase) : Prop where
  stage : ∀ s ∈ stages, f.idiom.name ∈ s.idioms ↔ s.name = f.rating.stageTitle
  listed : (stages.flatMap (·.idioms)).count f.idiom.name = 1
  phase : ∀ p ∈ phases, Phase.conversionOf f.idiom.name ∈ p.tasks ↔ p.title = f.rating.stageTitle
  converted : (phases.flatMap (·.tasks)).count (Phase.conversionOf f.idiom.name) = 1

namespace Outline
variable {fs : List Finding} {f : Finding}

theorem map_stagesFor (fs : List Finding) : (stagesFor fs).map (fun s => (s.name, s.description, s.idioms)) =
    Rating.all.map fun r => (r.stageTitle, r.stageCaption, (fs.filter fun f => f.rating = r).map (·.idiom.name)) := rfl

theorem exists_rating_of_mem {s : Stage} (h : s ∈ stagesFor fs) :
    ∃ r : Rating, s.name = r.stageTitle ∧ s.idioms = rated fs r := by
  simp only [stagesFor, List.mem_cons, List.not_mem_nil, or_false] at h
  rcases h with rfl | rfl | rfl
  · exact ⟨.simple, rfl, rfl⟩
  · exact ⟨.moderate, rfl, rfl⟩
  · exact ⟨.complex, rfl, rfl⟩

theorem conversionOf_not_mem_deliverables (fs : List Finding) (i : Idiom) :
    ∀ s ∈ stagesFor fs, Phase.conversionOf i.name ∉ s.deliverables := by
  intro s hs hmem
  have hdelivered : Phase.conversionOf i.name ∈ ["Updated connection code", "Converted patterns", "Full migration"] :=
    List.mem_flatMap_of_mem (f := Stage.deliverables) hs hmem
  revert hdelivered
  cases i <;> decide

theorem dependOnEarlier_stagesFor (fs : List Finding) :
    Phase.DependOnEarlier (Phase.numberedFrom 0 ((stagesFor fs).map .ofStage)) := by
  intro before p behind h title htitle
  -- The place of the phase is the number of phases before it, at most two.
  rcases before with _ | ⟨p₁, _ | ⟨p₂, _ | ⟨p₃, rest⟩⟩⟩
  · cases h
    cases htitle
  · cases h
    exact htitle
  · cases h
    exact List.mem_cons_of_mem _ htitle
  · have hlength := congrArg List.length h
    rw [Phase.length_numberedFrom, List.length_map, List.length_append, List.length_cons, List.length_cons,
      List.length_cons, List.length_cons] at hlength
    exact absurd hlength (by simp only [stagesFor, List.length_cons, List.length_nil]; omega)

section Rated
variable (hnodup : (fs.map (·.idiom)).Nodup)
include hnodup

theorem nodup_rated (r : Rating) : (rated fs r).Nodup := by
  have hnames : (fs.map (·.idiom.name)).Nodup := by
    have hmapped := hnodup.map Idiom.name_injective
    rwa [List.map_map] at hmapped
  exact hnames.sublist (List.filter_sublist.map _)

variable (hf : f ∈ fs)
include hf

theorem mem_rated_iff {r : Rating} : f.idiom.name ∈ rated fs r ↔ f.rating = r := by
  rw [rated, List.mem_map]
  constructor
  · rintro ⟨g, hg, hname⟩
    obtain ⟨hg, hrating⟩ := List.mem_filter.mp hg
    have hsame : g = f := List.inj_on_of_nodup_map hnodup hg hf (Idiom.name_injective hname)
    exact hsame ▸ of_decide_eq_true hrating
  · rintro rfl
    exact ⟨f, List.mem_filter.mpr ⟨hf, decide_eq_true rfl⟩, rfl⟩

theorem count_rated (r : Rating) : (rated fs r).count f.idiom.name = if f.rating = r then 1 else 0 := by
  rw [(nodup_rated hnodup r).count]
  simp only [mem_rated_iff hnodup hf]

theorem mem_idioms_iff {s : Stage} (hs : s ∈ stagesFor fs) :
    f.idiom.name ∈ s.idioms ↔ s.name = f.rating.stageTitle := by
  obtain ⟨r, hname, hidioms⟩ := exists_rating_of_mem hs
  rw [hname, hidioms, mem_rated_iff hnodup hf, Rating.stageTitle_injective.eq_iff, eq_comm]

theorem count_stagesFor : ((stagesFor fs).flatMap (·.idioms)).count f.idiom.name = 1 := by
  simp only [stagesFor, List.flatMap_cons, List.flatMap_nil, List.append_nil, List.count_append, count_rated hnodup hf]
  cases f.rating <;> rfl

theorem placedIn_stagesFor : f.PlacedIn (stagesFor fs) (Phase.numberedFrom 0 ((stagesFor fs).map .ofStage)) where
  stage _ hs := mem_idioms_iff hnodup hf hs
  listed := count_stagesFor hnodup hf
  phase p hp := by
    obtain ⟨s, hs, htitle, htasks⟩ := Phase.exists_stage_of_mem hp
    rw [htitle, htasks, Phase.mem_tasks_ofStage_iff (conversionOf_not_mem_deliverables fs f.idiom s hs)]
    exact mem_idioms_iff hnodup hf hs
  converted := by
    rw [List.flatMap_def, Phase.map_numberedFrom fun _ _ => rfl, ← List.flatMap_def,
      Phase.count_tasks_ofStages (conversionOf_not_mem_deliverables fs f.idiom)]
    exact count_stagesFor hnodup hf

end Rated

end Outline

/-! ### Plans of an analysis -/

namespace Detector

theorem stages_analyze (t : Detector) (source : String) (d : Dialect) :
    (t.analyze source d).outline.stages = if (t.analyze source d).complexity.band = .medium then
      Outline.stagesFor (t.analyze source d).findings else [] := by
  have hmedium : ∀ b : Band, Approach.ofBand b = .incremental ↔ b = .medium := by
    intro b
    cases b <;> decide
  rw [analyze]
  split
  · rfl
  · simp only [Outline.ofFindings, hmedium]

theorem effort_analyze {source : String} (hne : source ≠ "") (t : Detector) (d : Dialect) :
    (t.analyze source d).effort =
      .ofFindings t.settings.effort (t.detect source d) (t.analyze source d).complexity.band := by
  rw [analyze, if_neg fun h => hne (String.isEmpty_iff.mp h)]

theorem idioms_analyze_nodup {es : List Signature} {c : Catalog} (hc : Catalog.ofList es = .ok c) {s : Settings}
    {t : Detector} (ht : make c s = .ok t) (source : String) (d : Dialect) :
    ((t.analyze source d).findings.map (·.idiom)).Nodup := by
  obtain ⟨rfl, hnodup, -⟩ := Catalog.ofList_eq_ok_iff.mp hc
  rw [findings_analyze, ← detect, detect_of_make ht]
  refine Finding.idioms_detect_nodup ?_
  cases es with
  | nil => exact Catalog.idioms_builtin_nodup
  | cons e es => exact hnodup

end Detector

namespace Plan

/-- A plan for an analysis has a numbered phase with a checkpoint for each stage of the outline, each phase of the
    dependencies and each wanted optimization. The phases of the outline depend on those before them only. At medium
    complexity there is one for each rating, with the idioms of that rating in the order of the findings, so that each
    idiom is listed once, in the phase for its rating, and converted once. -/
theorem phases_structured {es : List Signature} {c : Catalog} (hc : Catalog.ofList es = .ok c) {s : Settings}
    {t : Detector} (ht : Detector.make c s = .ok t) (source : String) (d : Dialect) (deps : Dependencies)
    (r : Optimizations) (o : Options) {plan : Plan} (hplan : make s.plan (t.analyze source d) deps r o = .ok plan) :
    let a := t.analyze source d
    plan.Numbered ∧
    plan.totalSteps = a.outline.stages.length + deps.phases.length +
      (if o.includeOptimizations then r.recommendations.length else 0) ∧
    ∃ strategy dependency optimization, plan.Parts a deps r o strategy dependency optimization ∧
      Phase.DependOnEarlier strategy ∧
      (a.complexity.band = .medium →
        a.outline.stages.map (fun stage => (stage.name, stage.description, stage.idioms)) =
          Rating.all.map (fun rating => (rating.stageTitle, rating.stageCaption,
            (a.findings.filter fun f => f.rating = rating).map (·.idiom.name))) ∧
        ∀ f ∈ a.findings, f.PlacedIn a.outline.stages strategy) := by
  dsimp only
  have hnodup := Detector.idioms_analyze_nodup hc ht source d
  have hstages := t.stages_analyze source d
  have hnumbered := numbered_of_make hplan
  obtain ⟨dependency, optimization, hparts⟩ := parts_of_make hplan
  refine ⟨hnumbered, hparts.totalSteps_eq hnumbered, _, dependency, optimization, hparts, ?_, fun hmedium => ?_⟩
  · rw [strategyOf, hstages]
    split
    · exact Outline.dependOnEarlier_stagesFor _
    · intro before p behind h
      exact absurd h.symm (List.append_ne_nil_of_right_ne_nil _ (List.cons_ne_nil _ _))
  · rw [if_pos hmedium] at hstages
    rw [strategyOf, hstages]
    exact ⟨Outline.map_stagesFor _, fun f hf => Outline.placedIn_stagesFor hnodup hf⟩

/-- The packages are swapped in one phase. -/
def swapping : Dependencies := ⟨[⟨"Swap packages", 1, [], []⟩], []⟩

/-- Batches are the one thing recommended. -/
def batching : Optimizations := ⟨[⟨"Batching", "", .low, []⟩]⟩

/-- A call of `run` alone is of medium complexity, so the plan converts it in the first of three phases, before the
    packages are swapped and batches come in. -/
theorem phases_structured_runCalls : ∃ t plan, Catalog.ofList [Sighting.runCalls] = .ok ⟨[Sighting.runCalls]⟩ ∧
    Detector.make ⟨[Sighting.runCalls]⟩ {} = .ok t ∧ (t.analyze "run()" .ioredis).complexity.band = .medium ∧
    make {} (t.analyze "run()" .ioredis) swapping batching {} = .ok plan ∧
    plan.phases.map (·.number) = [1, 2, 3, 4, 5] ∧ plan.checkpoints.length = 5 ∧
    ∃ p ∈ plan.phases, p.title = "Phase 1" ∧ "Convert pipeline pattern" ∈ p.tasks := by
  have haccepted : Catalog.ofList [Sighting.runCalls] = .ok ⟨[Sighting.runCalls]⟩ := rfl
  have hne : "run()" ≠ "" := by decide
  have hcall : ['r', 'u', 'n', '('] <:+: "run()".toList := by
    rw [← Text.occursIn_iff]
    decide
  obtain ⟨t, f, ht, hdetect, hidiom, hrating, hlength⟩ := Detector.exists_found_runCalls hcall
  have hone : f.sightings.length = 1 := hlength.trans (by decide)
  have hlines : (Text.lines "run()").length = 1 := by decide
  have hrelevant : Complexity.countRelevant t.relevance (Text.lines "run()") [f] = 1 := by
    have hleast := Detector.length_sightings_le hne (hdetect ▸ List.mem_singleton_self f)
    have hmost := Complexity.countRelevant_le_length t.relevance (Text.lines "run()") [f]
    rw [hdetect] at hleast
    omega
  have hmedium : (t.analyze "run()" .ioredis).complexity.band = .medium := by
    rw [Detector.complexity_analyze hne, hdetect, hlines, hrelevant, (Detector.make_eq_ok ht).2]
    simp only [Complexity.ofCounts, Complexity.factorsOf, List.map_cons, List.map_nil, hrating, hone]
    decide +kernel
  have hduration : durationOf {} (t.analyze "run()" .ioredis).effort.total 1 = .ok "28-42 hours" := by
    rw [Detector.effort_analyze hne, hmedium, hdetect, (Detector.make_eq_ok ht).2]
    simp only [Effort.ofFindings, Effort.hours, List.foldl_cons, List.foldl_nil, hrating, hone]
    rfl
  obtain ⟨plan, hplan⟩ : ∃ plan, make {} (t.analyze "run()" .ioredis) swapping batching {} = .ok plan := by
    have hcount : (Options.optimizations {} batching).length = 1 := (optimizations_perm {} batching).length_eq
    exact exists_make_iff.mpr ⟨_, hcount ▸ hduration⟩
  obtain ⟨hnumbered, htotal, strategy, _, _, hparts, -, hrated⟩ :=
    phases_structured haccepted ht "run()" .ioredis swapping batching {} hplan
  obtain ⟨hstages, hplaced⟩ := hrated hmedium
  have hthree : (t.analyze "run()" .ioredis).outline.stages.length = 3 := by
    have hlength := congrArg List.length hstages
    rwa [List.length_map, List.length_map] at hlength
  rw [hthree] at htotal
  have hfound : f ∈ (t.analyze "run()" .ioredis).findings := by
    rw [Detector.findings_analyze, ← Detector.detect, hdetect]
    exact List.mem_singleton_self f
  obtain ⟨-, -, hphase, honce⟩ := hplaced f hfound
  obtain ⟨p, hp, htask⟩ := List.mem_flatMap.mp (List.count_pos_iff.mp (honce ▸ Nat.one_pos))
  refine ⟨t, plan, haccepted, ht, hmedium, hplan, ?_, ?_, p, ?_, ?_, ?_⟩
  · rw [hnumbered.numbers, htotal]
    rfl
  · rw [hnumbered.checkpoints, List.length_map, ← hnumbered.steps, htotal]
    rfl
  · rw [hparts.phases]
    exact List.mem_append_left _ (List.mem_append_left _ hp)
  · exact ((hphase p hp).mp htask).trans (congrArg Rating.stageTitle hrating)
  · rw [hidiom] at htask
    exact htask

end Plan

end ClientMigration
