import ClientMigration.Proofs.Planning.Phases
import ClientMigration.Proofs.StableSort
import ClientMigration.Recommendation

/-! # Priorities

Recommendations are one list by descending priority, in which equal priorities keep the order of findings, dependencies
and optimizations. Sorting by severity commutes with taking a part of a list. So the optimizations among them come in
the order in which a plan applies them, and the grave ones of the findings in the order of the risks of an outline. -/

namespace ClientMigration

/-! ### Sorting by severity -/

/-- The list by descending severity; what is equally severe keeps its order. -/
def bySeverity {α : Type} (severity : α → Severity) (l : List α) : List α :=
  l.mergeSort fun a b => (severity b).rank ≤ (severity a).rank

section BySeverity
variable {α β : Type} (severity : α → Severity)

theorem severity_trans (a b c : α) (hab : decide ((severity b).rank ≤ (severity a).rank) = true)
    (hbc : decide ((severity c).rank ≤ (severity b).rank) = true) :
    decide ((severity c).rank ≤ (severity a).rank) = true :=
  decide_eq_true (Nat.le_trans (of_decide_eq_true hbc) (of_decide_eq_true hab))

theorem severity_total (a b : α) :
    (decide ((severity b).rank ≤ (severity a).rank) || decide ((severity a).rank ≤ (severity b).rank)) = true := by
  rw [Bool.or_eq_true, decide_eq_true_iff, decide_eq_true_iff]
  exact Nat.le_total _ _

theorem bySeverity_perm (l : List α) : (bySeverity severity l).Perm l := List.mergeSort_perm _ _

theorem pairwise_bySeverity (l : List α) :
    (bySeverity severity l).Pairwise fun a b => (severity b).rank ≤ (severity a).rank :=
  (List.pairwise_mergeSort (severity_trans severity) (severity_total severity) l).imp of_decide_eq_true

theorem filter_bySeverity (q : α → Bool) (l : List α) :
    (bySeverity severity l).filter q = bySeverity severity (l.filter q) :=
  filter_mergeSort_of_total (severity_trans severity) (severity_total severity) q l

theorem filter_eq_bySeverity (p : Severity) (l : List α) :
    (bySeverity severity l).filter (severity · = p) = l.filter (severity · = p) := by
  refine filter_mergeSort_of_tied (fun a _ b _ c _ => severity_trans severity a b c)
    (fun a _ b _ => severity_total severity a b) ?_
  intro a _ b _ ha hb
  have hsame : severity b = severity a := (of_decide_eq_true hb).trans (of_decide_eq_true ha).symm
  exact decide_eq_true (Nat.le_of_eq (congrArg Severity.rank hsame))

theorem map_bySeverity (g : β → α) (l : List β) :
    (bySeverity (fun b => severity (g b)) l).map g = bySeverity severity (l.map g) :=
  List.map_mergeSort fun _ _ _ _ => rfl

end BySeverity

/-! ### The sources of recommendations -/

namespace Recommendation

/-- What the findings require, the risks of the dependencies, or the optimizations. -/
def givenBy (fs : List Finding) (d : Dependencies) (r : Optimizations) : RecommendationSource → List Recommendation
  | .idiom => fs.flatMap fun f => f.requirements.map (ofRequirement f)
  | .dependency => d.risks.map ofRisk
  | .optimization => r.recommendations.map ofOptimization

variable {fs : List Finding} {d : Dependencies} {r : Optimizations}

theorem source_of_mem_givenBy : ∀ {k : RecommendationSource} {x : Recommendation}, x ∈ givenBy fs d r k → x.source = k
  | .idiom, x, h => by
    obtain ⟨f, -, hx⟩ := List.mem_flatMap.mp h
    obtain ⟨q, -, rfl⟩ := List.mem_map.mp hx
    rfl
  | .dependency, x, h => by
    obtain ⟨risk, -, rfl⟩ := List.mem_map.mp h
    rfl
  | .optimization, x, h => by
    obtain ⟨o, -, rfl⟩ := List.mem_map.mp h
    rfl

theorem filter_source_givenBy (k k' : RecommendationSource) :
    (givenBy fs d r k).filter (·.source = k') = if k = k' then givenBy fs d r k else [] := by
  split
  · rename_i hsame
    exact List.filter_eq_self.mpr fun x hx => decide_eq_true ((source_of_mem_givenBy hx).trans hsame)
  · rename_i hother
    refine List.filter_eq_nil_iff.mpr fun x hx h => hother ?_
    exact (source_of_mem_givenBy hx).symm.trans (of_decide_eq_true h)

theorem filter_source_collect (k : RecommendationSource) :
    (collect fs d r).filter (·.source = k) = givenBy fs d r k := by
  have hcollect : collect fs d r =
      givenBy fs d r .idiom ++ givenBy fs d r .dependency ++ givenBy fs d r .optimization := rfl
  rw [hcollect, List.filter_append, List.filter_append, filter_source_givenBy, filter_source_givenBy,
    filter_source_givenBy]
  cases k <;> simp

/-- The recommendations of one source come as if they had been ranked alone. -/
theorem filter_source_rank (k : RecommendationSource) :
    (rank fs d r).filter (·.source = k) = bySeverity (·.priority) (givenBy fs d r k) := by
  have hrank : rank fs d r = bySeverity (·.priority) (collect fs d r) := rfl
  rw [hrank, filter_bySeverity, filter_source_collect]

theorem filter_grave_rank : (rank fs d r).filter (fun x =>
    x.source = .idiom ∧ (x.priority = .high ∨ x.priority = .critical)) =
      bySeverity (·.priority) ((givenBy fs d r .idiom).filter (·.priority.isGrave)) := by
  have hgrave : ∀ s : Severity, s.isGrave = true ↔ s = .high ∨ s = .critical := by
    intro s
    cases s <;> decide
  rw [← filter_bySeverity, ← filter_source_rank, List.filter_filter]
  refine List.filter_congr fun x _ => ?_
  rw [Bool.eq_iff_iff, Bool.and_eq_true, decide_eq_true_iff, decide_eq_true_iff, hgrave, and_comm]

end Recommendation

/-! ### Optimizations in a plan -/

namespace Plan

theorem optimizations_eq {o : Options} (h : o.includeOptimizations = true) (r : Optimizations) :
    o.optimizations r = bySeverity (·.priority) r.recommendations := by
  rw [Options.optimizations, if_pos h]
  rfl

theorem drop_phases {s : Settings.Plan} {a : Analysis} {d : Dependencies} {r : Optimizations} {o : Options}
    {plan : Plan} (h : make s a d r o = .ok plan) :
    plan.phases.drop (a.outline.stages.length + d.phases.length) =
      Phase.numberedFrom (a.outline.stages.length + d.phases.length) ((o.optimizations r).map (.ofOptimization s)) := by
  obtain ⟨duration, -, rfl⟩ := make_eq_ok_iff.mp h
  dsimp only
  rw [phasesOf_eq]
  refine List.drop_left' ?_
  rw [List.length_append, strategyOf, Phase.length_numberedFrom, Phase.length_numberedFrom, List.length_map,
    List.length_map]

end Plan

namespace Recommendation

/-- Ranking merges what the findings require, the risks of the dependencies and the optimizations, by descending
    priority and equal ones in this order. A plan can be made if its hours can be told, and one with optimizations ends
    in a phase for each of those that are ranked, in the order of the ranking. -/
theorem rank_merges (a : Analysis) (d : Dependencies) (r : Optimizations) :
    let given := a.findings.flatMap (fun f => f.requirements.map (ofRequirement f)) ++ d.risks.map ofRisk ++
      r.recommendations.map ofOptimization
    let ranked := rank a.findings d r
    ranked.Perm given ∧
    ranked.Pairwise (fun x y => y.priority.rank ≤ x.priority.rank) ∧
    (∀ p, ranked.filter (·.priority = p) = given.filter (·.priority = p)) ∧
    ∀ (s : Settings.Plan) (o : Options),
      ((∃ plan, Plan.make s a d r o = .ok plan) ↔
        ∃ hours, Plan.durationOf s a.effort.total (o.optimizations r).length = .ok hours) ∧
      ∀ plan, Plan.make s a d r o = .ok plan → o.includeOptimizations = true →
        (plan.phases.drop (a.outline.stages.length + d.phases.length)).map
            (fun p => (p.title, p.description, p.tasks)) =
          (ranked.filter (·.source = .optimization)).map
            (fun x => ("Apply " ++ x.title, x.description, x.actionItems)) := by
  refine ⟨bySeverity_perm _ _, pairwise_bySeverity _ _, fun p => filter_eq_bySeverity _ p _, fun s o =>
    ⟨Plan.exists_make_iff, fun plan hplan ho => ?_⟩⟩
  rw [Plan.drop_phases hplan, Phase.map_numberedFrom fun _ _ => rfl, Plan.optimizations_eq ho, List.map_map,
    filter_source_rank, givenBy, ← map_bySeverity, List.map_map]
  rfl

/-- An analysis that finds pipelines, which require a change of low severity and one of high. -/
def twoChanges : Analysis :=
  { Analysis.empty .ioredis with
    findings := [⟨.pipeline, 1, [], .simple, [⟨.syntactic, .low, "New names", "", "Rename calls", none⟩,
      ⟨.behavioral, .high, "New results", "", "Unwrap results", none⟩], []⟩] }

/-- Two optimizations of high priority behind one of low. -/
def lowFirst : Optimizations :=
  ⟨[⟨"Tuning", "", .low, []⟩, ⟨"Caching", "", .high, ["Add a cache"]⟩, ⟨"Batching", "", .high, []⟩]⟩

/-- Of high priority are the second change and then the last two optimizations. The plan ends as the ranking says. -/
theorem rank_merges_lowFirst : ∃ plan, Plan.make {} twoChanges Plan.swapping lowFirst {} = .ok plan ∧
    ({} : Options).includeOptimizations = true ∧
    ((rank twoChanges.findings Plan.swapping lowFirst).filter (·.priority = .high)).map (·.title) =
      ["pipeline: New results", "Caching", "Batching"] ∧
    (plan.phases.drop 1).map (fun p => (p.title, p.description, p.tasks)) =
      ((rank twoChanges.findings Plan.swapping lowFirst).filter (·.source = .optimization)).map
        (fun x => ("Apply " ++ x.title, x.description, x.actionItems)) := by
  obtain ⟨plan, hplan⟩ : ∃ plan, Plan.make {} twoChanges Plan.swapping lowFirst {} = .ok plan := by
    have hcount : (Options.optimizations {} lowFirst).length = 3 := (Plan.optimizations_perm {} lowFirst).length_eq
    have hduration : Plan.durationOf {} twoChanges.effort.total 3 = .ok "14-21 hours" := rfl
    exact Plan.exists_make_iff.mpr ⟨_, hcount ▸ hduration⟩
  obtain ⟨-, -, hhigh, hends⟩ := rank_merges twoChanges Plan.swapping lowFirst
  refine ⟨plan, hplan, rfl, ?_, (hends {} {}).2 plan hplan rfl⟩
  rw [hhigh .high]
  rfl

end Recommendation

/-! ### Risks -/

/-- The risk speaks of the surface of the migration. -/
def Risk.isSurface (r : Risk) : Bool := "Large migration surface".toList.isPrefixOf r.risk.toList

namespace Outline

variable {fs : List Finding} {c : Complexity}

theorem isSurface_surfaceRisk (fs : List Finding) (c : Complexity) : (surfaceRisk fs c).isSurface = true := by
  have hrisk : (surfaceRisk fs c).risk = "Large migration surface: " ++ toString c.relevantLines ++
      " dialect-touching lines across " ++ toString fs.length ++ " pattern types" := rfl
  have hbegins : "Large migration surface".toList <+: "Large migration surface: ".toList := by decide
  rw [Risk.isSurface, List.isPrefixOf_iff_prefix, hrisk]
  simp only [String.toList_append, List.append_assoc]
  exact hbegins.trans (List.prefix_append _ _)

/-- The risk of a finding begins with the name of its idiom. -/
theorem isSurface_eq_false {r : Risk} (h : r ∈ fs.flatMap findingRisks) : r.isSurface = false := by
  obtain ⟨f, -, hr⟩ := List.mem_flatMap.mp h
  obtain ⟨q, -, rfl⟩ := List.mem_map.mp hr
  rw [Risk.isSurface, String.toList_append, String.toList_append]
  cases f.idiom <;> rfl

theorem risksOf_cases (fs : List Finding) (c : Complexity) :
    ((c.band = .high ∨ c.band = .veryHigh) ∧ risksOf fs c = fs.flatMap findingRisks ++ [surfaceRisk fs c]) ∨
    (¬(c.band = .high ∨ c.band = .veryHigh) ∧ risksOf fs c = fs.flatMap findingRisks) := by
  have hlarge : c.band.isLarge = true ↔ c.band = .high ∨ c.band = .veryHigh := by
    cases c.band <;> decide
  rw [risksOf, ← hlarge]
  split
  · rename_i h
    exact Or.inl ⟨h, rfl⟩
  · rename_i h
    exact Or.inr ⟨h, List.append_nil _⟩

theorem exists_isSurface_iff : (∃ r ∈ risksOf fs c, r.isSurface = true) ↔ c.band = .high ∨ c.band = .veryHigh := by
  obtain ⟨hlarge, hrisks⟩ | ⟨hsmall, hrisks⟩ := risksOf_cases fs c
  · refine iff_of_true ⟨surfaceRisk fs c, ?_, isSurface_surfaceRisk fs c⟩ hlarge
    rw [hrisks]
    exact List.mem_append_right _ (List.mem_singleton_self _)
  · refine iff_of_false ?_ hsmall
    rintro ⟨r, hr, hsurface⟩
    rw [isSurface_eq_false (hrisks ▸ hr)] at hsurface
    cases hsurface

theorem eq_surfaceRisk {before behind : List Risk} {r : Risk} (h : risksOf fs c = before ++ r :: behind)
    (hsurface : r.isSurface = true) : r = surfaceRisk fs c ∧ behind = [] ∧ before = fs.flatMap findingRisks := by
  have hnot : r ∉ fs.flatMap findingRisks := by
    intro hr
    rw [isSurface_eq_false hr] at hsurface
    cases hsurface
  obtain ⟨-, hrisks⟩ | ⟨-, hrisks⟩ := risksOf_cases fs c
  · rw [hrisks] at h
    rcases List.eq_nil_or_concat behind with rfl | ⟨inner, last, rfl⟩
    · obtain ⟨hbefore, hlast⟩ := List.append_inj' h rfl
      cases hlast
      exact ⟨rfl, rfl, hbefore.symm⟩
    · -- A risk behind this one would be the last, and this one a finding's.
      rw [List.concat_eq_append, ← List.cons_append, ← List.append_assoc] at h
      obtain ⟨hfindings, -⟩ := List.append_inj' h rfl
      exact absurd (hfindings ▸ List.mem_append_right _ List.mem_cons_self) hnot
  · rw [hrisks] at h
    exact absurd (h ▸ List.mem_append_right _ List.mem_cons_self) hnot

theorem filter_risksOf (fs : List Finding) (c : Complexity) :
    (risksOf fs c).filter (!·.isSurface) = fs.flatMap findingRisks := by
  have hkept : (fs.flatMap findingRisks).filter (!·.isSurface) = fs.flatMap findingRisks := by
    refine List.filter_eq_self.mpr fun r hr => ?_
    rw [isSurface_eq_false hr]
    rfl
  obtain ⟨-, hrisks⟩ | ⟨-, hrisks⟩ := risksOf_cases fs c
  · have hdropped : [surfaceRisk fs c].filter (!·.isSurface) = [] := by
      rw [List.filter_singleton, isSurface_surfaceRisk]
      rfl
    rw [hrisks, List.filter_append, hkept, hdropped, List.append_nil]
  · rw [hrisks, hkept]

/-- The risks of findings say what the recommendations for their grave requirements do. -/
theorem map_findingRisks (fs : List Finding) (d : Dependencies) (o : Optimizations) :
    (fs.flatMap findingRisks).map (fun r => (r.risk, r.impact, [r.mitigation])) =
      ((Recommendation.givenBy fs d o .idiom).filter (·.priority.isGrave)).map
        fun x => (x.title, x.priority, x.actionItems) := by
  rw [Recommendation.givenBy, List.filter_flatMap, List.map_flatMap, List.map_flatMap]
  refine congrArg (fs.flatMap ·) (funext fun f => ?_)
  rw [findingRisks, List.filter_map, List.map_map, List.map_map]
  rfl

/-- Apart from the surface of the migration, the risks by descending impact are the recommendations for findings of high
    or critical priority, in the order of the ranking: they say the same, are as grave and have the same remedy. The
    surface is a risk of the large bands only, and then the last and the only one of its kind. -/
theorem risks_agree (fs : List Finding) (c : Complexity) (d : Dependencies) (o : Optimizations) :
    (bySeverity (·.impact) ((risksOf fs c).filter (!·.isSurface))).map (fun r => (r.risk, r.impact, [r.mitigation])) =
      ((Recommendation.rank fs d o).filter fun x =>
        x.source = .idiom ∧ (x.priority = .high ∨ x.priority = .critical)).map
        (fun x => (x.title, x.priority, x.actionItems)) ∧
    ((∃ r ∈ risksOf fs c, r.isSurface = true) ↔ c.band = .high ∨ c.band = .veryHigh) ∧
    ∀ before r behind, risksOf fs c = before ++ r :: behind → r.isSurface = true →
      r = surfaceRisk fs c ∧ behind = [] ∧ ∀ x ∈ before, x.isSurface = false := by
  refine ⟨?_, exists_isSurface_iff, fun before r behind h hsurface => ?_⟩
  · rw [filter_risksOf, Recommendation.filter_grave_rank]
    calc (bySeverity (·.impact) (fs.flatMap findingRisks)).map (fun r => (r.risk, r.impact, [r.mitigation]))
      _ = bySeverity (·.2.1) ((fs.flatMap findingRisks).map fun r => (r.risk, r.impact, [r.mitigation])) :=
        map_bySeverity (·.2.1) (fun r : Risk => (r.risk, r.impact, [r.mitigation])) _
      _ = bySeverity (·.2.1) (((Recommendation.givenBy fs d o .idiom).filter (·.priority.isGrave)).map
          fun x => (x.title, x.priority, x.actionItems)) := congrArg (bySeverity (·.2.1)) (map_findingRisks fs d o)
      _ = (bySeverity (·.priority) ((Recommendation.givenBy fs d o .idiom).filter (·.priority.isGrave))).map
          fun x => (x.title, x.priority, x.actionItems) :=
        (map_bySeverity (·.2.1) (fun x : Recommendation => (x.title, x.priority, x.actionItems)) _).symm
  · obtain ⟨hr, hbehind, hbefore⟩ := eq_surfaceRisk h hsurface
    exact ⟨hr, hbehind, fun x hx => isSurface_eq_false (hbefore ▸ hx)⟩

end Outline

end ClientMigration
