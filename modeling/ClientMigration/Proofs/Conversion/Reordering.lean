import ClientMigration.Proofs.Catalog.Interference

/-! # The order of conversions

The order in which the idioms of an ioredis file are converted matters only where a cluster and a call share a letter:
each of the two conversions then takes it from the other. Every other text becomes the same in all orders. -/

namespace ClientMigration
open Text (Substitution)

namespace Catalog

/-! ### Calls that share a letter with a cluster -/

/-- Clusters are converted, and so is a call that shares a letter with one. -/
def Clashing (ids : List Idiom) (text : String) : Prop :=
  .clustering ∈ ids ∧ ∃ c ∈ clashes, c.1 ∈ ids ∧ Text.contains text c.2 = true

/-- The texts that the conversions of some idioms clash on. -/
def clashWords (ids : List Idiom) : List (List Char) :=
  if .clustering ∈ ids then (clashes.filter (·.1 ∈ ids)).map (·.2.toList) else []

theorem mem_clashWords_iff {ids : List Idiom} {w : List Char} :
    w ∈ clashWords ids ↔ .clustering ∈ ids ∧ ∃ c ∈ clashes, c.1 ∈ ids ∧ c.2.toList = w := by
  rw [clashWords]
  split <;> simp [*, and_assoc]

theorem clashing_iff {ids : List Idiom} {text : String} :
    Clashing ids text ↔ ∃ w ∈ clashWords ids, w <:+: text.toList := by
  simp only [Clashing, mem_clashWords_iff, Text.contains_iff]
  constructor
  · rintro ⟨hc, c, hmem, hids, ho⟩
    exact ⟨c.2.toList, ⟨hc, c, hmem, hids, rfl⟩, ho⟩
  · rintro ⟨w, ⟨hc, c, hmem, hids, rfl⟩, ho⟩
    exact ⟨hc, c, hmem, hids, ho⟩

/-! ### Where nothing clashes -/

variable {ids : List Idiom}

theorem mem_clashWords_of_mem_overlaps {i j : Idiom} (hi : i ∈ ids) (hj : j ∈ ids) {σ τ : Substitution}
    (hσ : σ ∈ builtinSubstitutions .ioredis i) (hτ : τ ∈ builtinSubstitutions .ioredis j) (hne : σ ≠ τ)
    (hσi : ¬σ.Idle) (hτi : ¬τ.Idle) {w : List Char} (hw : w ∈ Text.overlaps σ.target τ.target) :
    w ∈ clashWords ids := by
  rcases interference.ioredis_overlaps i j σ hσ hσi τ hτ hτi with hapart | heq | hclash
  · rw [hapart.left] at hw
    cases hw
  · exact absurd heq hne
  · obtain ⟨rfl, c, hc, rfl, hcw⟩ := hclash w hw
    exact mem_clashWords_iff.mpr ⟨hi, c, hc, hj, hcw⟩

/-- In a text without a clash the substitutions change places. -/
theorem ioredis_apply_comm {text : List Char} (hfree : ∀ w ∈ clashWords ids, ¬w <:+: text) {σ τ : Substitution}
    (hσ : σ ∈ ids.flatMap (builtinSubstitutions .ioredis)) (hτ : τ ∈ ids.flatMap (builtinSubstitutions .ioredis)) :
    σ.apply (τ.apply text) = τ.apply (σ.apply text) := by
  obtain ⟨i, hi, hσ⟩ := List.mem_flatMap.mp hσ
  obtain ⟨j, hj, hτ⟩ := List.mem_flatMap.mp hτ
  by_cases heq : σ = τ
  · rw [heq]
  · refine Substitution.apply_comm fun hσi hτi => ?_
    refine ⟨interference.ioredis_makesNo j i τ hτ hτi σ hσ, interference.ioredis_makesNo i j σ hσ hσi τ hτ, ?_⟩
    rintro ⟨w, hw, ho⟩
    refine hfree w ?_ ho
    rcases List.mem_append.mp hw with hw | hw
    · exact mem_clashWords_of_mem_overlaps hi hj hσ hτ heq hσi hτi hw
    · exact mem_clashWords_of_mem_overlaps hj hi hτ hσ (Ne.symm heq) hτi hσi hw

/-- A text without a clash becomes the same in all orders. -/
theorem ioredis_run_perm {ids' : List Idiom} (hp : ids.Perm ids') {text : List Char}
    (hfree : ∀ w ∈ clashWords ids, ¬w <:+: text) :
    Substitution.run (ids.flatMap (builtinSubstitutions .ioredis)) text =
      Substitution.run (ids'.flatMap (builtinSubstitutions .ioredis)) text := by
  refine Substitution.run_perm (P := fun text => ∀ w ∈ clashWords ids, ¬w <:+: text) (hp.flatMap_right _)
    ?_ ?_ text hfree
  · intro σ hσ text hfree w hw ho
    obtain ⟨j, -, hσ⟩ := List.mem_flatMap.mp hσ
    obtain ⟨-, c, hc, -, hcw⟩ := mem_clashWords_iff.mp hw
    exact hfree w hw (((interference.ioredis_clash j σ hσ).1 w (hcw ▸ List.mem_map_of_mem hc)).infix_of_apply ho)
  · exact fun σ hσ τ hτ text hfree => ioredis_apply_comm hfree hσ hτ

/-! ### Where two conversions clash -/

/-- The text has a call of the idiom, for which its conversion writes `out` if it comes first, to stay for good. -/
def Settles (i : Idiom) (text out : List Char) : Prop :=
  ∃ σ σs n u, builtinSubstitutions .ioredis i = σ :: σs ∧ text = n ++ (σ.target ++ u) ∧ out = n ++ σ.replacement ∧
    σ.FoundAfter n ∧ ∀ j, ∀ τ ∈ builtinSubstitutions .ioredis j, τ.BreaksNo out

theorem Settles.run {i : Idiom} {w out : List Char} (h : Settles i w out) (ids : List Idiom) (a b : List Char) :
    ∃ rest, Substitution.run ((i :: ids).flatMap (builtinSubstitutions .ioredis)) (a ++ (w ++ b)) =
      Substitution.run ((i :: ids).flatMap (builtinSubstitutions .ioredis)) a ++ (out ++ rest) := by
  obtain ⟨σ, σs, n, u, hi, rfl, rfl, hfound, hbreaks⟩ := h
  have hothers : ∀ τ ∈ σs ++ ids.flatMap (builtinSubstitutions .ioredis), τ.BreaksNo (n ++ σ.replacement) := by
    refine List.forall_mem_append.mpr ⟨fun τ hτ => ?_, fun τ hτ => ?_⟩
    · exact hbreaks i τ (hi ▸ List.mem_cons_of_mem σ hτ)
    · obtain ⟨j, -, hτ⟩ := List.mem_flatMap.mp hτ
      exact hbreaks j τ hτ
  rw [List.flatMap_cons, hi, List.cons_append, List.append_assoc n, List.append_assoc σ.target, hfound.run_cons hothers]
  exact ⟨_, rfl⟩

theorem settles_cluster {c : Idiom × String} (hc : c ∈ clashes) :
    Settles .clustering c.2.toList clusterCall.replacement := by
  obtain ⟨⟨u, hu⟩, hfound, -⟩ := interference.clash_parts c hc
  exact ⟨clusterCall, _, [], u, rfl, hu.symm, rfl, hfound clusterCall List.mem_cons_self,
    fun j τ hτ => (interference.ioredis_clash j τ hτ).2.1⟩

theorem settles_call {c : Idiom × String} (hc : c ∈ clashes) : Settles c.1 c.2.toList besideCluster := by
  have hne : ∀ i, builtinSubstitutions .ioredis i ≠ [] := by
    simp only [builtinSubstitutions_spelled]
    decide
  obtain ⟨σ, σs, hσ⟩ := List.exists_cons_of_ne_nil (hne c.1)
  obtain ⟨hfound, hword, hout⟩ := (interference.clash_parts c hc).2.2 σ (by rw [hσ]; rfl)
  refine ⟨σ, σs, beforeCall, [], hσ, ?_, hout, hfound, fun j τ hτ => (interference.ioredis_clash j τ hτ).2.2⟩
  rw [List.append_nil, hword]

/-- Before a clash nothing shows which of the two came first, and after it the texts differ. -/
theorem run_ne_of_clash {c : Idiom × String} (hc : c ∈ clashes) {ids₁ ids₂ : List Idiom} {a : List Char} (b : List Char)
    (ha : Substitution.run ((.clustering :: ids₁).flatMap (builtinSubstitutions .ioredis)) a =
      Substitution.run ((c.1 :: ids₂).flatMap (builtinSubstitutions .ioredis)) a) :
    Substitution.run ((.clustering :: ids₁).flatMap (builtinSubstitutions .ioredis)) (a ++ (c.2.toList ++ b)) ≠
      Substitution.run ((c.1 :: ids₂).flatMap (builtinSubstitutions .ioredis)) (a ++ (c.2.toList ++ b)) := by
  obtain ⟨rest₁, hrun₁⟩ := (settles_cluster hc).run ids₁ a b
  obtain ⟨rest₂, hrun₂⟩ := (settles_call hc).run ids₂ a b
  have hG : ∃ r, clusterCall.replacement = 'G' :: r := ⟨_, String.toList_ofList⟩
  have hn : ∃ r, besideCluster = 'n' :: r := ⟨_, String.toList_ofList⟩
  obtain ⟨r₁, hG⟩ := hG
  obtain ⟨r₂, hn⟩ := hn
  rw [hrun₁, hrun₂, ha, Ne, List.append_cancel_left_eq, hG, hn]
  simp

/-- A text with a clash becomes another if clusters come first than if the calls do. -/
theorem exists_run_ne {text : List Char} (h : ∃ w ∈ clashWords ids, w <:+: text) :
    ∃ ids₁ ids₂ : List Idiom, ids₁.Perm ids ∧ ids₂.Perm ids ∧
      Substitution.run (ids₁.flatMap (builtinSubstitutions .ioredis)) text ≠
        Substitution.run (ids₂.flatMap (builtinSubstitutions .ioredis)) text := by
  have hne : ∀ w ∈ clashWords ids, w ≠ [] := by
    intro w hw
    obtain ⟨-, c, hc, -, rfl⟩ := mem_clashWords_iff.mp hw
    have hmem : c.2.toList ∈ clashes.map (·.2.toList) := List.mem_map_of_mem hc
    rw [clashes_spelled] at hmem
    exact (by decide : ∀ w ∈ clashSpelling.spelled, w ≠ []) _ hmem
  -- Up to the first clash the orders agree, so there the two outcomes can be compared.
  obtain ⟨w, hw, a, b, rfl, hfree⟩ := Text.exists_first_infix hne h
  obtain ⟨hclusters, c, hc, hcall, rfl⟩ := mem_clashWords_iff.mp hw
  have hp₁ := List.perm_cons_erase hclusters
  have hp₂ := List.perm_cons_erase hcall
  refine ⟨_, _, hp₁.symm, hp₂.symm, run_ne_of_clash hc b ?_⟩
  rw [← ioredis_run_perm hp₁ hfree, ← ioredis_run_perm hp₂ hfree]

end Catalog

/-! ### Analyses that find the same -/

open Catalog

/-- The analysis has built-in findings of some idioms, in whatever order. -/
structure Analysis.Finds (a : Analysis) (d : Dialect) (ids : List Idiom) : Prop where
  dialect : a.dialect = d
  builtin : ∀ f ∈ a.findings, f.IsBuiltin
  idioms : (a.findings.map (·.idiom)).Perm ids

/-- Built-in findings of some idioms, in their order. -/
def Analysis.finding (d : Dialect) (ids : List Idiom) : Analysis :=
  { Analysis.empty d with
    findings := ids.map fun i =>
      Finding.ofSightings {} (builtinOf i) [{ first := 0, last := 0, line := 0, code := "" }] }

theorem Analysis.idioms_finding (d : Dialect) (ids : List Idiom) :
    (Analysis.finding d ids).findings.map (·.idiom) = ids := by
  rw [Analysis.finding, List.map_map]
  exact (List.map_congr_left fun i _ => idiom_builtinOf i).trans (List.map_id ids)

theorem Analysis.finds_finding {d : Dialect} {ids ids' : List Idiom} (hp : ids.Perm ids') :
    (Analysis.finding d ids).Finds d ids' := by
  refine ⟨rfl, fun f hf => ?_, ?_⟩
  · obtain ⟨i, -, rfl⟩ := List.mem_map.mp hf
    exact ⟨List.cons_ne_nil _ _, builtinOf i, builtinOf_mem i, rfl, rfl, rfl, rfl⟩
  · rwa [Analysis.idioms_finding]

namespace ConvertedFile

theorem toList_code_ioredis {a : Analysis} {ids : List Idiom} (h : a.Finds .ioredis ids) (s : Settings.Conversion)
    (text name : String) : (made s text a name).code.toList =
      Substitution.run ((a.findings.map (·.idiom)).flatMap (builtinSubstitutions .ioredis)) text.toList := by
  rw [toList_code_builtin h.builtin, h.dialect, Rename.forDialect, List.map_nil, List.append_nil]

/-- The findings of some idioms of an ioredis file give the same code in all orders exactly if no call in the
    text shares a letter with a cluster. -/
theorem code_eq_in_every_order_iff (ids : List Idiom) (s : Settings.Conversion) (text name : String) :
    (∀ a₁ a₂ : Analysis, a₁.Finds .ioredis ids → a₂.Finds .ioredis ids →
      ∃ f₁ f₂, convert s text a₁ name = .ok f₁ ∧ convert s text a₂ name = .ok f₂ ∧ f₁.code = f₂.code) ↔
    ¬Clashing ids text := by
  rw [clashing_iff]
  constructor
  · intro hsame hclash
    obtain ⟨ids₁, ids₂, hp₁, hp₂, hne⟩ := exists_run_ne hclash
    have h₁ := @Analysis.finds_finding .ioredis _ _ hp₁
    have h₂ := @Analysis.finds_finding .ioredis _ _ hp₂
    obtain ⟨f₁, f₂, hf₁, hf₂, hcode⟩ := hsame _ _ h₁ h₂
    rw [convert_builtin_eq_ok h₁.builtin, Except.ok.injEq] at hf₁
    rw [convert_builtin_eq_ok h₂.builtin, Except.ok.injEq] at hf₂
    subst hf₁ hf₂
    rw [← String.toList_inj, toList_code_ioredis h₁, toList_code_ioredis h₂, Analysis.idioms_finding,
      Analysis.idioms_finding] at hcode
    exact hne hcode
  · intro hclash a₁ a₂ h₁ h₂
    have hfree : ∀ w ∈ clashWords ids, ¬w <:+: text.toList := fun w hw ho => hclash ⟨w, hw, ho⟩
    refine ⟨_, _, convert_builtin_eq_ok h₁.builtin s text name, convert_builtin_eq_ok h₂.builtin s text name, ?_⟩
    rw [← String.toList_inj, toList_code_ioredis h₁, toList_code_ioredis h₂, ← ioredis_run_perm h₁.idioms.symm hfree,
      ← ioredis_run_perm h₂.idioms.symm hfree]

/-- A call that begins in the last letter of a cluster is converted, or the cluster is, but not both. -/
theorem code_ne_for_shared_letter : ∃ a₁ a₂ : Analysis,
    a₁.Finds .ioredis [.pipeline, .clustering] ∧ a₂.Finds .ioredis [.pipeline, .clustering] ∧
    ∃ f₁ f₂, convert {} "new Redis.Clusteredis.pipeline()" a₁ "a.ts" = .ok f₁ ∧
      convert {} "new Redis.Clusteredis.pipeline()" a₂ "a.ts" = .ok f₂ ∧ f₁.code ≠ f₂.code := by
  have h₁ := @Analysis.finds_finding .ioredis _ _ (List.Perm.swap Idiom.pipeline .clustering [])
  have h₂ := @Analysis.finds_finding .ioredis _ _ (List.Perm.refl [Idiom.pipeline, .clustering])
  refine ⟨_, _, h₁, h₂, _, _, convert_builtin_eq_ok h₁.builtin _ _ _, convert_builtin_eq_ok h₂.builtin _ _ _, ?_⟩
  rw [Ne, ← String.toList_inj, toList_code_ioredis h₁, toList_code_ioredis h₂, Analysis.idioms_finding,
    Analysis.idioms_finding]
  have hc : (.pipeline, "new Redis.Clusteredis.pipeline()") ∈ clashes := List.mem_cons_self
  have hne := @run_ne_of_clash _ hc [.pipeline] [.clustering] [] []
  rw [List.nil_append, List.append_nil, Substitution.run_empty, Substitution.run_empty] at hne
  exact hne rfl

end ConvertedFile

end ClientMigration
