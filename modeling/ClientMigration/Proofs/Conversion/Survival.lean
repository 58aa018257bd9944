import ClientMigration.Proofs.Catalog.Interference

/-! # Targets that survive

Once an idiom is converted, nothing that its conversion looks for is left in the file, with one exception: where
node-redis transactions are converted after pipelines, `redis.multi()` becomes `client.multi()`, which the
conversion of pipelines was to remove. -/

namespace ClientMigration
open Text (Substitution)
open Catalog

/-- Before the last `b` of a list stands `a` exactly if `a` and `b` occur in this order. -/
theorem pair_sublist_iff_mem {α : Type} {a b : α} {after : List α} (hb : b ∉ after) :
    ∀ {before : List α}, [a, b].Sublist (before ++ b :: after) ↔ a ∈ before
  | [] => by
    refine iff_of_false (fun h => hb ?_) List.not_mem_nil
    exact h.tail.subset List.mem_cons_self
  | x :: before => by
    rw [List.cons_append, List.sublist_cons_iff, pair_sublist_iff_mem hb, List.mem_cons, or_comm]
    refine or_congr_left ⟨?_, ?_⟩
    · rintro ⟨r, hr, -⟩
      exact (List.cons.inj hr).1
    · rintro rfl
      exact ⟨[b], rfl, List.singleton_sublist.mpr (List.mem_append_right before List.mem_cons_self)⟩

namespace Catalog

/-! ### The hand-over from transactions to pipelines -/

/-- What the conversion of node-redis transactions looks for. -/
def boundMulti : List Char := "redis.multi()".toList

/-- What it writes, and what the conversion of node-redis pipelines looks for. -/
def clientMulti : List Char := "client.multi()".toList

theorem nodeRedis_transaction : builtinSubstitutions .nodeRedis .transaction = [⟨boundMulti, clientMulti⟩] := rfl

theorem nodeRedis_pipeline : ∃ r, ⟨clientMulti, r⟩ ∈ builtinSubstitutions .nodeRedis .pipeline ∧
    ¬(⟨clientMulti, r⟩ : Substitution).Idle :=
  ⟨"new Transaction()".toList, List.mem_cons_self, by decide⟩

theorem nodeRedis_clustering : ∃ τ ≠ clusterCall, builtinSubstitutions .nodeRedis .clustering = [clusterCall, τ] :=
  ⟨⟨"createCluster(".toList, _⟩, by decide, rfl⟩

theorem clusterCall_mem : clusterCall ∈ builtinSubstitutions .nodeRedis .clustering := by
  obtain ⟨τ, -, h⟩ := nodeRedis_clustering
  rw [h]
  exact List.mem_cons_self

/-- Besides the conversion of transactions only `new Redis.Cluster` has to do with a `redis.multi()`. -/
theorem nodeRedis_boundMulti {j : Idiom} (hj : j ≠ .transaction) {τ : Substitution}
    (hτ : τ ∈ builtinSubstitutions .nodeRedis j) (hne : j = .clustering → τ ≠ clusterCall) :
    τ.MakesNo boundMulti ∧ τ.BreaksNo boundMulti := by
  have hmem : ⟨boundMulti, clientMulti⟩ ∈ builtinSubstitutions .nodeRedis .transaction :=
    nodeRedis_transaction ▸ List.mem_cons_self
  have hidle : ¬(⟨boundMulti, clientMulti⟩ : Substitution).Idle := by decide
  have hbreaks := interference.nodeRedis_breaksNo .transaction j (Ne.symm hj) (by simp) _ hmem hidle τ hτ
  exact ⟨interference.nodeRedis_makesNo .transaction j (by simp) _ hmem hidle τ hτ,
    hbreaks.resolve_left fun h => hne h.2.1 h.2.2⟩

variable {ids : List Idiom} {text : List Char}

/-- Without transactions to convert, neither conversions nor renames make a `client.multi()`. -/
theorem makesNo_clientMulti (ht : .transaction ∉ ids) : ∀ τ ∈ ids.flatMap (builtinSubstitutions .nodeRedis) ++
    (Rename.forDialect .nodeRedis).map (·.substitution), τ.MakesNo clientMulti := by
  obtain ⟨r, hr, hidle⟩ := nodeRedis_pipeline
  refine List.forall_mem_append.mpr ⟨fun τ hτ => ?_, fun τ hτ => ?_⟩
  · obtain ⟨j, hj, hτ⟩ := List.mem_flatMap.mp hτ
    exact interference.nodeRedis_makesNo _ j (Or.inr fun hjt => ht (hjt ▸ hj)) _ hr hidle τ hτ
  · exact (interference.rename_apart _ .pipeline _ hr τ hτ).1

/-- The conversion of pipelines leaves no `client.multi()`, unless transactions are converted too. -/
theorem not_infix_clientMulti (hp : .pipeline ∈ ids) (ht : .transaction ∉ ids) (text : List Char) :
    ¬clientMulti <:+: Substitution.run (ids.flatMap (builtinSubstitutions .nodeRedis)) text := by
  obtain ⟨r, hr, hidle⟩ := nodeRedis_pipeline
  exact Substitution.not_infix_run_of_mem hidle (List.mem_flatMap.mpr ⟨.pipeline, hp, hr⟩)
    (fun τ hτ => makesNo_clientMulti ht τ (List.mem_append_left _ hτ)) text

theorem not_infix_clientMulti_renamed (hp : .pipeline ∈ ids) (ht : .transaction ∉ ids) (text : List Char) :
    ¬clientMulti <:+: Substitution.run (ids.flatMap (builtinSubstitutions .nodeRedis) ++
      (Rename.forDialect .nodeRedis).map (·.substitution)) text := by
  rw [Substitution.run_append]
  exact fun ho => not_infix_clientMulti hp ht text
    (Substitution.infix_of_run (fun τ hτ => makesNo_clientMulti ht τ (List.mem_append_right _ hτ)) ho)

/-- Later conversions of other idioms and the renames leave every `client.multi()` and make none. -/
theorem infix_clientMulti_iff (hp : .pipeline ∉ ids) (ht : .transaction ∉ ids) :
    clientMulti <:+: Substitution.run (ids.flatMap (builtinSubstitutions .nodeRedis) ++
      (Rename.forDialect .nodeRedis).map (·.substitution)) text ↔ clientMulti <:+: text := by
  obtain ⟨r, hr, hidle⟩ := nodeRedis_pipeline
  refine ⟨Substitution.infix_of_run (makesNo_clientMulti ht), Substitution.infix_run ?_⟩
  refine List.forall_mem_append.mpr ⟨fun τ hτ => ?_, fun τ hτ => (interference.rename_apart _ _ _ hr τ hτ).2⟩
  obtain ⟨j, hj, hτ⟩ := List.mem_flatMap.mp hτ
  have hother : .pipeline ≠ j := fun hjp => hp (hjp ▸ hj)
  exact (interference.nodeRedis_breaksNo .pipeline j hother (by simp) _ hr hidle τ hτ).resolve_left (by simp)

/-- Where no `client.multi()` stands, the conversion of transactions writes one exactly if it finds a call. -/
theorem infix_clientMulti_transaction_iff (h : ¬clientMulti <:+: text) :
    clientMulti <:+: Substitution.run (builtinSubstitutions .nodeRedis .transaction) text ↔ boundMulti <:+: text := by
  rw [nodeRedis_transaction, Substitution.run_cons, Substitution.run_nil]
  constructor
  · intro ho
    refine Classical.byContradiction fun hno => h ?_
    rwa [Substitution.apply_of_not_infix hno] at ho
  · intro ho
    have hne : boundMulti ≠ [] := by decide
    rw [Substitution.apply_of_ne_nil hne]
    exact Text.infix_replaceAll hne text ho

/-! ### What the conversion of transactions finds -/

theorem infix_boundMulti_iff (ht : .transaction ∉ ids) (hc : .clustering ∉ ids) :
    boundMulti <:+: Substitution.run (ids.flatMap (builtinSubstitutions .nodeRedis)) text ↔ boundMulti <:+: text := by
  have h : ∀ τ ∈ ids.flatMap (builtinSubstitutions .nodeRedis), τ.MakesNo boundMulti ∧ τ.BreaksNo boundMulti := by
    intro τ hτ
    obtain ⟨j, hj, hτ⟩ := List.mem_flatMap.mp hτ
    exact nodeRedis_boundMulti (fun h => ht (h ▸ hj)) hτ fun h => absurd (h ▸ hj) hc
  exact ⟨Substitution.infix_of_run fun τ hτ => (h τ hτ).1, Substitution.infix_run fun τ hτ => (h τ hτ).2⟩

theorem clusterCall_run (ht : .transaction ∉ ids) (hc : .clustering ∉ ids) :
    clusterCall.apply (Substitution.run (ids.flatMap (builtinSubstitutions .nodeRedis)) text) =
      Substitution.run (ids.flatMap (builtinSubstitutions .nodeRedis)) (clusterCall.apply text) := by
  refine Substitution.apply_run_comm (fun τ hτ => ?_) text
  obtain ⟨j, hj, hτ⟩ := List.mem_flatMap.mp hτ
  have hjt : j ≠ .transaction := fun h => ht (h ▸ hj)
  have hjc : .clustering ≠ j := fun h => hc (h ▸ hj)
  refine fun text => Substitution.apply_comm fun hcluster hidle => ?_
  have hb := interference.nodeRedis_breaksNo .clustering j hjc (by simp [hjt]) _ clusterCall_mem hcluster τ hτ
  have hb := hb.resolve_left (by simp)
  exact ⟨interference.nodeRedis_makesNo j .clustering (by simp) τ hτ hidle _ clusterCall_mem,
    interference.nodeRedis_makesNo .clustering j (by simp) _ clusterCall_mem hcluster τ hτ,
    (hb.resolve_left hidle).not_meet⟩

/-- A `redis.multi()` reaches the conversion of transactions unless a cluster before it took its first letter. -/
theorem infix_boundMulti_run_iff (hn : ids.Nodup) (ht : .transaction ∉ ids) :
    boundMulti <:+: Substitution.run (ids.flatMap (builtinSubstitutions .nodeRedis)) text ↔
      boundMulti <:+: if .clustering ∈ ids then clusterCall.apply text else text := by
  by_cases hc : .clustering ∈ ids
  · rw [if_pos hc]
    obtain ⟨before, after, rfl⟩ := List.append_of_mem hc
    rw [List.mem_append, List.mem_cons, not_or, not_or] at ht
    rw [List.nodup_append, List.nodup_cons] at hn
    obtain ⟨htbefore, -, htafter⟩ := ht
    obtain ⟨-, ⟨hafter, -⟩, hapart⟩ := hn
    have hbefore : .clustering ∉ before := fun h => hapart _ h _ List.mem_cons_self rfl
    obtain ⟨τ, hτ, hclusters⟩ := nodeRedis_clustering
    have hmem : τ ∈ builtinSubstitutions .nodeRedis .clustering := by simp [hclusters]
    obtain ⟨hmakes, hbreaks⟩ := nodeRedis_boundMulti (by decide) hmem fun _ => hτ
    rw [List.flatMap_append, List.flatMap_cons, Substitution.run_append, Substitution.run_append,
      infix_boundMulti_iff htafter hafter, hclusters, Substitution.run_cons, Substitution.run_cons,
      Substitution.run_nil, clusterCall_run htbefore hbefore]
    rw [← @infix_boundMulti_iff before (clusterCall.apply text) htbefore hbefore]
    exact ⟨hmakes.infix_of_apply, hbreaks.infix_apply⟩
  · rw [if_neg hc, infix_boundMulti_iff ht hc]

/-- The text that the conversion of transactions looks at, as far as `redis.multi()` is concerned. -/
def seenByTransactions (ids : List Idiom) (source : String) : String :=
  if [Idiom.clustering, .transaction].Sublist ids then
    Text.replace source "new Redis.Cluster" "GlideClusterClient.createClient"
  else source

theorem toList_seenByTransactions {before after : List Idiom} (ht : .transaction ∉ after) (source : String) :
    (seenByTransactions (before ++ .transaction :: after) source).toList =
      if .clustering ∈ before then clusterCall.apply source.toList else source.toList := by
  have hne : clusterCall.target ≠ [] := by decide
  simp only [seenByTransactions, pair_sublist_iff_mem ht, Substitution.apply_of_ne_nil hne]
  split
  · rw [Text.replace, String.toList_ofList]
    rfl
  · rfl

/-- After the conversion of pipelines a `client.multi()` stands in the file exactly if transactions were
    converted later and one was there to be converted. -/
theorem infix_clientMulti_run_iff (hn : ids.Nodup) (hp : .pipeline ∈ ids) (source : String) :
    clientMulti <:+: Substitution.run (ids.flatMap (builtinSubstitutions .nodeRedis) ++
      (Rename.forDialect .nodeRedis).map (·.substitution)) source.toList ↔
    [Idiom.pipeline, .transaction].Sublist ids ∧
      Text.contains (seenByTransactions ids source) "redis.multi()" = true := by
  by_cases ht : .transaction ∈ ids
  · obtain ⟨before, after, rfl⟩ := List.append_of_mem ht
    rw [List.nodup_append, List.nodup_cons] at hn
    obtain ⟨hnbefore, ⟨hafter, -⟩, hapart⟩ := hn
    have hbefore : .transaction ∉ before := fun h => hapart _ h _ List.mem_cons_self rfl
    rw [pair_sublist_iff_mem hafter, Text.contains_iff, toList_seenByTransactions hafter, List.flatMap_append,
      List.flatMap_cons, List.append_assoc, List.append_assoc, Substitution.run_append, Substitution.run_append]
    by_cases hpb : .pipeline ∈ before
    · have hpa : .pipeline ∉ after := fun h => hapart _ hpb _ (List.mem_cons_of_mem _ h) rfl
      rw [and_iff_right hpb, infix_clientMulti_iff hpa hafter,
        infix_clientMulti_transaction_iff (not_infix_clientMulti hpb hbefore _),
        infix_boundMulti_run_iff hnbefore hbefore]
      rfl
    · have hpa : .pipeline ∈ after := by simpa [hpb] using hp
      exact iff_of_false (not_infix_clientMulti_renamed hpa hafter _) fun h => hpb h.1
  · exact iff_of_false (not_infix_clientMulti_renamed hp ht _) fun h => ht (h.1.subset (by simp))

/-! ### Every other target -/

/-- Edits that are to change the code do, and only the pipelines of node-redis look for `client.multi()`. -/
theorem builtinRecipe_edits : ∀ d i, ∀ e ∈ (builtinRecipe d i).edits, e.newCode ≠ e.target →
    ¬e.substitution.Idle ∧ (d = .nodeRedis ∧ e.target = "client.multi()" ↔ d = .nodeRedis ∧ i = .pipeline) := by
  decide

/-- The target of a conversion is gone from the file, if it is not that of node-redis pipelines. -/
theorem not_infix_target {d : Dialect} {i : Idiom} (hi : i ∈ ids) (hd : ¬(d = .nodeRedis ∧ i = .pipeline))
    {σ : Substitution} (hσ : σ ∈ builtinSubstitutions d i) (hidle : ¬σ.Idle) (text : List Char) :
    ¬σ.target <:+: Substitution.run (ids.flatMap (builtinSubstitutions d) ++
      (Rename.forDialect d).map (·.substitution)) text := by
  refine Substitution.not_infix_run_of_mem hidle (List.mem_append_left _ (List.mem_flatMap.mpr ⟨i, hi, hσ⟩)) ?_ text
  refine List.forall_mem_append.mpr ⟨fun τ hτ => ?_, fun τ hτ => ?_⟩
  · obtain ⟨j, -, hτ⟩ := List.mem_flatMap.mp hτ
    cases d with
    | ioredis => exact interference.ioredis_makesNo i j σ hσ hidle τ hτ
    | nodeRedis => exact interference.nodeRedis_makesNo i j (Or.inl fun h => hd ⟨rfl, h⟩) σ hσ hidle τ hτ
  · exact (interference.rename_apart d i σ hσ τ hτ).1

end Catalog

namespace ConvertedFile

/-- Nothing that a conversion was to replace is left in the file, but for the `client.multi()` of node-redis
    pipelines, which is there exactly if transactions were converted later and one was there to be converted. -/
theorem contains_target_iff {s : Settings} {t : Detector} (hmake : Detector.make .builtin s = .ok t) (d : Dialect)
    (source name : String) :
    ∃ file, convert s.conversion source (t.analyze source d) name = .ok file ∧
      ∀ f ∈ (t.analyze source d).findings, ∀ e ∈ (f.recipeFor (some d)).edits, e.newCode ≠ e.target →
        (Text.contains file.code e.target = true ↔ (d = .nodeRedis ∧ e.target = "client.multi()") ∧
          [Idiom.pipeline, .transaction].Sublist ((t.analyze source d).findings.map (·.idiom)) ∧
          Text.contains (seenByTransactions ((t.analyze source d).findings.map (·.idiom)) source)
            "redis.multi()" = true) := by
  have hbuiltin := @Detector.isBuiltin_of_make s t hmake source d
  refine ⟨_, convert_builtin_eq_ok hbuiltin s.conversion source name, fun f hf e he hne => ?_⟩
  rw [Text.contains_iff, toList_code_builtin hbuiltin, Detector.dialect_analyze]
  rw [(hbuiltin f hf).recipeFor] at he
  obtain ⟨hidle, hmulti⟩ := builtinRecipe_edits d f.idiom e he hne
  have hmem : f.idiom ∈ (t.analyze source d).findings.map (·.idiom) := List.mem_map_of_mem hf
  rw [hmulti]
  by_cases hd : d = .nodeRedis ∧ f.idiom = .pipeline
  · have htarget : e.target.toList = clientMulti := congrArg String.toList (hmulti.mpr hd).2
    rw [and_iff_right hd, htarget]
    obtain ⟨rfl, hp⟩ := hd
    exact infix_clientMulti_run_iff (Detector.idioms_nodup_of_make hmake source .nodeRedis) (hp ▸ hmem) source
  · exact iff_of_false (not_infix_target hmem hd (List.mem_map_of_mem he) hidle _) fun h => hd h.1

theorem contains_target_iff_default : ∃ t, Detector.make .builtin {} = .ok t ∧
    ∃ file, convert {} "redis.pipeline()" (t.analyze "redis.pipeline()" .ioredis) "a.ts" = .ok file ∧
      ∃ f ∈ (t.analyze "redis.pipeline()" .ioredis).findings, ∃ e ∈ (f.recipeFor (some .ioredis)).edits,
        e.newCode ≠ e.target ∧ Text.contains file.code e.target = false := by
  obtain ⟨t, hmake⟩ := Detector.exists_make_default
  obtain ⟨file, hok, h⟩ := contains_target_iff hmake .ioredis "redis.pipeline()" "a.ts"
  have hzero : ({} : Settings).scoring.threshold.isZero = true := by decide
  have hp : .pipeline ∈ (Finding.detect {} builtin "redis.pipeline()" .ioredis).map (·.idiom) := by
    simp only [Finding.mem_idioms_detect_iff hzero, ← Text.occursIn_iff, builtinTexts_spelled]
    decide +kernel
  obtain ⟨f, hf, hfp⟩ := List.mem_map.mp hp
  rw [← Detector.findings_of_make hmake] at hf
  have hedit : ∃ e ∈ (builtinRecipe .ioredis .pipeline).edits, e.newCode ≠ e.target :=
    ⟨_, List.mem_cons_self, by decide⟩
  rw [← hfp, ← (Detector.isBuiltin_of_make hmake f hf).recipeFor] at hedit
  obtain ⟨e, he, hne⟩ := hedit
  refine ⟨t, hmake, file, hok, f, hf, e, he, hne, ?_⟩
  rw [← Bool.not_eq_true, h f hf e he hne]
  rintro ⟨⟨hd, -⟩, -⟩
  cases hd

/-- A lone `redis.multi()` is found as a pipeline and as a transaction, and ends as the `client.multi()` that
    the conversion of pipelines was to replace. -/
theorem target_left_by_transaction : ∃ t, Detector.make .builtin {} = .ok t ∧
    ∃ file, convert {} "redis.multi()" (t.analyze "redis.multi()" .nodeRedis) "a.ts" = .ok file ∧
      ∃ f ∈ (t.analyze "redis.multi()" .nodeRedis).findings, ∃ e ∈ (f.recipeFor (some .nodeRedis)).edits,
        e.newCode ≠ e.target ∧ Text.contains file.code e.target = true := by
  obtain ⟨t, hmake⟩ := Detector.exists_make_default
  have hbuiltin := @Detector.isBuiltin_of_make {} t hmake "redis.multi()" .nodeRedis
  have hids : (t.analyze "redis.multi()" .nodeRedis).findings.map (·.idiom) = [.pipeline, .transaction] := by
    rw [Detector.findings_of_make hmake]
    refine Finding.idioms_detect_of_pairwise (by decide) ?_
    decide +kernel
  have hcode := toList_code_builtin hbuiltin {} "redis.multi()" "a.ts"
  rw [hids, Detector.dialect_analyze] at hcode
  have hp : .pipeline ∈ (t.analyze "redis.multi()" .nodeRedis).findings.map (·.idiom) := by simp [hids]
  obtain ⟨f, hf, hfp⟩ := List.mem_map.mp hp
  have hedit : ∃ e ∈ (builtinRecipe .nodeRedis .pipeline).edits, e.newCode ≠ e.target ∧
      e.target.toList = clientMulti := ⟨_, List.mem_cons_self, by decide, rfl⟩
  rw [← hfp, ← (hbuiltin f hf).recipeFor] at hedit
  obtain ⟨e, he, hne, htarget⟩ := hedit
  refine ⟨t, hmake, _, convert_builtin_eq_ok hbuiltin {} _ _, f, hf, e, he, hne, ?_⟩
  rw [Text.contains_iff, htarget, hcode, infix_clientMulti_run_iff (by decide) List.mem_cons_self, Text.contains_iff]
  exact ⟨List.Sublist.refl _, List.infix_rfl⟩

end ConvertedFile

end ClientMigration
