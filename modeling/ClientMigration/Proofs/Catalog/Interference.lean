import ClientMigration.Proofs.Catalog.Builtin

/-! # Interference of built-in substitutions

Whether one built-in substitution can make or break a target of another is decided by computing the overlaps of the
two. For ioredis none makes a target of another, and targets overlap only where a call begins in the last letter of a
cluster. For node-redis the conversion of a transaction writes what the conversion of a pipeline looks for. -/

namespace ClientMigration.Catalog
open Text (Substitution)

/-- The first substitution for clusters. Its target may end in the first letter of a `redis.multi()`. -/
def clusterCall : Substitution := ⟨"new Redis.Cluster".toList, "GlideClusterClient.createClient".toList⟩

/-- The idioms whose calls may begin in the last letter of `new Redis.Cluster`, with the text that both spell. -/
def clashes : List (Idiom × String) :=
  [(.pipeline, "new Redis.Clusteredis.pipeline()"), (.transaction, "new Redis.Clusteredis.multi()")]

/-- The texts of the clashes, spelled out. -/
def clashSpelling : Spelling (clashes.map (·.2.toList)) := .text (.text .nil)

theorem clashes_spelled : clashes.map (·.2.toList) = clashSpelling.spelled := clashSpelling.eq

/-- What stands before a call that shares a letter with a cluster. -/
def beforeCall : List Char := "new Redis.Cluste".toList

/-- What is written for such a call, if it is converted before the cluster. -/
def besideCluster : List Char := "new Redis.Clusteclient.multi()".toList

/-- How the built-in substitutions and the renames interfere. -/
structure Interference : Prop where
  /-- For ioredis no conversion makes a target of any conversion. -/
  ioredis_makesNo : ∀ i j, ∀ σ ∈ builtinSubstitutions .ioredis i, ¬σ.Idle →
    ∀ τ ∈ builtinSubstitutions .ioredis j, τ.MakesNo σ.target
  /-- For ioredis an idiom shows in each target that its conversion looks for, or else no other conversion writes
      anything by which it is recognized. -/
  ioredis_revealed : ∀ i,
    (∀ σ ∈ builtinSubstitutions .ioredis i, ¬σ.Idle → ∃ t ∈ builtinTexts .ioredis i, t <:+: σ.target) ∨
    (∀ j, j ≠ i → ∀ τ ∈ builtinSubstitutions .ioredis j, ∀ t ∈ builtinTexts .ioredis i, τ.MakesNo t)
  /-- For ioredis targets overlap with themselves and in the clashes, and nowhere else. -/
  ioredis_overlaps : ∀ i j, ∀ σ ∈ builtinSubstitutions .ioredis i, ¬σ.Idle →
    ∀ τ ∈ builtinSubstitutions .ioredis j, ¬τ.Idle → Text.Apart σ.target τ.target ∨ σ = τ ∨
      ∀ w ∈ Text.overlaps σ.target τ.target, i = .clustering ∧ ∃ c ∈ clashes, c.1 = j ∧ c.2.toList = w
  /-- No conversion makes a clash, or breaks what the first of two clashing conversions writes. -/
  ioredis_clash : ∀ j, ∀ τ ∈ builtinSubstitutions .ioredis j, (∀ w ∈ clashes.map (·.2.toList), τ.MakesNo w) ∧
    τ.BreaksNo clusterCall.replacement ∧ τ.BreaksNo besideCluster
  /-- A clash begins with a cluster, which is found wherever it stands, and ends with the call that the idiom is first
      converted by, which is found also there. -/
  clash_parts : ∀ c ∈ clashes, clusterCall.target <+: c.2.toList ∧
    (∀ σ ∈ builtinSubstitutions .ioredis .clustering, σ.FoundAfter []) ∧
    ∀ σ ∈ (builtinSubstitutions .ioredis c.1).head?, σ.FoundAfter beforeCall ∧
      c.2.toList = beforeCall ++ σ.target ∧ besideCluster = beforeCall ++ σ.replacement
  /-- For node-redis the conversion of transactions alone makes a target of another conversion, that of pipelines. -/
  nodeRedis_makesNo : ∀ i j, i ≠ .pipeline ∨ j ≠ .transaction → ∀ σ ∈ builtinSubstitutions .nodeRedis i, ¬σ.Idle →
    ∀ τ ∈ builtinSubstitutions .nodeRedis j, τ.MakesNo σ.target
  /-- For node-redis the targets of two idioms never overlap, but for those of clusters and transactions. -/
  nodeRedis_breaksNo : ∀ i j, i ≠ j → ¬(i = .clustering ∧ j = .transaction) →
    ∀ σ ∈ builtinSubstitutions .nodeRedis i, ¬σ.Idle → ∀ τ ∈ builtinSubstitutions .nodeRedis j,
      (i = .transaction ∧ j = .clustering ∧ τ = clusterCall) ∨ τ.BreaksNo σ.target
  /-- A rename neither makes nor breaks a target of a conversion. -/
  rename_apart : ∀ d i, ∀ σ ∈ builtinSubstitutions d i, ∀ τ ∈ (Rename.forDialect d).map (·.substitution),
    τ.MakesNo σ.target ∧ τ.BreaksNo σ.target
  /-- A rename makes no call that is renamed, and changes the calls that it finds. -/
  rename_makesNo : ∀ d, ∀ σ ∈ (Rename.forDialect d).map (·.substitution), ¬σ.Idle ∧
    ∀ τ ∈ (Rename.forDialect d).map (·.substitution), τ.MakesNo σ.target

/-- The built-in recipes and the renames interfere with each other in the listed cases only. -/
theorem interference : Interference := by
  constructor <;>
    simp only [← Text.occursIn_iff, builtinSubstitutions_spelled, builtinTexts_spelled, clashes_spelled,
      Rename.substitutions_spelled] <;>
    decide +kernel

end ClientMigration.Catalog
