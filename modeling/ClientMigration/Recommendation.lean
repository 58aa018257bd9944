import ClientMigration.Analysis
import ClientMigration.Supplied.Dependencies
import ClientMigration.Supplied.Optimizations

/-! # Recommendations

What the findings require, the risks of the dependencies and the optimizations, as one list by descending
priority. Equal priorities keep this order. -/

namespace ClientMigration

inductive RecommendationSource where
  | idiom
  | dependency
  | optimization
deriving DecidableEq, Repr

def RecommendationSource.name : RecommendationSource → String
  | .idiom => "pattern"
  | .dependency => "dependency"
  | .optimization => "optimization"

structure Recommendation where
  source : RecommendationSource
  title : String
  description : String
  priority : Severity
  actionItems : List String
deriving DecidableEq, Repr

namespace Recommendation

def toValue (r : Recommendation) : Value :=
  .object [("source", .str r.source.name), ("title", .str r.title), ("description", .str r.description),
    ("priority", .str r.priority.name), ("action_items", .texts r.actionItems)]

def ofRequirement (f : Finding) (q : Requirement) : Recommendation :=
  ⟨.idiom, f.idiom.name ++ ": " ++ q.description, q.impact, q.severity, [q.solution]⟩

def ofRisk (r : DependencyRisk) : Recommendation :=
  ⟨.dependency, if r.dependency.isEmpty then r.risk else r.dependency ++ ": " ++ r.risk, r.risk, r.impact,
    if r.mitigation.isEmpty then [] else [r.mitigation]⟩

def ofOptimization (o : Optimization) : Recommendation :=
  ⟨.optimization, o.title, o.description, o.priority, o.actionItems⟩

/-- All recommendations, before they are ranked. -/
def collect (findings : List Finding) (d : Dependencies) (o : Optimizations) : List Recommendation :=
  findings.flatMap (fun f => f.requirements.map (ofRequirement f)) ++ d.risks.map ofRisk ++
  o.recommendations.map ofOptimization

/-- All recommendations by descending priority. -/
def rank (findings : List Finding) (d : Dependencies) (o : Optimizations) : List Recommendation :=
  (collect findings d o).mergeSort fun a b => b.priority.rank ≤ a.priority.rank

end Recommendation

end ClientMigration
