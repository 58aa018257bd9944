import ClientMigration.Supplied.Dependencies
import ClientMigration.Supplied.Optimizations

/-! # Reading supplied data back

What is written of a dependency analysis or an optimization report is read as it was: none of the other spellings,
defaults and conversions to text that the readers allow for comes into play. So writing what was read of any value
gives a normal form of it, which reading and writing leave as it is. -/

namespace ClientMigration

/-! ### Lists and fields -/

theorem mapM_map_eq_ok {α β : Type} {read : β → Except Failure α} {write : α → β}
    (h : ∀ a, read (write a) = .ok a) : ∀ as : List α, (as.map write).mapM read = .ok as
  | [] => rfl
  | a :: as => by
    rw [List.map_cons, List.mapM_cons, h, mapM_map_eq_ok h as]
    rfl

/-- A severity is read back by its name. -/
theorem Severity.ofValueD_name (default s : Severity) : ofValueD default (some (.str s.name)) = s := by
  have hparse : parse? s.name = some s := by cases s <;> decide
  have htext : ofValue? (.str s.name) = parse? s.name := rfl
  rw [ofValueD, Option.bind_some, htext, hparse, Option.getD_some]

namespace Supplied

theorem textOf_str (s : String) : textOf (.str s) = .ok s := rfl

theorem itemTexts_texts (what : String) (ss : List String) : itemTexts what (some (.texts ss)) = .ok ss :=
  mapM_map_eq_ok textOf_str ss

end Supplied

open Supplied

/-! ### Dependency analyses -/

/-- An action that is a text is taken as it is. -/
theorem DependencyPhase.actionText_str (s : String) : actionText (.str s) = .ok s := rfl

theorem DependencyPhase.ofValue_toValue (p : DependencyPhase) : ofValue p.toValue = .ok p := by
  have hactions : (p.actions.map Value.str).mapM actionText = .ok p.actions :=
    mapM_map_eq_ok actionText_str p.actions
  show ((p.actions.map Value.str).mapM actionText >>= fun actions =>
    itemTexts "Phase dependencies" (some (.texts p.dependencies)) >>= fun dependencies =>
      .ok (⟨p.name, p.order, actions, dependencies⟩ : DependencyPhase)) = _
  rw [hactions, itemTexts_texts]
  rfl

theorem DependencyRisk.ofValue_toValue (r : DependencyRisk) : ofValue r.toValue = .ok r := by
  show Except.ok (⟨r.dependency, r.risk, Severity.ofValueD .medium (some (.str r.probability.name)),
    Severity.ofValueD .medium (some (.str r.impact.name)), r.mitigation⟩ : DependencyRisk) = _
  rw [Severity.ofValueD_name, Severity.ofValueD_name]

theorem Dependencies.ofValue_toValue (d : Dependencies) : ofValue d.toValue = .ok d := by
  show ((d.phases.map (·.toValue)).mapM DependencyPhase.ofValue >>= fun phases =>
    (d.risks.map (·.toValue)).mapM DependencyRisk.ofValue >>= fun risks => .ok (⟨phases, risks⟩ : Dependencies)) = _
  rw [mapM_map_eq_ok DependencyPhase.ofValue_toValue, mapM_map_eq_ok DependencyRisk.ofValue_toValue]
  rfl

/-! ### Optimization reports -/

theorem Optimization.ofValue_toValue (o : Optimization) : ofValue o.toValue = .ok o := by
  show (itemTexts "action_items" (some (.texts o.actionItems)) >>= fun actions =>
    .ok (⟨o.title, o.description, Severity.ofValueD .medium (some (.str o.priority.name)), actions⟩ : Optimization)) = _
  rw [itemTexts_texts, Severity.ofValueD_name]
  rfl

theorem Optimizations.ofValue_toValue (r : Optimizations) : ofValue r.toValue = .ok r := by
  show ((r.recommendations.map (·.toValue)).mapM Optimization.ofValue >>= fun recommendations =>
    .ok (⟨recommendations⟩ : Optimizations)) = _
  rw [mapM_map_eq_ok Optimization.ofValue_toValue]
  rfl

/-! ### Normal forms -/

namespace Supplied

/-- A value as it is written after it was read, or why it cannot be read. -/
def normalForm {α : Type} (read : Value → Except Failure α) (write : α → Value) (v : Value) : Except Failure Value :=
  (read v).map write

/-- What can be read back has a normal form that stays. -/
theorem normalForm_bind {α : Type} {read : Value → Except Failure α} {write : α → Value}
    (h : ∀ a, read (write a) = .ok a) (v : Value) :
    (normalForm read write v >>= normalForm read write) = normalForm read write v := by
  unfold normalForm
  cases read v with
  | error f => rfl
  | ok a =>
    show (read (write a)).map write = .ok (write a)
    rw [h]
    rfl

/-- Every dependency analysis and every optimization report is read back as it was written. So any value that can be
    read has a normal form, and the normal form is its own. -/
theorem reading_back :
    (∀ d : Dependencies, Dependencies.ofValue d.toValue = .ok d) ∧
    (∀ r : Optimizations, Optimizations.ofValue r.toValue = .ok r) ∧
    (∀ v, (normalForm Dependencies.ofValue Dependencies.toValue v >>=
      normalForm Dependencies.ofValue Dependencies.toValue) = normalForm Dependencies.ofValue Dependencies.toValue v) ∧
    ∀ v, (normalForm Optimizations.ofValue Optimizations.toValue v >>=
      normalForm Optimizations.ofValue Optimizations.toValue) =
        normalForm Optimizations.ofValue Optimizations.toValue v :=
  ⟨Dependencies.ofValue_toValue, Optimizations.ofValue_toValue, normalForm_bind Dependencies.ofValue_toValue,
    normalForm_bind Optimizations.ofValue_toValue⟩

end Supplied

end ClientMigration
