import ClientMigration.Proofs.Text.Overlap

/-! # Lists of substitutions

What is done to a text is a list of substitutions, one upon the other. A text that none of them makes or breaks
is in the outcome exactly if it was there before, and substitutions that change places pairwise may come in any
order. -/

namespace ClientMigration.Text

/-- A target, and what takes the place of its occurrences. -/
structure Substitution where
  target : List Char
  replacement : List Char
deriving DecidableEq, Repr

namespace Substitution

/-- The text with every occurrence of the target replaced; an empty target replaces nothing. -/
def apply (σ : Substitution) (text : List Char) : List Char :=
  if σ.target = [] then text else replaceAll σ.target σ.replacement text

/-- The text after some substitutions, one upon the other. -/
def run (σs : List Substitution) (text : List Char) : List Char := σs.foldl (fun text σ => σ.apply text) text

/-- The target stands for itself or is empty, so nothing changes. -/
def Idle (σ : Substitution) : Prop := σ.target = [] ∨ σ.target = σ.replacement

/-- The substitution makes no occurrence of a text. -/
def MakesNo (t : List Char) (σ : Substitution) : Prop := σ.Idle ∨ Apart t σ.replacement

/-- The substitution breaks no occurrence of a text. -/
def BreaksNo (t : List Char) (σ : Substitution) : Prop := σ.Idle ∨ Apart t σ.target

instance (σ : Substitution) : Decidable σ.Idle := inferInstanceAs (Decidable (_ ∨ _))

instance (t : List Char) (σ : Substitution) : Decidable (MakesNo t σ) := inferInstanceAs (Decidable (_ ∨ _))

instance (t : List Char) (σ : Substitution) : Decidable (BreaksNo t σ) := inferInstanceAs (Decidable (_ ∨ _))

/-! ### One substitution -/

theorem apply_of_ne_nil {σ : Substitution} (h : σ.target ≠ []) (text : List Char) :
    σ.apply text = replaceAll σ.target σ.replacement text := if_neg h

theorem Idle.apply {σ : Substitution} (h : σ.Idle) (text : List Char) : σ.apply text = text := by
  by_cases hne : σ.target = []
  · exact if_pos hne
  · rw [apply_of_ne_nil hne, ← h.resolve_left hne, replaceAll_self hne]

theorem target_ne_nil {σ : Substitution} (h : ¬σ.Idle) : σ.target ≠ [] := fun hne => h (Or.inl hne)

theorem apply_of_not_infix {σ : Substitution} {text : List Char} (h : ¬σ.target <:+: text) : σ.apply text = text := by
  have hne : σ.target ≠ [] := fun hnil => h (hnil ▸ List.nil_infix)
  rw [apply_of_ne_nil hne, replaceAll_of_not_infix hne text h]

theorem MakesNo.infix_of_apply {t : List Char} {σ : Substitution} (h : MakesNo t σ) {text : List Char}
    (ho : t <:+: σ.apply text) : t <:+: text := by
  by_cases hi : σ.Idle
  · rwa [hi.apply] at ho
  · rw [apply_of_ne_nil (target_ne_nil hi)] at ho
    exact infix_of_infix_replaceAll (target_ne_nil hi) (h.resolve_left hi) text ho

theorem BreaksNo.infix_apply {t : List Char} {σ : Substitution} (h : BreaksNo t σ) {text : List Char}
    (ho : t <:+: text) : t <:+: σ.apply text := by
  by_cases hi : σ.Idle
  · rwa [hi.apply]
  · rw [apply_of_ne_nil (target_ne_nil hi)]
    exact infix_replaceAll_of_apart (target_ne_nil hi) (h.resolve_left hi) text ho

/-- A substitution that does not bring its target back removes it. -/
theorem not_infix_apply {σ : Substitution} (hi : ¬σ.Idle) (h : MakesNo σ.target σ) (text : List Char) :
    ¬σ.target <:+: σ.apply text := by
  rw [apply_of_ne_nil (target_ne_nil hi)]
  exact not_infix_replaceAll_self (target_ne_nil hi) (h.resolve_left hi) text

theorem length_apply {σ : Substitution} (h : σ.replacement.length = σ.target.length) (text : List Char) :
    (σ.apply text).length = text.length := by
  by_cases hi : σ.Idle
  · rw [hi.apply]
  · have hlength := @length_replaceAll σ.target σ.replacement (target_ne_nil hi) text
    rw [apply_of_ne_nil (target_ne_nil hi)]
    rw [h] at hlength
    exact Nat.add_right_cancel hlength

/-- Substitutions that neither make nor, in this text, break each other's targets change places. -/
theorem apply_comm {σ τ : Substitution} {text : List Char}
    (h : ¬σ.Idle → ¬τ.Idle → MakesNo τ.target σ ∧ MakesNo σ.target τ ∧ ¬Meet σ.target τ.target text) :
    σ.apply (τ.apply text) = τ.apply (σ.apply text) := by
  by_cases hi : σ.Idle
  · rw [hi.apply, hi.apply]
  by_cases hj : τ.Idle
  · rw [hj.apply, hj.apply]
  obtain ⟨hσ, hτ, hm⟩ := h hi hj
  simp only [apply_of_ne_nil (target_ne_nil hi), apply_of_ne_nil (target_ne_nil hj)]
  exact replaceAll_comm (target_ne_nil hi) (target_ne_nil hj) (hσ.resolve_left hi) (hτ.resolve_left hj) text hm

/-! ### Runs -/

@[simp] theorem run_nil (text : List Char) : run [] text = text := rfl

@[simp] theorem run_cons (σ : Substitution) (σs : List Substitution) (text : List Char) :
    run (σ :: σs) text = run σs (σ.apply text) := rfl

theorem run_empty : ∀ σs : List Substitution, run σs [] = []
  | [] => rfl
  | σ :: σs => by
    have hσ : σ.apply [] = [] := by
      by_cases hi : σ.Idle
      · exact hi.apply []
      · exact apply_of_not_infix fun h => target_ne_nil hi (List.infix_nil.mp h)
    rw [run_cons, hσ, run_empty σs]

@[simp] theorem run_append (σs τs : List Substitution) (text : List Char) : run (σs ++ τs) text = run τs (run σs text) :=
  List.foldl_append

theorem length_run : ∀ {σs : List Substitution}, (∀ σ ∈ σs, σ.replacement.length = σ.target.length) →
    ∀ text : List Char, (run σs text).length = text.length
  | [], _, _ => rfl
  | σ :: σs, h, text => by
    rw [run_cons, length_run fun τ hτ => h τ (List.mem_cons_of_mem σ hτ), length_apply (h σ List.mem_cons_self)]

theorem infix_of_run {t : List Char} : ∀ {σs : List Substitution}, (∀ σ ∈ σs, MakesNo t σ) → ∀ {text : List Char},
    t <:+: run σs text → t <:+: text
  | [], _, _, ho => ho
  | σ :: _, h, _, ho =>
    (h σ List.mem_cons_self).infix_of_apply (infix_of_run (fun τ hτ => h τ (List.mem_cons_of_mem σ hτ)) ho)

theorem infix_run {t : List Char} : ∀ {σs : List Substitution}, (∀ σ ∈ σs, BreaksNo t σ) → ∀ {text : List Char},
    t <:+: text → t <:+: run σs text
  | [], _, _, ho => ho
  | σ :: _, h, _, ho =>
    infix_run (fun τ hτ => h τ (List.mem_cons_of_mem σ hτ)) ((h σ List.mem_cons_self).infix_apply ho)

/-- A target that no substitution of the run makes does not outlast its own substitution. -/
theorem not_infix_run_of_mem {σ : Substitution} (hi : ¬σ.Idle) {σs : List Substitution} (hσ : σ ∈ σs)
    (h : ∀ τ ∈ σs, MakesNo σ.target τ) (text : List Char) : ¬σ.target <:+: run σs text := by
  obtain ⟨before, after, rfl⟩ := List.append_of_mem hσ
  intro ho
  rw [run_append, run_cons] at ho
  refine not_infix_apply hi (h σ hσ) _ (infix_of_run (fun τ hτ => h τ ?_) ho)
  exact List.mem_append_right _ (List.mem_cons_of_mem σ hτ)

/-- A run on a text in which no substitution finds anything to change leaves it. -/
theorem run_of_still {text : List Char} : ∀ {σs : List Substitution}, (∀ σ ∈ σs, σ.apply text = text) →
    run σs text = text
  | [], _ => rfl
  | σ :: σs, h => by
    rw [run_cons, h σ List.mem_cons_self]
    exact run_of_still fun τ hτ => h τ (List.mem_cons_of_mem σ hτ)

/-- Each part of a text works for itself when a part between them neither meets nor begins in a target. -/
theorem run_append_append {w : List Char} : ∀ {σs : List Substitution},
    (∀ σ ∈ σs, BreaksNo w σ) → ∀ a b : List Char, run σs (a ++ (w ++ b)) = run σs a ++ (w ++ run σs b)
  | [], _, _, _ => rfl
  | σ :: σs, h, a, b => by
    have hσ : σ.apply (a ++ (w ++ b)) = σ.apply a ++ (w ++ σ.apply b) := by
      by_cases hi : σ.Idle
      · simp only [hi.apply]
      · have hne := target_ne_nil hi
        have hw := (h σ List.mem_cons_self).resolve_left hi
        have htail : overlaps σ.target.tail w = [] := by
          obtain ⟨c, t, ht⟩ := List.exists_cons_of_ne_nil hne
          rw [ht, List.tail_cons]
          exact overlaps_tail (ht ▸ hw.right)
        simp only [apply_of_ne_nil hne]
        rw [replaceAll_append_border hne htail, (clear_of_overlaps hw.left).replaceAll_append]
    rw [run_cons, hσ, run_append_append fun τ hτ => h τ (List.mem_cons_of_mem σ hτ)]
    rfl

/-- After `n`, and wherever it follows, the target is found. -/
structure FoundAfter (n : List Char) (σ : Substitution) : Prop where
  ne_nil : σ.target ≠ []
  border : overlaps σ.target.tail (n ++ σ.target) = []
  clear : overlaps n σ.target = []

instance (n : List Char) (σ : Substitution) : Decidable (FoundAfter n σ) :=
  decidable_of_iff (σ.target ≠ [] ∧
      meets (σ.target.tail.map Char.toNat) ((n ++ σ.target).map Char.toNat) = false ∧
      meets (n.map Char.toNat) (σ.target.map Char.toNat) = false) <| by
    rw [← overlaps_eq_nil_iff, ← overlaps_eq_nil_iff]
    exact ⟨fun h => ⟨h.1, h.2.1, h.2.2⟩, fun h => ⟨h.ne_nil, h.border, h.clear⟩⟩

theorem FoundAfter.apply {n : List Char} {σ : Substitution} (h : σ.FoundAfter n) (a b : List Char) :
    σ.apply (a ++ (n ++ (σ.target ++ b))) = σ.apply a ++ ((n ++ σ.replacement) ++ σ.apply b) := by
  simp only [apply_of_ne_nil h.ne_nil]
  rw [← List.append_assoc n, replaceAll_append_border h.ne_nil h.border, List.append_assoc n,
    (clear_of_overlaps h.clear).replaceAll_append, replaceAll_append h.ne_nil, List.append_assoc n]

/-- What the first substitution of a run writes stays, if the others do not break it. -/
theorem FoundAfter.run_cons {n : List Char} {σ : Substitution} (h : σ.FoundAfter n) {σs : List Substitution}
    (hb : ∀ τ ∈ σs, BreaksNo (n ++ σ.replacement) τ) (a b : List Char) :
    run (σ :: σs) (a ++ (n ++ (σ.target ++ b))) = run (σ :: σs) a ++ ((n ++ σ.replacement) ++ run (σ :: σs) b) := by
  rw [Substitution.run_cons, h.apply, run_append_append hb]
  rfl

theorem apply_run_comm {σ : Substitution} : ∀ {τs : List Substitution},
    (∀ τ ∈ τs, ∀ text, σ.apply (τ.apply text) = τ.apply (σ.apply text)) →
    ∀ text, σ.apply (run τs text) = run τs (σ.apply text)
  | [], _, _ => rfl
  | τ :: τs, h, text => by
    rw [run_cons, run_cons, apply_run_comm fun υ hυ => h υ (List.mem_cons_of_mem τ hυ), h τ List.mem_cons_self]

/-- Substitutions that change places on a class of texts, and stay in it, may come in any order. -/
theorem run_perm {P : List Char → Prop} {σs τs : List Substitution} (hp : σs.Perm τs) :
    (∀ σ ∈ σs, ∀ text, P text → P (σ.apply text)) →
    (∀ σ ∈ σs, ∀ τ ∈ σs, ∀ text, P text → σ.apply (τ.apply text) = τ.apply (σ.apply text)) →
    ∀ text, P text → run σs text = run τs text := by
  induction hp with
  | nil => exact fun _ _ _ _ => rfl
  | cons σ _ ih =>
    intro hP hc text ht
    rw [run_cons, run_cons]
    exact ih (fun τ hτ => hP τ (List.mem_cons_of_mem σ hτ))
      (fun τ hτ υ hυ => hc τ (List.mem_cons_of_mem σ hτ) υ (List.mem_cons_of_mem σ hυ)) _
      (hP σ List.mem_cons_self text ht)
  | swap σ τ _ =>
    intro _ hc text ht
    simp only [run_cons]
    rw [hc σ (by simp) τ (by simp) text ht]
  | trans hp _ ih₁ ih₂ =>
    intro hP hc text ht
    rw [ih₁ hP hc text ht]
    exact ih₂ (fun σ hσ => hP σ (hp.mem_iff.mpr hσ))
      (fun σ hσ τ hτ => hc σ (hp.mem_iff.mpr hσ) τ (hp.mem_iff.mpr hτ)) text ht

end Substitution

end ClientMigration.Text
