import ClientMigration.Proofs.Text.Substitution

/-! # Substitutions that keep apart

Where no target meets another, or anything that is written, a run of substitutions is one scan for all of their targets
at once: a target that begins at a place is replaced there, and a character where none begins stays. So the order of the
substitutions plays no part, and what becomes of a character is read off the text before the run. -/

namespace ClientMigration.Text

/-! ### Places inside occurrences -/

/-- One of the targets stands in the text across the place. -/
def Covered (ts : List (List Char)) (text : List Char) (i : Nat) : Prop :=
  ∃ t ∈ ts, ∃ k, t <+: text.drop k ∧ k ≤ i ∧ i < k + t.length

theorem covered_zero_iff {ts : List (List Char)} {text : List Char} :
    Covered ts text 0 ↔ ∃ t ∈ ts, t <+: text ∧ t ≠ [] := by
  simp only [Covered, Nat.le_zero_eq]
  refine exists_congr fun t => and_congr_right fun _ => ?_
  constructor
  · rintro ⟨k, ht, rfl, hlt⟩
    exact ⟨ht, List.length_pos_iff.mp (by omega)⟩
  · rintro ⟨ht, hne⟩
    exact ⟨0, ht, rfl, by have := List.length_pos_iff.mpr hne; omega⟩

theorem covered_cons_succ_iff {ts : List (List Char)} {c : Char} {rest : List Char} {i : Nat} :
    Covered ts (c :: rest) (i + 1) ↔ (∃ t ∈ ts, t <+: c :: rest ∧ i + 1 < t.length) ∨ Covered ts rest i := by
  constructor
  · rintro ⟨t, ht, k, hpre, hle, hlt⟩
    cases k with
    | zero => exact Or.inl ⟨t, ht, hpre, by omega⟩
    | succ k => exact Or.inr ⟨t, ht, k, hpre, by omega, by omega⟩
  · rintro (⟨t, ht, hpre, hlt⟩ | ⟨t, ht, k, hpre, hle, hlt⟩)
    · exact ⟨t, ht, 0, hpre, by omega, by omega⟩
    · exact ⟨t, ht, k + 1, hpre, by omega, by omega⟩

theorem covered_append_iff {ts : List (List Char)} {rest : List Char} {i : Nat} : ∀ {a : List Char},
    (∀ t ∈ ts, Clear a t rest) → (Covered ts (a ++ rest) (a.length + i) ↔ Covered ts rest i)
  | [], _ => by rw [List.nil_append, List.length_nil, Nat.zero_add]
  | c :: a, h => by
    have hplace : (c :: a).length + i = a.length + i + 1 := by rw [List.length_cons]; omega
    have hnone : ¬∃ t ∈ ts, t <+: c :: (a ++ rest) ∧ a.length + i + 1 < t.length :=
      fun ⟨t, ht, hpre, _⟩ => Clear.not_prefix (h t ht) hpre
    rw [hplace, List.cons_append, covered_cons_succ_iff, or_iff_right hnone]
    exact covered_append_iff fun t ht => (h t ht).tail

namespace Substitution

/-- The substitutions keep apart: each target is found wherever it stands, and meets neither the target of another nor
    what any of them writes. -/
structure Separate (σs : List Substitution) : Prop where
  found : ∀ σ ∈ σs, σ.FoundAfter []
  targets : ∀ σ ∈ σs, ∀ τ ∈ σs, σ = τ ∨ Apart σ.target τ.target
  written : ∀ σ ∈ σs, ∀ τ ∈ σs, Apart σ.replacement τ.target

instance (σs : List Substitution) : Decidable (Separate σs) :=
  decidable_of_iff ((∀ σ ∈ σs, σ.FoundAfter []) ∧ (∀ σ ∈ σs, ∀ τ ∈ σs, σ = τ ∨ Apart σ.target τ.target) ∧
      ∀ σ ∈ σs, ∀ τ ∈ σs, Apart σ.replacement τ.target)
    ⟨fun h => ⟨h.1, h.2.1, h.2.2⟩, fun h => ⟨h.found, h.targets, h.written⟩⟩

/-! ### Runs as one scan -/

/-- A run passes a text that meets none of its targets. -/
theorem run_append_of_apart {w : List Char} {σs : List Substitution} (h : ∀ σ ∈ σs, Apart w σ.target) (rest : List Char) :
    run σs (w ++ rest) = w ++ run σs rest := by
  have hrun := run_append_append (fun σ hσ => Or.inr (h σ hσ)) [] rest
  rwa [run_empty, List.nil_append, List.nil_append] at hrun

theorem run_cons_of_not_prefix {c : Char} : ∀ {σs : List Substitution}, (∀ σ ∈ σs, σ.target ≠ []) →
    (∀ σ ∈ σs, ∀ τ ∈ σs, Apart σ.replacement τ.target) → ∀ {rest : List Char},
    (∀ σ ∈ σs, ¬σ.target <+: c :: rest) → run σs (c :: rest) = c :: run σs rest
  | [], _, _, _, _ => rfl
  | σ :: σs, hne, hapart, rest, hp => by
    have hσ := hne σ List.mem_cons_self
    have hpass := replaceAll_cons (r := σ.replacement) (hp σ List.mem_cons_self)
    rw [run_cons, run_cons, apply_of_ne_nil hσ, apply_of_ne_nil hσ, hpass]
    refine run_cons_of_not_prefix (fun τ hτ => hne τ (List.mem_cons_of_mem σ hτ))
      (fun τ hτ υ hυ => hapart τ (List.mem_cons_of_mem σ hτ) υ (List.mem_cons_of_mem σ hυ)) fun τ hτ hpre => ?_
    -- A target that begins here after the first substitution began here before it.
    rw [← hpass] at hpre
    have hwritten := hapart σ List.mem_cons_self τ (List.mem_cons_of_mem σ hτ)
    exact hp τ (List.mem_cons_of_mem σ hτ) (prefix_of_prefix_replaceAll hσ _ hwritten.right hpre)

namespace Separate
variable {σs : List Substitution}

theorem ne_nil (h : Separate σs) : ∀ σ ∈ σs, σ.target ≠ [] := fun σ hσ => (h.found σ hσ).ne_nil

theorem tail {σ : Substitution} (h : Separate (σ :: σs)) : Separate σs where
  found τ hτ := h.found τ (List.mem_cons_of_mem σ hτ)
  targets τ hτ υ hυ := h.targets τ (List.mem_cons_of_mem σ hτ) υ (List.mem_cons_of_mem σ hυ)
  written τ hτ υ hυ := h.written τ (List.mem_cons_of_mem σ hτ) υ (List.mem_cons_of_mem σ hυ)

theorem congr (h : Separate σs) {τs : List Substitution} (hmem : ∀ σ, σ ∈ τs ↔ σ ∈ σs) : Separate τs where
  found σ hσ := h.found σ ((hmem σ).mp hσ)
  targets σ hσ τ hτ := h.targets σ ((hmem σ).mp hσ) τ ((hmem τ).mp hτ)
  written σ hσ τ hτ := h.written σ ((hmem σ).mp hσ) τ ((hmem τ).mp hτ)

/-- A target that begins the text is replaced there by the run. -/
theorem run_target_append {σ : Substitution} : ∀ {σs : List Substitution}, Separate σs → σ ∈ σs → ∀ rest : List Char,
    run σs (σ.target ++ rest) = σ.replacement ++ run σs rest
  | τ :: σs, h, hσ, rest => by
    have hτ := h.ne_nil τ List.mem_cons_self
    rw [run_cons, run_cons]
    rcases h.targets σ hσ τ List.mem_cons_self with rfl | hapart
    · rw [apply_of_ne_nil hτ, apply_of_ne_nil hτ, replaceAll_append hτ]
      exact run_append_of_apart (fun υ hυ => h.written σ hσ υ (List.mem_cons_of_mem σ hυ)) _
    · -- The first substitution passes the target, which is none of its own.
      have hpass : τ.apply (σ.target ++ rest) = σ.target ++ τ.apply rest := by
        rw [apply_of_ne_nil hτ, apply_of_ne_nil hτ, (clear_of_overlaps hapart.left).replaceAll_append]
      have hne : σ ≠ τ := fun heq => hapart.ne (h.ne_nil σ hσ) (congrArg target heq)
      rw [hpass]
      exact run_target_append h.tail ((List.mem_cons.mp hσ).resolve_left hne) _

theorem run_pass (h : Separate σs) {c : Char} {rest : List Char} (hp : ∀ t ∈ σs.map (·.target), ¬t <+: c :: rest) :
    run σs (c :: rest) = c :: run σs rest :=
  run_cons_of_not_prefix h.ne_nil h.written fun _ hσ => hp _ (List.mem_map_of_mem hσ)

theorem targets_ne_nil (h : Separate σs) : ∀ t ∈ σs.map (·.target), t ≠ [] := by
  intro t ht
  obtain ⟨σ, hσ, rfl⟩ := List.mem_map.mp ht
  exact h.ne_nil σ hσ

/-- Substitutions that keep apart may come in any order, and any of them again. -/
theorem run_congr (h : Separate σs) {τs : List Substitution} (hmem : ∀ σ, σ ∈ τs ↔ σ ∈ σs) (text : List Char) :
    run τs text = run σs text := by
  have h' := h.congr hmem
  induction text using scan_induction_all h.targets_ne_nil with
  | nil => rw [run_empty, run_empty]
  | found t ht rest ih =>
    obtain ⟨σ, hσ, rfl⟩ := List.mem_map.mp ht
    rw [h.run_target_append hσ, h'.run_target_append ((hmem σ).mpr hσ), ih]
  | pass c rest hp ih =>
    have hp' : ∀ t ∈ τs.map (·.target), ¬t <+: c :: rest := by
      intro t ht
      obtain ⟨σ, hσ, rfl⟩ := List.mem_map.mp ht
      exact hp _ (List.mem_map_of_mem ((hmem σ).mp hσ))
    rw [h.run_pass hp, h'.run_pass hp', ih]

/-! ### What becomes of each character -/

theorem covered_target_append_iff (h : Separate σs) {σ : Substitution} (hσ : σ ∈ σs) {rest : List Char} {i : Nat} :
    Covered (σs.map (·.target)) (σ.target ++ rest) (σ.target.length + i) ↔ Covered (σs.map (·.target)) rest i := by
  obtain ⟨c, a, hca⟩ := List.exists_cons_of_ne_nil (h.ne_nil σ hσ)
  have hplace : (c :: a).length + i = a.length + i + 1 := by rw [List.length_cons]; omega
  -- A target that begins where this one does is this one, and ends where it does.
  have hnone : ¬∃ t ∈ σs.map (·.target), t <+: c :: (a ++ rest) ∧ a.length + i + 1 < t.length := by
    rintro ⟨t, ht, hpre, hlt⟩
    obtain ⟨τ, hτ, rfl⟩ := List.mem_map.mp ht
    rcases h.targets τ hτ σ hσ with rfl | hapart
    · rw [hca, List.length_cons] at hlt
      omega
    · rw [← List.cons_append, ← hca] at hpre
      exact not_prefix_append_of_overlaps hapart.left (h.ne_nil τ hτ) hpre
  rw [hca, hplace, List.cons_append, covered_cons_succ_iff, or_iff_right hnone]
  refine covered_append_iff fun t ht => clear_of_overlaps ?_
  obtain ⟨τ, hτ, rfl⟩ := List.mem_map.mp ht
  rcases h.targets σ hσ τ hτ with rfl | hapart
  · have hborder := (h.found σ hσ).border
    rwa [hca, List.tail_cons, List.nil_append, ← hca] at hborder
  · exact overlaps_tail (hca ▸ hapart.left)

/-- If what is written for a target is the target character by character, a run changes just the characters inside
    occurrences of the targets. -/
theorem getElem?_run (h : Separate σs) {f : Char → Char} (hf : ∀ σ ∈ σs, σ.replacement = σ.target.map f)
    (text : List Char) (i : Nat) :
    (Covered (σs.map (·.target)) text i → (run σs text)[i]? = text[i]?.map f) ∧
    (¬Covered (σs.map (·.target)) text i → (run σs text)[i]? = text[i]?) := by
  induction text using scan_induction_all h.targets_ne_nil generalizing i with
  | nil =>
    rw [run_empty]
    exact ⟨fun _ => rfl, fun _ => rfl⟩
  | found t ht rest ih =>
    obtain ⟨σ, hσ, rfl⟩ := List.mem_map.mp ht
    rw [h.run_target_append hσ, hf σ hσ]
    by_cases hi : i < σ.target.length
    · have hcovered : Covered (σs.map (·.target)) (σ.target ++ rest) i :=
        ⟨_, ht, 0, List.prefix_append _ _, Nat.zero_le i, by omega⟩
      refine ⟨fun _ => ?_, fun hnot => absurd hcovered hnot⟩
      rw [List.getElem?_append_left (by rwa [List.length_map]), List.getElem?_map, List.getElem?_append_left hi]
    · obtain ⟨j, rfl⟩ := Nat.exists_eq_add_of_le (Nat.not_lt.mp hi)
      rw [h.covered_target_append_iff hσ, List.getElem?_append_right (by rw [List.length_map]; omega),
        List.getElem?_append_right (by omega), List.length_map, Nat.add_sub_cancel_left]
      exact ih j
  | pass c rest hp ih =>
    rw [h.run_pass hp]
    cases i with
    | zero =>
      refine ⟨fun hcovered => ?_, fun _ => rfl⟩
      obtain ⟨t, ht, hpre, -⟩ := covered_zero_iff.mp hcovered
      exact absurd hpre (hp t ht)
    | succ i =>
      have hnone : ¬∃ t ∈ σs.map (·.target), t <+: c :: rest ∧ i + 1 < t.length :=
        fun ⟨t, ht, hpre, _⟩ => hp t ht hpre
      rw [covered_cons_succ_iff, or_iff_right hnone, List.getElem?_cons_succ, List.getElem?_cons_succ]
      exact ih i

end Separate

end Substitution

end ClientMigration.Text
