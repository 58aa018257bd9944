import ClientMigration.Regex.Reader

/-! # Literal expressions

The expression of a literal text has one way through: along the text itself. So it matches exactly where the
text occurs. -/

namespace ClientMigration

theorem CharSet.has_range_self {c d : Char} : (CharSet.of [.range c c]).has d = true ↔ d = c := by
  simp only [CharSet.has, CharSet.of, CharSet.lists, SetItem.has, List.any_cons, List.any_nil, Bool.or_false,
    Bool.bne_false, Bool.and_eq_true, decide_eq_true_eq]
  exact ⟨fun h => Char.le_antisymm h.2 h.1, fun h => h ▸ ⟨Char.le_refl _, Char.le_refl _⟩⟩

namespace Cursor

theorem ahead_zero (c : Cursor) : c.ahead 0 = c := by simp [ahead]

theorem ahead_cons (n : Nat) (before : List Char) (c : Char) (rest : List Char) (m : Nat) :
    (⟨n + 1, c :: before, rest⟩ : Cursor).ahead m = (⟨n, before, c :: rest⟩ : Cursor).ahead (m + 1) := by
  simp only [ahead, List.take_succ_cons, List.drop_succ_cons, List.reverse_cons, List.append_assoc,
    List.singleton_append, Cursor.mk.injEq, and_self, and_true]
  omega

/-- The places of a text show every ending of it. -/
theorem exists_mem_placesFrom_iff {t : List Char} : ∀ {n : Nat} {before text : List Char},
    (∃ c ∈ placesFrom n before text, t <+: c.rest) ↔ t <:+: text
  | _, _, [] => by simp [placesFrom]
  | _, _, c :: cs => by
    simp only [placesFrom, List.mem_cons, exists_eq_or_imp]
    rw [exists_mem_placesFrom_iff, List.infix_cons_iff]

end Cursor

namespace Regex

/-- A sequence of characters is passed as a whole, or there is no way through. -/
theorem run_sequence_char {α : Type} (k : Progress → Option α) : ∀ (cs : List Char) (p : Progress),
    (sequence (cs.map char)).run p k =
      if cs <+: p.cursor.rest then k { p with cursor := p.cursor.ahead cs.length } else none
  | [], p => by
    rw [if_pos List.nil_prefix, List.length_nil, Cursor.ahead_zero]
    rfl
  | c :: cs, ⟨⟨n, before, rest⟩, groups⟩ => by
    have hstep : (sequence ((c :: cs).map char)).run ⟨⟨n, before, rest⟩, groups⟩ k =
        (char c).run ⟨⟨n, before, rest⟩, groups⟩ fun q => (sequence (cs.map char)).run q k := rfl
    rw [hstep, char, run]
    cases rest with
    | nil => simp
    | cons d rest =>
      dsimp only
      by_cases hd : d = c
      · subst hd
        rw [if_pos (CharSet.has_range_self.mpr rfl), run_sequence_char k cs, List.length_cons, ← Cursor.ahead_cons]
        simp only [List.cons_prefix_cons, true_and]
      · rw [if_neg fun h => hd (CharSet.has_range_self.mp h), if_neg fun h => hd (List.cons_prefix_cons.mp h).1.symm]

theorem isSome_matchAt?_literal {s : String} {c : Cursor} :
    ((literal s).matchAt? c).isSome = true ↔ s.toList <+: c.rest := by
  rw [literal, matchAt?, run_sequence_char]
  by_cases h : s.toList <+: c.rest <;> simp [h]

theorem literal_matches?_iff {s : String} {text : List Char} :
    (literal s).matches? text = true ↔ s.toList <:+: text := by
  rw [matches?, search?, List.isSome_findSome?, List.any_eq_true]
  simp only [isSome_matchAt?_literal]
  exact Cursor.exists_mem_placesFrom_iff

end Regex

theorem Pattern.literal_matches?_iff {s line : String} :
    (Pattern.literal s).matches? line = true ↔ s.toList <:+: line.toList :=
  Regex.literal_matches?_iff

end ClientMigration
