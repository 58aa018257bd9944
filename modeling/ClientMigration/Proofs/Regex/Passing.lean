import ClientMigration.Proofs.Regex.Literal
import ClientMigration.Proofs.Regex.Outcomes

/-! # What expressions pass over

The ways through the expressions that patterns are built of, told by the text that lies between their ends: a literal
passes over itself, a repeated set over a run of its characters, a group records what it passed over. A repeated set takes
the whole run first. -/

namespace ClientMigration

/-- The second progress is reached over a text, with the groups as they were. -/
structure Progress.Through (p : Progress) (w : List Char) (q : Progress) : Prop where
  passes : p.cursor.Passes w q.cursor
  groups : q.groups = p.groups

namespace Progress.Through
variable {p q m : Progress} {w w' : List Char}

theorem refl (p : Progress) : p.Through [] p := ⟨.refl _, rfl⟩

theorem trans (h : p.Through w m) (h' : m.Through w' q) : p.Through (w ++ w') q :=
  ⟨h.passes.trans h'.passes, h'.groups.trans h.groups⟩

/-- The text between tells where the way ends. -/
theorem unique {q' : Progress} (h : p.Through w q) (h' : p.Through w q') : q = q' := by
  have hrest : q.cursor.rest = q'.cursor.rest := List.append_cancel_left (h.passes.rest.symm.trans h'.passes.rest)
  have hcursor : q.cursor = q'.cursor := by
    cases hq : q.cursor
    cases hq' : q'.cursor
    have hbefore := h.passes.before.trans h'.passes.before.symm
    have hposition := h.passes.position.trans h'.passes.position.symm
    rw [hq, hq'] at hrest hbefore hposition
    exact Cursor.mk.injEq .. ▸ ⟨hposition, hbefore, hrest⟩
  cases q
  cases q'
  exact Progress.mk.injEq .. ▸ ⟨hcursor, h.groups.trans h'.groups.symm⟩

@[simp] theorem nil_iff : p.Through [] q ↔ q = p :=
  ⟨fun h => h.unique (refl p), fun h => h ▸ refl p⟩

/-- The way over a text goes over its first character first. -/
theorem cons {c : Char} (h : p.Through (c :: w) q) : ∃ m, p.Through [c] m ∧ m.Through w q := by
  have hrest := h.passes.rest
  have hbefore := h.passes.before
  have hposition := h.passes.position
  refine ⟨⟨⟨p.cursor.position + 1, c :: p.cursor.before, w ++ q.cursor.rest⟩, p.groups⟩, ⟨⟨hrest, rfl, rfl⟩, rfl⟩,
    ⟨⟨rfl, ?_, ?_⟩, h.groups⟩⟩
  · rw [hbefore, List.reverse_cons, List.append_assoc]
    rfl
  · rw [hposition, List.length_cons, Nat.add_assoc, Nat.add_comm 1]

end Progress.Through

namespace Regex
variable {p q : Progress}

/-! ### Sets -/

theorem mem_outcomes_set_iff {s : CharSet} :
    q ∈ (Regex.set s).outcomes p ↔ ∃ c, s.has c = true ∧ p.Through [c] q := by
  rw [outcomes]
  constructor
  · intro h
    split at h
    · cases h
    · rename_i c cs hrest
      split at h
      · rename_i hc
        rw [List.mem_singleton.mp h]
        exact ⟨c, hc, ⟨⟨hrest, rfl, rfl⟩, rfl⟩⟩
      · cases h
  · rintro ⟨c, hc, h⟩
    have hrest := h.passes.rest
    rw [List.singleton_append] at hrest
    rw [hrest]
    dsimp only
    rw [if_pos hc, List.mem_singleton]
    exact h.unique ⟨⟨hrest, rfl, rfl⟩, rfl⟩

@[simp] theorem mem_outcomes_char_iff {c : Char} : q ∈ (char c).outcomes p ↔ p.Through [c] q := by
  rw [char, mem_outcomes_set_iff]
  simp only [CharSet.has_range_self, exists_eq_left]

/-! ### Repetition -/

theorem outcomes_star (r : Regex) (p : Progress) :
    (star r).outcomes p = afterMany r.outcomes (p.cursor.rest.length + 1) p := List.append_nil _

theorem outcomes_plus (r : Regex) (p : Progress) : (plus r).outcomes p =
    (r.outcomes p).flatMap fun q => afterMany r.outcomes (q.cursor.rest.length + 1) q := by
  have hturn : (r.outcomes p).flatMap (afterTurns r.outcomes 0) = r.outcomes p := List.flatMap_singleton' _
  rw [plus, outcomes, afterTurns, hturn]
  rfl

theorem outcomes_optional (r : Regex) (p : Progress) : (optional r).outcomes p = r.outcomes p ++ [p] := by
  have hroom : roomFor 0 (some 1) p = 1 := by
    rw [roomFor]
    omega
  have hturn : (fun q => if p.cursor.position < q.cursor.position then afterMany r.outcomes 0 q else [q]) =
      fun q => [q] := funext fun q => ite_self _
  rw [optional, outcomes, afterTurns, List.flatMap_singleton, hroom, afterMany, hturn, List.flatMap_singleton']

theorem mem_outcomes_optional_iff {r : Regex} : q ∈ (optional r).outcomes p ↔ q ∈ r.outcomes p ∨ q = p := by
  rw [outcomes_optional, List.mem_append, List.mem_singleton]

/-- A run of characters of a set lies between the two. -/
def Runs (s : CharSet) (p q : Progress) : Prop := ∃ w, p.Through w q ∧ ∀ c ∈ w, s.has c = true

theorem Runs.refl (s : CharSet) (p : Progress) : Runs s p p := ⟨[], .refl p, List.forall_mem_nil _⟩

theorem Runs.trans {s : CharSet} (p m q : Progress) : Runs s p m → Runs s m q → Runs s p q := by
  rintro ⟨w, hw, hall⟩ ⟨w', hw', hall'⟩
  refine ⟨w ++ w', hw.trans hw', fun c hc => ?_⟩
  rcases List.mem_append.mp hc with hc | hc
  · exact hall c hc
  · exact hall' c hc

theorem runs_of_mem_set {s : CharSet} : ∀ p, ∀ q ∈ (Regex.set s).outcomes p, Runs s p q := by
  intro p q h
  obtain ⟨c, hc, h⟩ := mem_outcomes_set_iff.mp h
  exact ⟨[c], h, List.forall_mem_singleton.mpr hc⟩

theorem mem_afterMany_self (next : Progress → List Progress) (n : Nat) (p : Progress) : p ∈ afterMany next n p := by
  cases n with
  | zero => exact List.mem_singleton_self p
  | succ n => exact List.mem_append_right _ (List.mem_singleton_self p)

theorem mem_afterMany_of_through {s : CharSet} : ∀ {w : List Char} {n : Nat} {p : Progress}, p.Through w q →
    (∀ c ∈ w, s.has c = true) → w.length ≤ n → q ∈ afterMany (Regex.set s).outcomes n p
  | [], n, p, h, _, _ => by
    rw [Progress.Through.nil_iff.mp h]
    exact mem_afterMany_self _ n p
  | c :: w, 0, _, _, _, hn => absurd hn (Nat.not_succ_le_zero _)
  | c :: w, n + 1, p, h, hall, hn => by
    obtain ⟨m, hm, hq⟩ := h.cons
    refine List.mem_append_left _ (List.mem_flatMap.mpr ⟨m, ?_, ?_⟩)
    · exact mem_outcomes_set_iff.mpr ⟨c, hall c List.mem_cons_self, hm⟩
    · have hforward : p.cursor.position < m.cursor.position := by
        rw [hm.passes.position]
        exact Nat.lt_succ_self _
      rw [if_pos hforward]
      exact mem_afterMany_of_through hq (fun x hx => hall x (List.mem_cons_of_mem c hx)) (Nat.le_of_succ_le_succ hn)

theorem mem_afterMany_set_iff {s : CharSet} {n : Nat} (hn : p.cursor.rest.length ≤ n) :
    q ∈ afterMany (Regex.set s).outcomes n p ↔ Runs s p q := by
  refine ⟨rel_of_mem_afterMany (Runs.refl s) Runs.trans runs_of_mem_set n p q, ?_⟩
  rintro ⟨w, h, hall⟩
  have hlength := congrArg List.length h.passes.rest
  rw [List.length_append] at hlength
  exact mem_afterMany_of_through h hall (by omega)

/-- Any run of characters of a set is one of the ways through the repeated set. -/
theorem mem_outcomes_star_set_iff {s : CharSet} : q ∈ (star (.set s)).outcomes p ↔ Runs s p q := by
  rw [outcomes_star, mem_afterMany_set_iff (Nat.le_succ _)]

theorem mem_outcomes_plus_set_iff {s : CharSet} : q ∈ (plus (.set s)).outcomes p ↔
    ∃ w ≠ [], p.Through w q ∧ ∀ c ∈ w, s.has c = true := by
  rw [outcomes_plus, List.mem_flatMap]
  simp only [mem_outcomes_set_iff, mem_afterMany_set_iff (Nat.le_succ _)]
  constructor
  · rintro ⟨m, ⟨c, hc, hm⟩, w, hw, hall⟩
    exact ⟨c :: w, List.cons_ne_nil c w, hm.trans hw, List.forall_mem_cons.mpr ⟨hc, hall⟩⟩
  · rintro ⟨w, hne, hw, hall⟩
    obtain ⟨c, w, rfl⟩ := List.exists_cons_of_ne_nil hne
    obtain ⟨m, hm, hq⟩ := hw.cons
    rw [List.forall_mem_cons] at hall
    exact ⟨m, ⟨c, hall.1, hm⟩, w, hq, hall.2⟩

/-- The first way through a repeated set stops only where none of its characters follows. -/
theorem head_afterMany_set {s : CharSet} : ∀ {n : Nat} {p : Progress}, p.cursor.rest.length ≤ n →
    ∃ q, (afterMany (Regex.set s).outcomes n p).head? = some q ∧ ∀ c ∈ q.cursor.rest.head?, s.has c = false
  | 0, p, hn => by
    refine ⟨p, rfl, fun c hc => ?_⟩
    rw [List.length_eq_zero_iff.mp (Nat.le_zero.mp hn)] at hc
    cases hc
  | n + 1, p, hn => by
    rw [afterMany, outcomes]
    cases hrest : p.cursor.rest with
    | nil =>
      refine ⟨p, rfl, fun c hc => ?_⟩
      rw [hrest] at hc
      cases hc
    | cons c cs =>
      dsimp only
      by_cases hc : s.has c = true
      · rw [hrest] at hn
        obtain ⟨q, hq, hstop⟩ := @head_afterMany_set s n ⟨⟨p.cursor.position + 1, c :: p.cursor.before, cs⟩, p.groups⟩
          (Nat.le_of_succ_le_succ hn)
        refine ⟨q, ?_, hstop⟩
        rw [if_pos hc, List.flatMap_singleton, if_pos (Nat.lt_succ_self _), List.head?_append, hq]
        rfl
      · rw [if_neg hc]
        refine ⟨p, rfl, fun d hd => ?_⟩
        rw [hrest] at hd
        cases hd
        exact Bool.not_eq_true _ ▸ hc

theorem rest_of_head_outcomes_plus_set {s : CharSet} (h : ((plus (.set s)).outcomes p).head? = some q) :
    ∀ c ∈ q.cursor.rest.head?, s.has c = false := by
  rw [outcomes_plus, List.head?_flatMap, List.findSome?_eq_some_iff] at h
  obtain ⟨-, m, -, -, hq, -⟩ := h
  obtain ⟨q', hq', hstop⟩ := @head_afterMany_set s _ m (Nat.le_succ _)
  rw [hq'] at hq
  cases hq
  exact hstop

/-! ### Sequences and groups -/

@[simp] theorem mem_outcomes_sequence_cons {r : Regex} {rs : List Regex} :
    q ∈ (sequence (r :: rs)).outcomes p ↔ ∃ m ∈ r.outcomes p, q ∈ (sequence rs).outcomes m := List.mem_flatMap

@[simp] theorem mem_outcomes_sequence_nil : q ∈ (sequence []).outcomes p ↔ q = p := List.mem_singleton

theorem mem_outcomes_sequence_char : ∀ {cs : List Char} {p : Progress},
    q ∈ (sequence (cs.map char)).outcomes p ↔ p.Through cs q
  | [], p => mem_outcomes_sequence_nil.trans Progress.Through.nil_iff.symm
  | c :: cs, p => by
    rw [List.map_cons, mem_outcomes_sequence_cons]
    simp only [mem_outcomes_char_iff, mem_outcomes_sequence_char]
    constructor
    · rintro ⟨m, hm, hq⟩
      exact hm.trans hq
    · exact Progress.Through.cons

@[simp] theorem mem_outcomes_literal_iff {t : String} : q ∈ (literal t).outcomes p ↔ p.Through t.toList q :=
  mem_outcomes_sequence_char

theorem mem_outcomes_group_plus_set_iff {i : Nat} {s : CharSet} : q ∈ (Regex.group i (plus (.set s))).outcomes p ↔
    ∃ w ≠ [], (∀ c ∈ w, s.has c = true) ∧ p.cursor.Passes w q.cursor ∧ q.groups = (i, w) :: p.groups := by
  rw [outcomes, List.mem_map]
  simp only [mem_outcomes_plus_set_iff]
  constructor
  · rintro ⟨m, ⟨w, hne, hw, hall⟩, rfl⟩
    exact ⟨w, hne, hall, hw.passes, by rw [hw.passes.take_eq, hw.groups]⟩
  · rintro ⟨w, hne, hall, hpasses, hgroups⟩
    refine ⟨⟨q.cursor, p.groups⟩, ⟨w, hne, ⟨hpasses, rfl⟩, hall⟩, ?_⟩
    rw [hpasses.take_eq, ← hgroups]

/-- An expression without groups leaves them as they are. -/
theorem groups_of_mem_outcomes {r : Regex} (hr : r.indices = []) (h : q ∈ r.outcomes p) : q.groups = p.groups := by
  obtain ⟨new, hnew, hids⟩ := (reaches_of_mem_outcomes r p q h).groups
  cases new with
  | nil => exact hnew
  | cons x new =>
    have hmem := hids x List.mem_cons_self
    rw [hr] at hmem
    cases hmem

end Regex

end ClientMigration
