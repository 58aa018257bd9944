import ClientMigration.Proofs.Text.Overlap

/-! # The line of the first occurrence

Where a target first occurs, its line is one more than the newlines in front of it. Replacing another target leaves
that line alone if the two never meet, nothing is brought in that the first could meet, and what is written has as many
newlines as what it takes the place of. -/

namespace ClientMigration.Text

/-- The target first occurs right behind `front`. -/
structure FirstAfter (target text front : List Char) : Prop where
  occurs : front ++ target <+: text
  first : ∀ earlier, earlier ++ target <+: text → front <+: earlier

/-- The first occurrence of the target begins on this line, counted from one. -/
def BeginsOn (target text : List Char) (line : Int) : Prop :=
  ∃ front, FirstAfter target text front ∧ line = (front.count '\n' : Int) + 1

variable {target : List Char}

/-! ### Along a scan -/

theorem not_firstAfter_nil (h : target ≠ []) {front : List Char} : ¬FirstAfter target [] front := by
  rintro ⟨hocc, -⟩
  exact h (List.append_eq_nil_iff.mp (List.prefix_nil.mp hocc)).2

theorem firstAfter_append_iff {rest front : List Char} : FirstAfter target (target ++ rest) front ↔ front = [] := by
  constructor
  · rintro ⟨-, hfirst⟩
    exact List.prefix_nil.mp (hfirst [] (List.prefix_append target rest))
  · rintro rfl
    exact ⟨List.prefix_append target rest, fun _ _ => List.nil_prefix⟩

theorem firstAfter_cons_iff {c : Char} {rest front : List Char} (hp : ¬target <+: c :: rest) :
    FirstAfter target (c :: rest) front ↔ ∃ front', front = c :: front' ∧ FirstAfter target rest front' := by
  constructor
  · rintro ⟨hocc, hfirst⟩
    cases front with
    | nil => exact absurd hocc hp
    | cons x front' =>
      obtain ⟨rfl, hocc'⟩ := List.cons_prefix_cons.mp hocc
      refine ⟨front', rfl, hocc', fun earlier he => ?_⟩
      exact (List.cons_prefix_cons.mp (hfirst (x :: earlier) (List.cons_prefix_cons.mpr ⟨rfl, he⟩))).2
  · rintro ⟨front', rfl, hocc, hfirst⟩
    refine ⟨List.cons_prefix_cons.mpr ⟨rfl, hocc⟩, fun earlier he => ?_⟩
    cases earlier with
    | nil => exact absurd he hp
    | cons x earlier' =>
      obtain ⟨rfl, he'⟩ := List.cons_prefix_cons.mp he
      exact List.cons_prefix_cons.mpr ⟨rfl, hfirst earlier' he'⟩

theorem count_newline_cons (c : Char) (cs : List Char) : (c :: cs).count '\n' = [c].count '\n' + cs.count '\n' := by
  rw [← List.count_append, List.singleton_append]

@[simp] theorem firstLine?_nil : firstLine? target [] = none := by rw [firstLine?, pieces_nil]

@[simp] theorem firstLine?_append (h : target ≠ []) {rest : List Char} : firstLine? target (target ++ rest) = some 1 := by
  obtain ⟨piece, pieces, hpieces⟩ := List.exists_cons_of_ne_nil (@pieces_ne_nil target rest)
  rw [firstLine?, pieces_append h, hpieces]
  rfl

theorem firstLine?_cons {c : Char} {rest : List Char} (hp : ¬target <+: c :: rest) :
    firstLine? target (c :: rest) = (firstLine? target rest).map ([c].count '\n' + ·) := by
  rw [firstLine?, firstLine?, pieces_cons hp]
  match hpieces : pieces target rest with
  | [] => exact absurd hpieces pieces_ne_nil
  | [_] => rfl
  | piece :: _ :: _ => simp only [consHead, count_newline_cons c piece, Option.map_some, Nat.add_assoc]

/-- A part of the text in which the target does not begin moves it down by its newlines. -/
theorem Clear.firstLine?_append {rest : List Char} : ∀ {a : List Char}, Clear a target rest →
    firstLine? target (a ++ rest) = (firstLine? target rest).map (a.count '\n' + ·)
  | [], _ => by simp
  | c :: a, hc => by
    rw [List.cons_append, firstLine?_cons hc.not_prefix, hc.tail.firstLine?_append, Option.map_map]
    simp only [Function.comp_def, count_newline_cons c a, Nat.add_assoc]

/-! ### What the line says -/

theorem map_firstLine?_eq_some_iff (h : target ≠ []) (text : List Char) {line : Int} :
    (firstLine? target text).map Int.ofNat = some line ↔ BeginsOn target text line := by
  induction text using scan_induction h generalizing line with
  | nil =>
    rw [firstLine?_nil]
    exact iff_of_false (Option.some_ne_none line).symm fun ⟨_, hfront, _⟩ => not_firstAfter_nil h hfront
  | found rest _ =>
    rw [firstLine?_append h, Option.map_some, Option.some.injEq, BeginsOn]
    simp only [firstAfter_append_iff, exists_eq_left, List.count_nil]
    exact eq_comm
  | pass c rest hp ih =>
    have hmoved : (firstLine? target (c :: rest)).map Int.ofNat =
        ((firstLine? target rest).map Int.ofNat).map (([c].count '\n' : Int) + ·) := by
      rw [firstLine?_cons hp, Option.map_map, Option.map_map]
      rfl
    rw [hmoved, Option.map_eq_some_iff, BeginsOn]
    simp only [ih, firstAfter_cons_iff hp, BeginsOn]
    constructor
    · rintro ⟨_, ⟨front, hfront, rfl⟩, rfl⟩
      have hcount := count_newline_cons c front
      exact ⟨c :: front, ⟨front, rfl, hfront⟩, by omega⟩
    · rintro ⟨_, ⟨front, rfl, hfront⟩, rfl⟩
      have hcount := count_newline_cons c front
      exact ⟨_, ⟨front, hfront, rfl⟩, by omega⟩

theorem firstLine?_eq_none_iff (h : target ≠ []) (text : List Char) :
    firstLine? target text = none ↔ ¬target <:+: text := by
  induction text using scan_induction h with
  | nil => simp [h]
  | found rest _ =>
    rw [firstLine?_append h]
    exact iff_of_false (Option.some_ne_none 1) fun hn => hn List.infix_append_left
  | pass c rest hp ih => rw [firstLine?_cons hp, Option.map_eq_none_iff, ih, List.infix_cons_iff, not_or, and_iff_right hp]

/-! ### What replacing another target leaves -/

theorem firstLine?_replaceAll (h : target ≠ []) {t r : List Char} (ht : t ≠ []) (hapart : Apart target t)
    (hr : Apart target r) (hlines : t.count '\n' = r.count '\n') (text : List Char) :
    firstLine? target (replaceAll t r text) = firstLine? target text := by
  induction text using scan_induction_two h ht with
  | nil => simp
  | first rest _ =>
    rw [(clear_of_overlaps hapart.left).replaceAll_append, firstLine?_append h, firstLine?_append h]
  | second rest ih =>
    rw [replaceAll_append ht, (clear_of_overlaps hr.right).firstLine?_append,
      (clear_of_overlaps hapart.right).firstLine?_append, ih, hlines]
  | pass c rest hp hpt ih =>
    -- The target does not begin here afterwards: it would have begun here before.
    have hafter : ¬target <+: c :: replaceAll t r rest := by
      rw [← replaceAll_cons hpt]
      exact fun hpre => hp (prefix_of_prefix_replaceAll ht _ hr.left hpre)
    rw [replaceAll_cons hpt, firstLine?_cons hafter, firstLine?_cons hp, ih]

end ClientMigration.Text
