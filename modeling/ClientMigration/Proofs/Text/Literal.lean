import ClientMigration.Text.Literal

/-! # Finding and replacing, as a scan

The pieces of a text are found in one scan from left to right. At every place the target is found and
passed as a whole, or one character is passed. Counting and replacing follow the same two steps, and
`scan_induction` is the induction on them. -/

namespace ClientMigration.Text

theorem occursIn_iff {target : List Char} : ∀ {text : List Char}, occursIn target text = true ↔ target <:+: text
  | [] => by simp [occursIn]
  | c :: cs => by
    rw [occursIn, Bool.or_eq_true, List.isPrefixOf_iff_prefix, occursIn_iff, List.infix_cons_iff]

theorem contains_iff {s target : String} : contains s target = true ↔ target.toList <:+: s.toList := occursIn_iff

/-! ### Pieces -/

theorem consHead_ne_nil {c : Char} : ∀ {ps : List (List Char)}, consHead c ps ≠ []
  | [] => by simp [consHead]
  | _ :: _ => by simp [consHead]

theorem length_consHead {c : Char} : ∀ {ps : List (List Char)}, ps ≠ [] → (consHead c ps).length = ps.length
  | [], h => absurd rfl h
  | _ :: _, _ => rfl

theorem intercalate_consHead {r : List Char} {c : Char} :
    ∀ {ps : List (List Char)}, r.intercalate (consHead c ps) = c :: r.intercalate ps
  | [] => by simp [consHead]
  | [p] => by simp [consHead]
  | p :: q :: ps => by simp [consHead, List.intercalate_cons_cons]

theorem piecesFrom_ne_nil {target : List Char} : ∀ {skip : Nat} {text : List Char}, piecesFrom target skip text ≠ []
  | 0, [] => by simp [piecesFrom]
  | _ + 1, [] => by simp [piecesFrom]
  | _ + 1, _ :: _ => by
    rw [piecesFrom]
    exact piecesFrom_ne_nil
  | 0, c :: cs => by
    rw [piecesFrom]
    split
    · simp
    · exact consHead_ne_nil

theorem pieces_ne_nil {target text : List Char} : pieces target text ≠ [] := piecesFrom_ne_nil

/-- What is still to be passed of an occurrence plays no part in the pieces. -/
theorem piecesFrom_append {target rest : List Char} :
    ∀ {passed : List Char}, piecesFrom target passed.length (passed ++ rest) = pieces target rest
  | [] => rfl
  | _ :: passed => by
    rw [List.length_cons, List.cons_append, piecesFrom]
    exact piecesFrom_append

@[simp] theorem pieces_nil {target : List Char} : pieces target [] = [[]] := by simp [pieces, piecesFrom]

@[simp] theorem pieces_append {target rest : List Char} (h : target ≠ []) :
    pieces target (target ++ rest) = [] :: pieces target rest := by
  obtain ⟨c, cs, rfl⟩ := List.exists_cons_of_ne_nil h
  have hp : (c :: cs).isPrefixOf (c :: (cs ++ rest)) = true := by
    rw [List.isPrefixOf_iff_prefix]
    exact ⟨rest, rfl⟩
  rw [pieces, List.cons_append, piecesFrom, if_pos hp]
  exact congrArg _ piecesFrom_append

@[simp] theorem pieces_cons {target rest : List Char} {c : Char} (h : ¬target <+: c :: rest) :
    pieces target (c :: rest) = consHead c (pieces target rest) := by
  rw [← List.isPrefixOf_iff_prefix] at h
  rw [pieces, piecesFrom, if_neg h, pieces]

/-- The induction along a scan for several targets at once. -/
@[elab_as_elim]
theorem scan_induction_all {ts : List (List Char)} (h : ∀ t ∈ ts, t ≠ []) {motive : List Char → Prop} (nil : motive [])
    (found : ∀ t ∈ ts, ∀ rest, motive rest → motive (t ++ rest))
    (pass : ∀ c rest, (∀ t ∈ ts, ¬t <+: c :: rest) → motive rest → motive (c :: rest)) (text : List Char) :
    motive text := by
  induction hn : text.length using Nat.strongRecOn generalizing text with
  | ind n ih =>
    subst hn
    by_cases hp : ∃ t ∈ ts, t <+: text
    · obtain ⟨t, ht, rest, rfl⟩ := hp
      have := List.length_pos_iff.mpr (h t ht)
      exact found t ht rest (ih rest.length (by rw [List.length_append]; omega) rest rfl)
    · cases text with
      | nil => exact nil
      | cons c rest => exact pass c rest (fun t ht hpre => hp ⟨t, ht, hpre⟩) (ih rest.length (by simp) rest rfl)

/-- The induction along a scan for a target: it is found and passed, or a character is passed where it does
    not begin. -/
@[elab_as_elim]
theorem scan_induction {target : List Char} (h : target ≠ []) {motive : List Char → Prop} (nil : motive [])
    (found : ∀ rest, motive rest → motive (target ++ rest))
    (pass : ∀ c rest, ¬target <+: c :: rest → motive rest → motive (c :: rest)) (text : List Char) : motive text := by
  induction text using scan_induction_all (List.forall_mem_singleton.mpr h) with
  | nil => exact nil
  | found t ht rest ih =>
    rw [List.mem_singleton] at ht
    exact ht ▸ found rest ih
  | pass c rest hp ih => exact pass c rest (hp target (List.mem_singleton_self target)) ih

/-! ### Counting -/

@[simp] theorem countOf_nil {target : List Char} : countOf target [] = 0 := by simp [countOf]

@[simp] theorem countOf_append {target rest : List Char} (h : target ≠ []) :
    countOf target (target ++ rest) = countOf target rest + 1 := by
  have := List.length_pos_iff.mpr (@pieces_ne_nil target rest)
  rw [countOf, pieces_append h, countOf, List.length_cons]
  omega

@[simp] theorem countOf_cons {target rest : List Char} {c : Char} (h : ¬target <+: c :: rest) :
    countOf target (c :: rest) = countOf target rest := by
  rw [countOf, pieces_cons h, length_consHead pieces_ne_nil, countOf]

theorem countOf_eq_zero_iff {target : List Char} (h : target ≠ []) (text : List Char) :
    countOf target text = 0 ↔ ¬target <:+: text := by
  induction text using scan_induction h with
  | nil => simp [h]
  | found rest _ =>
    rw [countOf_append h]
    exact ⟨fun h0 => absurd h0 (Nat.succ_ne_zero _), fun hn => absurd List.infix_append_left hn⟩
  | pass c rest hp ih => rw [countOf_cons hp, ih, List.infix_cons_iff, not_or, and_iff_right hp]

/-! ### Replacing -/

@[simp] theorem replaceAll_nil {target r : List Char} : replaceAll target r [] = [] := by simp [replaceAll]

@[simp] theorem replaceAll_append {target r rest : List Char} (h : target ≠ []) :
    replaceAll target r (target ++ rest) = r ++ replaceAll target r rest := by
  rw [replaceAll, pieces_append h, List.intercalate_cons_of_ne_nil pieces_ne_nil, List.nil_append, replaceAll]

@[simp] theorem replaceAll_cons {target r rest : List Char} {c : Char} (h : ¬target <+: c :: rest) :
    replaceAll target r (c :: rest) = c :: replaceAll target r rest := by
  rw [replaceAll, pieces_cons h, intercalate_consHead, replaceAll]

theorem replaceAll_of_not_infix {target r : List Char} (h : target ≠ []) (text : List Char)
    (hn : ¬target <:+: text) : replaceAll target r text = text := by
  induction text using scan_induction h with
  | nil => exact replaceAll_nil
  | found rest _ => exact absurd List.infix_append_left hn
  | pass c rest hp ih => rw [replaceAll_cons hp, ih fun hi => hn (List.infix_cons hi)]

/-- A target that stands for itself is left alone. -/
theorem replaceAll_self {target : List Char} (h : target ≠ []) (text : List Char) :
    replaceAll target target text = text := by
  induction text using scan_induction h with
  | nil => exact replaceAll_nil
  | found rest ih => rw [replaceAll_append h, ih]
  | pass c rest hp ih => rw [replaceAll_cons hp, ih]

/-- Where the target occurs, the replacement does afterwards. -/
theorem infix_replaceAll {target r : List Char} (h : target ≠ []) (text : List Char) (ho : target <:+: text) :
    r <:+: replaceAll target r text := by
  induction text using scan_induction h with
  | nil => exact absurd (List.infix_nil.mp ho) h
  | found rest _ =>
    rw [replaceAll_append h]
    exact List.infix_append_left
  | pass c rest hp ih =>
    rw [replaceAll_cons hp]
    exact List.infix_cons (ih ((List.infix_cons_iff.mp ho).resolve_left hp))

theorem length_replaceAll {target r : List Char} (h : target ≠ []) (text : List Char) :
    (replaceAll target r text).length + countOf target text * target.length =
      text.length + countOf target text * r.length := by
  induction text using scan_induction h with
  | nil => simp
  | found rest ih =>
    rw [replaceAll_append h, countOf_append h, List.length_append, List.length_append, Nat.succ_mul, Nat.succ_mul]
    omega
  | pass c rest hp ih =>
    rw [replaceAll_cons hp, countOf_cons hp, List.length_cons, List.length_cons]
    omega

/-- Where the target occurs, the outcome tells what took its place. -/
theorem replaceAll_inj {target r r' : List Char} (h : target ≠ []) (text : List Char) (ho : target <:+: text) :
    replaceAll target r text = replaceAll target r' text ↔ r = r' := by
  refine ⟨fun heq => ?_, fun heq => by rw [heq]⟩
  have hlength : r.length = r'.length := by
    have hr := @length_replaceAll target r h text
    have hr' := @length_replaceAll target r' h text
    have hcount : 0 < countOf target text :=
      Nat.pos_of_ne_zero fun h0 => (countOf_eq_zero_iff h text).mp h0 ho
    rw [heq] at hr
    exact Nat.eq_of_mul_eq_mul_left hcount (by omega)
  induction text using scan_induction h with
  | nil => exact absurd (List.infix_nil.mp ho) h
  | found rest _ =>
    rw [replaceAll_append h, replaceAll_append h] at heq
    exact (List.append_inj heq hlength).1
  | pass c rest hp ih =>
    rw [replaceAll_cons hp, replaceAll_cons hp, List.cons.injEq] at heq
    exact ih ((List.infix_cons_iff.mp ho).resolve_left hp) heq.2

/-- Of some texts that occur, one occurs where none occurs before it. -/
theorem exists_first_infix {ws : List (List Char)} (hne : ∀ w ∈ ws, w ≠ []) {text : List Char}
    (h : ∃ w ∈ ws, w <:+: text) : ∃ w ∈ ws, ∃ a b, text = a ++ (w ++ b) ∧ ∀ v ∈ ws, ¬v <:+: a := by
  obtain ⟨w, hw, a, b, rfl⟩ := h
  by_cases hfree : ∃ v ∈ ws, v <:+: a
  · have hshorter : a.length < (a ++ w ++ b).length := by
      have := List.length_pos_iff.mpr (hne w hw)
      simp only [List.length_append]
      omega
    obtain ⟨v, hv, a', b', rfl, hfirst⟩ := exists_first_infix hne hfree
    exact ⟨v, hv, a', b' ++ (w ++ b), by simp only [List.append_assoc], hfirst⟩
  · refine ⟨w, hw, a, b, List.append_assoc a w b, fun v hv ho => hfree ⟨v, hv, ho⟩⟩
termination_by text.length

end ClientMigration.Text
