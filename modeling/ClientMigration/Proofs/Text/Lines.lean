import ClientMigration.Proofs.Text.Overlap

/-! # Lines of a text

A text is its lines with newlines between them. So a text without a newline occurs in it exactly if it occurs
on some line, and replacing such a target line by line is replacing it in the whole. -/

namespace ClientMigration.Text

/-! ### Splitting and joining -/

theorem splitLines_eq_pieces : ∀ text : List Char, splitLines text = pieces ['\n'] text
  | [] => by rw [splitLines, pieces_nil]
  | c :: cs => by
    by_cases hc : c = '\n'
    · subst hc
      rw [splitLines, if_pos rfl, splitLines_eq_pieces cs]
      exact (pieces_append (List.cons_ne_nil _ _)).symm
    · have hp : ¬['\n'] <+: c :: cs := fun h => hc (List.cons_prefix_cons.mp h).1.symm
      rw [splitLines, if_neg hc, splitLines_eq_pieces cs, pieces_cons hp]

theorem splitLines_ne_nil {text : List Char} : splitLines text ≠ [] := by
  rw [splitLines_eq_pieces]
  exact pieces_ne_nil

theorem intercalate_splitLines (text : List Char) : ['\n'].intercalate (splitLines text) = text := by
  rw [splitLines_eq_pieces]
  exact replaceAll_self (List.cons_ne_nil _ _) text

theorem toList_joinLines (ls : List String) : (joinLines ls).toList = ['\n'].intercalate (ls.map (·.toList)) := by
  rw [joinLines, String.toList_intercalate]
  rfl

theorem map_toList_lines (s : String) : (lines s).map (·.toList) = splitLines s.toList := by
  rw [lines, List.map_map]
  have : ((·.toList) ∘ String.ofList : List Char → List Char) = id := by
    funext cs
    exact String.toList_ofList
  rw [this, List.map_id]

theorem lines_ne_nil {s : String} : lines s ≠ [] := fun h => splitLines_ne_nil (List.map_eq_nil_iff.mp h)

theorem joinLines_lines (s : String) : joinLines (lines s) = s := by
  rw [← String.toList_inj, toList_joinLines, map_toList_lines, intercalate_splitLines]

/-- A function that ends a piece at each separator, and takes every other character into the first piece, splits. -/
theorem eq_splitOn {sep : Char} {split : List Char → List (List Char)} (hnil : split [] = [[]])
    (hcons : ∀ c cs, split (c :: cs) = if c = sep then [] :: split cs else consHead c (split cs)) :
    ∀ text : List Char, split text = text.splitOn sep
  | [] => hnil.trans (List.splitOn_nil _).symm
  | c :: cs => by
    have ih := eq_splitOn hnil hcons cs
    rw [hcons, List.splitOn_cons_eq_if_modifyHead, ih]
    by_cases hc : c = sep
    · rw [if_pos hc, if_pos (beq_iff_eq.mpr hc)]
    · rw [if_neg hc, if_neg (mt beq_iff_eq.mp hc)]
      cases hrest : cs.splitOn sep with
      | nil => exact absurd hrest (List.splitOn_ne_nil _ _)
      | cons piece pieces => rfl

theorem splitLines_eq_splitOn (text : List Char) : splitLines text = text.splitOn '\n' :=
  eq_splitOn rfl (fun _ _ => rfl) text

theorem not_mem_of_mem_splitOn {sep : Char} : ∀ {text l : List Char}, l ∈ text.splitOn sep → sep ∉ l
  | [], l, hl => by
    rw [List.splitOn_nil, List.mem_singleton] at hl
    exact hl ▸ List.not_mem_nil
  | c :: cs, l, hl => by
    rw [List.splitOn_cons_eq_if_modifyHead] at hl
    split at hl
    · rcases List.mem_cons.mp hl with rfl | hl
      · exact List.not_mem_nil
      · exact not_mem_of_mem_splitOn hl
    · rename_i hc
      cases hrest : cs.splitOn sep with
      | nil => exact absurd hrest (List.splitOn_ne_nil _ _)
      | cons piece pieces =>
        have ih : ∀ m ∈ piece :: pieces, sep ∉ m := fun m hm => not_mem_of_mem_splitOn (hrest ▸ hm)
        rw [hrest, List.modifyHead_cons] at hl
        rcases List.mem_cons.mp hl with rfl | hl
        · intro hmem
          rcases List.mem_cons.mp hmem with heq | hmem
          · exact hc (beq_iff_eq.mpr heq.symm)
          · exact ih piece List.mem_cons_self hmem
        · exact ih l (List.mem_cons_of_mem piece hl)

theorem newline_not_mem_of_mem_splitLines {text l : List Char} (h : l ∈ splitLines text) : '\n' ∉ l := by
  rw [splitLines_eq_splitOn] at h
  exact not_mem_of_mem_splitOn h

theorem newline_not_mem_of_mem_lines {s l : String} (h : l ∈ lines s) : '\n' ∉ l.toList := by
  have hl : l.toList ∈ splitLines s.toList := map_toList_lines s ▸ List.mem_map_of_mem h
  exact newline_not_mem_of_mem_splitLines hl

/-- Some lines without a newline in them are the lines of the text that they make. -/
theorem lines_joinLines {ls : List String} (hne : ls ≠ []) (h : ∀ l ∈ ls, '\n' ∉ l.toList) :
    lines (joinLines ls) = ls := by
  have hsplit : (['\n'].intercalate (ls.map (·.toList))).splitOn '\n' = ls.map (·.toList) := by
    refine List.splitOn_intercalate '\n' ?_ (mt List.map_eq_nil_iff.mp hne)
    rintro cs hcs
    obtain ⟨l, hl, rfl⟩ := List.mem_map.mp hcs
    exact h l hl
  rw [lines, toList_joinLines, splitLines_eq_splitOn, hsplit, List.map_map]
  exact (List.map_congr_left fun l _ => String.ofList_toList).trans (List.map_id ls)

/-- A newline between two texts puts the lines of the second behind those of the first. -/
theorem lines_append_newline (a b : String) : lines (a ++ "\n" ++ b) = lines a ++ lines b := by
  have hchars : (a ++ "\n" ++ b).toList = a.toList ++ '\n' :: b.toList := by
    rw [String.toList_append, String.toList_append, List.append_assoc]
    rfl
  rw [lines, hchars, splitLines_eq_splitOn, List.splitOn_append_cons_self, List.map_append, ← splitLines_eq_splitOn,
    ← splitLines_eq_splitOn]
  rfl

/-! ### Occurrences -/

theorem infix_append_cons_iff {t a b : List Char} {c : Char} (h : c ∉ t) :
    t <:+: a ++ c :: b ↔ t <:+: a ∨ t <:+: b := by
  have hnil : ∀ u : List Char, c ∉ u → u <+: c :: b → u = [] := by
    intro u hu hp
    rcases List.prefix_cons_iff.mp hp with hnil | ⟨v, rfl, -⟩
    · exact hnil
    · exact absurd List.mem_cons_self hu
  constructor
  · intro ho
    rcases List.infix_append_iff.mp ho with ho | ho | ⟨u, v, rfl, hu, hv⟩
    · exact Or.inl ho
    · rcases List.infix_cons_iff.mp ho with ho | ho
      · exact Or.inl (hnil t h ho ▸ List.nil_infix)
      · exact Or.inr ho
    · rw [hnil v (fun hv => h (List.mem_append_right u hv)) hv, List.append_nil]
      exact Or.inl hu.isInfix
  · rintro (ho | ho)
    · exact List.infix_append_of_infix_left ho
    · exact List.infix_append_of_infix_right (List.infix_cons ho)

theorem infix_intercalate_iff {t : List Char} {c : Char} (h : c ∉ t) :
    ∀ {ls : List (List Char)}, ls ≠ [] → (t <:+: [c].intercalate ls ↔ ∃ l ∈ ls, t <:+: l)
  | [], hls => absurd rfl hls
  | [l], _ => by simp
  | l :: m :: ls, _ => by
    rw [List.intercalate_cons_cons, List.append_assoc, List.singleton_append, infix_append_cons_iff h,
      infix_intercalate_iff h (List.cons_ne_nil m ls)]
    simp only [List.mem_cons, exists_eq_or_imp]

/-- A text without a newline occurs in a string exactly if it occurs on one of its lines. -/
theorem exists_mem_lines_iff {t : List Char} (h : '\n' ∉ t) {s : String} :
    (∃ l ∈ lines s, t <:+: l.toList) ↔ t <:+: s.toList := by
  rw [← intercalate_splitLines s.toList, infix_intercalate_iff h splitLines_ne_nil, ← map_toList_lines]
  constructor
  · rintro ⟨l, hl, ho⟩
    exact ⟨l.toList, List.mem_map_of_mem hl, ho⟩
  · rintro ⟨cs, hcs, ho⟩
    obtain ⟨l, hl, rfl⟩ := List.mem_map.mp hcs
    exact ⟨l, hl, ho⟩

/-! ### Replacing on lines -/

theorem overlaps_singleton {c : Char} : ∀ {a : List Char}, c ∉ a → overlaps a [c] = []
  | [], _ => rfl
  | d :: a, h => by
    rw [List.mem_cons, not_or] at h
    rw [overlaps, overlaps_singleton h.2, List.map_nil, List.append_nil]
    simp [h.1, Ne.symm h.1]

theorem not_prefix_cons_of_not_mem {target rest : List Char} {c : Char} (hne : target ≠ []) (h : c ∉ target) :
    ¬target <+: c :: rest := by
  intro hp
  rcases List.prefix_cons_iff.mp hp with hnil | ⟨t, rfl, -⟩
  · exact hne hnil
  · exact h List.mem_cons_self

theorem overlaps_tail_singleton {target : List Char} {c : Char} (h : c ∉ target) : overlaps target.tail [c] = [] :=
  overlaps_singleton fun hc => h (List.mem_of_mem_tail hc)

/-- Replacing a target without the separator works on each part. -/
theorem replaceAll_intercalate {target r : List Char} {c : Char} (hne : target ≠ []) (h : c ∉ target) :
    ∀ {ls : List (List Char)}, ls ≠ [] →
      replaceAll target r ([c].intercalate ls) = [c].intercalate (ls.map (replaceAll target r))
  | [], hls => absurd rfl hls
  | [l], _ => by simp
  | l :: m :: ls, _ => by
    rw [List.intercalate_cons_cons, List.append_assoc, replaceAll_append_border hne (overlaps_tail_singleton h),
      List.singleton_append, replaceAll_cons (not_prefix_cons_of_not_mem hne h),
      replaceAll_intercalate hne h (List.cons_ne_nil m ls)]
    simp [List.intercalate_cons_cons]

/-- What neither the target nor its replacement has in it is there as often as before. -/
theorem count_replaceAll {target r : List Char} {c : Char} (hne : target ≠ []) (ht : c ∉ target) (hr : c ∉ r)
    (text : List Char) : (replaceAll target r text).count c = text.count c := by
  induction text using scan_induction hne with
  | nil => simp
  | found rest ih =>
    rw [replaceAll_append hne, List.count_append, List.count_append, ih, List.count_eq_zero.mpr ht,
      List.count_eq_zero.mpr hr]
  | pass d rest hp ih => rw [replaceAll_cons hp, List.count_cons, List.count_cons, ih]

theorem length_splitLines : ∀ text : List Char, (splitLines text).length = text.count '\n' + 1
  | [] => rfl
  | c :: cs => by
    have ih := length_splitLines cs
    rw [splitLines, List.count_cons]
    by_cases hc : c = '\n'
    · rw [if_pos hc, List.length_cons, ih, if_pos (beq_iff_eq.mpr hc)]
    · rw [if_neg hc, length_consHead splitLines_ne_nil, ih, if_neg (mt beq_iff_eq.mp hc)]

/-- A text has one line more than it has newlines. -/
theorem length_lines (s : String) : (lines s).length = s.toList.count '\n' + 1 := by
  rw [lines, List.length_map, length_splitLines]

end ClientMigration.Text
