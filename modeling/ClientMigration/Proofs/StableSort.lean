/-! # Stable sorting

Sorting by a comparison that is total and transitive keeps the members of every part in the order in which sorting the
part alone puts them. Both properties are asked of the members of the list only. -/

namespace ClientMigration

variable {α : Type} {le : α → α → Bool}

section Total
variable (htrans : ∀ a b c, le a b = true → le b c = true → le a c = true) (htotal : ∀ a b, (le a b || le b a) = true)

/-- A list that parts at the members which `a` is at most has a single such place. -/
theorem filter_not_le_append {a : α} {xs ys : List α} (hxs : ∀ b ∈ xs, (!le a b) = true) (hys : ∀ b ∈ ys, le a b = true) :
    (xs ++ ys).filter (!le a ·) = xs := by
  rw [List.filter_append, List.filter_eq_self.mpr hxs, List.filter_eq_nil_iff.mpr, List.append_nil]
  intro b hb
  rw [hys b hb]
  exact Bool.false_ne_true

include htrans htotal

theorem le_of_mergeSort_eq {a : α} {l xs ys : List α} (h : l.mergeSort le = xs ++ a :: ys) : ∀ b ∈ ys, le a b = true := by
  intro b hb
  have hsorted := List.pairwise_mergeSort htrans htotal l
  rw [h, List.pairwise_append] at hsorted
  exact List.rel_of_pairwise_cons hsorted.2.1 hb

theorem filter_mergeSort_of_total (q : α → Bool) : ∀ l : List α, (l.mergeSort le).filter q = (l.filter q).mergeSort le
  | [] => by rw [List.mergeSort_nil, List.filter_nil, List.mergeSort_nil]
  | a :: l => by
    obtain ⟨l₁, l₂, hcons, hl, habove⟩ := List.mergeSort_cons htrans htotal a l
    have ih := filter_mergeSort_of_total q l
    rw [hl, List.filter_append] at ih
    rw [hcons, List.filter_append]
    cases hq : q a with
    | false =>
      have hnot : ¬q a = true := Bool.not_eq_true _ ▸ hq
      rw [List.filter_cons_of_neg hnot, List.filter_cons_of_neg hnot, ih]
    | true =>
      rw [List.filter_cons_of_pos hq, List.filter_cons_of_pos hq]
      obtain ⟨m₁, m₂, hmcons, hm, hmabove⟩ := List.mergeSort_cons htrans htotal a (l.filter q)
      rw [hm] at ih
      -- Both lists part where `a` goes: before that place `a` is not at most a member, behind it `a` is.
      have hfirst : l₁.filter q = m₁ := by
        rw [← filter_not_le_append hmabove (le_of_mergeSort_eq htrans htotal hmcons), ← ih]
        refine (filter_not_le_append (fun b hb => ?_) fun b hb => ?_).symm
        · exact habove b (List.mem_filter.mp hb).1
        · exact le_of_mergeSort_eq htrans htotal hcons b (List.mem_filter.mp hb).1
      rw [hfirst] at ih
      rw [hmcons, hfirst, List.append_cancel_left ih]

end Total

section Members
variable {l : List α} (htrans : ∀ a ∈ l, ∀ b ∈ l, ∀ c ∈ l, le a b = true → le b c = true → le a c = true)
  (htotal : ∀ a ∈ l, ∀ b ∈ l, (le a b || le b a) = true)

theorem map_val_mergeSort (l' : List { a // a ∈ l }) :
    (l'.mergeSort fun a b => le a.1 b.1).map Subtype.val = (l'.map Subtype.val).mergeSort le :=
  List.map_mergeSort fun _ _ _ _ => rfl

include htrans htotal

theorem filter_mergeSort (q : α → Bool) : (l.mergeSort le).filter q = (l.filter q).mergeSort le := by
  have hattached := @filter_mergeSort_of_total { a // a ∈ l } (fun a b => le a.1 b.1)
    (fun a b c => htrans a.1 a.2 b.1 b.2 c.1 c.2) (fun a b => htotal a.1 a.2 b.1 b.2) (q ∘ Subtype.val) l.attach
  have hvalues := congrArg (List.map Subtype.val) hattached
  rwa [← List.filter_map, map_val_mergeSort, map_val_mergeSort, ← List.filter_map, List.attach_map_subtype_val] at hvalues

theorem pairwise_mergeSort_of_members : (l.mergeSort le).Pairwise fun a b => le a b = true := by
  have hattached := @List.pairwise_mergeSort { a // a ∈ l } (fun a b => le a.1 b.1)
    (fun a b c => htrans a.1 a.2 b.1 b.2 c.1 c.2) (fun a b => htotal a.1 a.2 b.1 b.2) l.attach
  have hvalues := hattached.map Subtype.val (S := fun a b => le a b = true) fun _ _ h => h
  rwa [map_val_mergeSort, List.attach_map_subtype_val] at hvalues

/-- Sorting leaves the members of a part in their order if any two of them are at most each other. -/
theorem filter_mergeSort_of_tied {q : α → Bool} (htied : ∀ a ∈ l, ∀ b ∈ l, q a = true → q b = true → le a b = true) :
    (l.mergeSort le).filter q = l.filter q := by
  rw [filter_mergeSort htrans htotal]
  refine List.mergeSort_of_pairwise (List.pairwise_of_forall_mem_list fun a ha b hb => ?_)
  obtain ⟨ha, hqa⟩ := List.mem_filter.mp ha
  obtain ⟨hb, hqb⟩ := List.mem_filter.mp hb
  exact htied a ha b hb hqa hqb

/-- Members that are at most each other keep their order. -/
theorem pair_sublist_of_mergeSort {a b : α} (h : [a, b].Sublist (l.mergeSort le)) (hba : le b a = true) :
    [a, b].Sublist l := by
  have hmem : ∀ x ∈ [a, b], x ∈ l := fun x hx => List.mem_mergeSort.mp (h.subset hx)
  have ha := hmem a (by simp)
  have hb := hmem b (by simp)
  have hab : le a b = true := List.pairwise_iff_forall_sublist.mp (pairwise_mergeSort_of_members htrans htotal) h
  -- The members that are tied with `a`, and `b` is one of them, stay in their order.
  have hboth : [a, b].filter (fun x => le x a && le a x) = [a, b] := by
    have haa := htotal a ha a ha
    rw [Bool.or_self] at haa
    simp [haa, hab, hba]
  have hkept := h.filter fun x => le x a && le a x
  rw [hboth, filter_mergeSort_of_tied htrans htotal] at hkept
  · exact hkept.trans List.filter_sublist
  · intro x hx y hy hxa hya
    rw [Bool.and_eq_true] at hxa hya
    exact htrans x hx a ha y hy hxa.1 hya.2

end Members

end ClientMigration
