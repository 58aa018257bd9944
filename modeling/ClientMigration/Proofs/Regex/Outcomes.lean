import ClientMigration.Regex.Basic

/-! # The ways through an expression

From a place in a text an expression has a list of ways through, in the order in which they are tried. Matching takes the
first of them that the rest of the match accepts, so what a match is can be read off the list. Every way goes forward over
the characters ahead, and adds to what the groups hold only under the numbers of the groups in the expression. -/

namespace ClientMigration

theorem findSome?_flatMap {α β γ : Type} {f : α → List β} {k : β → Option γ} :
    ∀ l : List α, (l.flatMap f).findSome? k = l.findSome? fun a => (f a).findSome? k
  | [] => rfl
  | a :: l => by
    rw [List.flatMap_cons, List.findSome?_append, findSome?_flatMap l, List.findSome?_cons]
    cases (f a).findSome? k <;> rfl

theorem findSome?_toList {α β : Type} (o : Option α) (k : α → Option β) : o.toList.findSome? k = o.bind k := by
  cases o with
  | none => rfl
  | some a => exact List.findSome?_singleton

theorem findSome?_range_eq_some_iff {α : Type} {f : Nat → Option α} {a : α} : ∀ {n : Nat},
    (List.range n).findSome? f = some a ↔ ∃ i < n, f i = some a ∧ ∀ j < i, f j = none
  | 0 => by simp
  | n + 1 => by
    rw [List.range_succ, List.findSome?_append, List.findSome?_singleton, Option.or_eq_some_iff,
      findSome?_range_eq_some_iff, List.findSome?_eq_none_iff]
    simp only [List.mem_range]
    constructor
    · rintro (⟨i, hi, hfound⟩ | ⟨hnone, hfound⟩)
      · exact ⟨i, Nat.lt_succ_of_lt hi, hfound⟩
      · exact ⟨n, Nat.lt_succ_self n, hfound, hnone⟩
    · rintro ⟨i, hi, hfound, hnone⟩
      rcases Nat.lt_succ_iff_lt_or_eq.mp hi with hi | rfl
      · exact Or.inl ⟨i, hi, hfound, hnone⟩
      · exact Or.inr ⟨hnone, hfound⟩

theorem findSome?_some {α : Type} (l : List α) : l.findSome? some = l.head? := by
  cases l <;> rfl

namespace Regex

/-! ### The list of ways -/

/-- Where so many turns lead. -/
def afterTurns (next : Progress → List Progress) : Nat → Progress → List Progress
  | 0, p => [p]
  | n + 1, p => (next p).flatMap (afterTurns next n)

/-- Where up to so many further turns lead, after most turns first. -/
def afterMany (next : Progress → List Progress) : Nat → Progress → List Progress
  | 0, p => [p]
  | n + 1, p =>
    ((next p).flatMap fun q => if p.cursor.position < q.cursor.position then afterMany next n q else [q]) ++ [p]

/-- Where up to so many further turns lead, after fewest turns first. -/
def afterFew (next : Progress → List Progress) : Nat → Progress → List Progress
  | 0, p => [p]
  | n + 1, p =>
    p :: (next p).flatMap fun q => if p.cursor.position < q.cursor.position then afterFew next n q else [q]

/-- Where the expression leads, in the order in which its ways are tried. -/
def outcomes : Regex → Progress → List Progress
  | .empty, p => [p]
  | .set s, p =>
    match p.cursor.rest with
    | [] => []
    | c :: cs => if s.has c then [{ p with cursor := ⟨p.cursor.position + 1, c :: p.cursor.before, cs⟩ }] else []
  | .anchor a, p => if a.holds p.cursor then [p] else []
  | .seq a b, p => (a.outcomes p).flatMap b.outcomes
  | .alt a b, p => a.outcomes p ++ b.outcomes p
  | .many r least most, p =>
    (afterTurns r.outcomes least p).flatMap fun q => afterMany r.outcomes (roomFor least most q) q
  | .few r least most, p =>
    (afterTurns r.outcomes least p).flatMap fun q => afterFew r.outcomes (roomFor least most q) q
  | .firm r least most, p =>
    (firmTurns (fun q => (r.outcomes q).head?) least p).toList.map fun q =>
      furtherFirmTurns (fun q => (r.outcomes q).head?) (roomFor least most q) q
  | .group i r, p =>
    (r.outcomes p).map fun q =>
      { q with groups := (i, p.cursor.rest.take (q.cursor.position - p.cursor.position)) :: q.groups }
  | .once r, p => (r.outcomes p).head?.toList
  | .look back wanted r, p =>
    match (p.cursor.back? back).bind fun c => (r.outcomes { p with cursor := c }).head? with
    | some q => if wanted then [{ p with groups := q.groups }] else []
    | none => if wanted then [] else [p]
  | .again i fold, p =>
    match p.groups.lookup i with
    | none => []
    | some held =>
      if (p.cursor.rest.take held.length).map fold.key = held.map fold.key then
        [{ p with cursor := p.cursor.ahead held.length }]
      else []
  | .provided i yes no, p => if (p.groups.lookup i).isSome then yes.outcomes p else no.outcomes p

section Turns
variable {α : Type} {way : Way α} {next : Progress → List Progress} (h : ∀ p k, way p k = (next p).findSome? k)
include h

theorem turns_eq : ∀ n p k, turns way n p k = (afterTurns next n p).findSome? k
  | 0, _, k => by
    rw [turns, afterTurns, List.findSome?_singleton]
  | n + 1, p, k => by
    rw [turns, h, afterTurns, findSome?_flatMap]
    exact congrArg (List.findSome? · (next p)) (funext fun q => turns_eq n q k)

theorem furtherTurns_eq : ∀ n p k, furtherTurns way n p k = (afterMany next n p).findSome? k
  | 0, _, k => by
    rw [furtherTurns, afterMany, List.findSome?_singleton]
  | n + 1, p, k => by
    have hturn : (fun q => if p.cursor.position < q.cursor.position then furtherTurns way n q k else k q) =
        fun q => (if p.cursor.position < q.cursor.position then afterMany next n q else [q]).findSome? k := by
      funext q
      split
      · exact furtherTurns_eq n q k
      · exact List.findSome?_singleton.symm
    rw [furtherTurns, h, hturn, afterMany, List.findSome?_append, findSome?_flatMap, List.findSome?_singleton,
      Option.orElse_eq_or]

theorem fewTurns_eq : ∀ n p k, fewTurns way n p k = (afterFew next n p).findSome? k
  | 0, _, k => by
    rw [fewTurns, afterFew, List.findSome?_singleton]
  | n + 1, p, k => by
    have hturn : (fun q => if p.cursor.position < q.cursor.position then fewTurns way n q k else k q) =
        fun q => (if p.cursor.position < q.cursor.position then afterFew next n q else [q]).findSome? k := by
      funext q
      split
      · exact fewTurns_eq n q k
      · exact List.findSome?_singleton.symm
    rw [fewTurns, h, hturn, afterFew, List.findSome?_cons, findSome?_flatMap]
    cases k p <;> rfl

end Turns

/-- Matching takes the first way that the rest of the match accepts. -/
theorem run_eq (r : Regex) : ∀ {α : Type} (p : Progress) (k : Progress → Option α),
    r.run p k = (r.outcomes p).findSome? k := by
  induction r with
  | empty =>
    intro α p k
    exact List.findSome?_singleton.symm
  | set s =>
    intro α p k
    rw [run, outcomes]
    cases p.cursor.rest with
    | nil => rfl
    | cons c cs =>
      dsimp only
      split
      · exact List.findSome?_singleton.symm
      · rfl
  | anchor a =>
    intro α p k
    rw [run, outcomes]
    split
    · exact List.findSome?_singleton.symm
    · rfl
  | seq a b iha ihb =>
    intro α p k
    rw [run, outcomes, findSome?_flatMap, iha]
    exact congrArg (List.findSome? · (a.outcomes p)) (funext fun q => ihb q k)
  | alt a b iha ihb =>
    intro α p k
    rw [run, outcomes, List.findSome?_append, iha, ihb, Option.orElse_eq_or]
  | many r least most ih =>
    intro α p k
    rw [run, outcomes, findSome?_flatMap, turns_eq ih]
    exact congrArg (List.findSome? · _) (funext fun q => furtherTurns_eq ih _ q k)
  | few r least most ih =>
    intro α p k
    rw [run, outcomes, findSome?_flatMap, turns_eq ih]
    exact congrArg (List.findSome? · _) (funext fun q => fewTurns_eq ih _ q k)
  | firm r least most ih =>
    intro α p k
    have hturn : (fun q => r.run q some) = fun q => (r.outcomes q).head? :=
      funext fun q => (ih q some).trans (findSome?_some _)
    rw [run, outcomes, hturn, List.findSome?_map, findSome?_toList]
    rfl
  | group i r ih =>
    intro α p k
    rw [run, outcomes, ih, List.findSome?_map]
    rfl
  | once r ih =>
    intro α p k
    rw [run, outcomes, ih, findSome?_some, findSome?_toList]
  | look back wanted r ih =>
    intro α p k
    have hlook : (fun c => r.run { p with cursor := c } some) = fun c => (r.outcomes { p with cursor := c }).head? :=
      funext fun c => (ih _ some).trans (findSome?_some _)
    rw [run, outcomes, hlook]
    cases (p.cursor.back? back).bind fun c => (r.outcomes { p with cursor := c }).head? with
    | none => cases wanted <;> simp
    | some q => cases wanted <;> simp
  | again i fold =>
    intro α p k
    rw [run, outcomes]
    cases p.groups.lookup i with
    | none => rfl
    | some held =>
      dsimp only
      split
      · exact List.findSome?_singleton.symm
      · rfl
  | provided i yes no ihyes ihno =>
    intro α p k
    rw [run, outcomes, ihyes, ihno]
    split <;> rfl

end Regex

/-! ### Places -/

namespace Cursor

/-- The second place comes after the first, with a text between them. -/
structure Passes (c : Cursor) (w : List Char) (c' : Cursor) : Prop where
  rest : c.rest = w ++ c'.rest
  before : c'.before = w.reverse ++ c.before
  position : c'.position = c.position + w.length

namespace Passes
variable {c c' c'' : Cursor} {w w' : List Char}

theorem refl (c : Cursor) : c.Passes [] c := ⟨rfl, rfl, rfl⟩

theorem trans (h : c.Passes w c') (h' : c'.Passes w' c'') : c.Passes (w ++ w') c'' where
  rest := by rw [h.rest, h'.rest, List.append_assoc]
  before := by rw [h'.before, h.before, List.reverse_append, List.append_assoc]
  position := by rw [h'.position, h.position, List.length_append, Nat.add_assoc]

theorem ahead {n : Nat} (h : n ≤ c.rest.length) : c.Passes (c.rest.take n) (c.ahead n) where
  rest := (List.take_append_drop n c.rest).symm
  before := rfl
  position := by rw [List.length_take, Nat.min_eq_left h]; rfl

/-- What lies between two places is what is taken of the text ahead. -/
theorem take_eq (h : c.Passes w c') : c.rest.take (c'.position - c.position) = w := by
  rw [h.position, Nat.add_sub_cancel_left, h.rest, List.take_left]

end Passes

/-- The place after so many characters of a text. -/
def atOffset (text : List Char) (n : Nat) : Cursor := ⟨n, (text.take n).reverse, text.drop n⟩

theorem placesFrom_eq : ∀ (n : Nat) (before text : List Char), placesFrom n before text =
    (List.range (text.length + 1)).map fun i => ⟨n + i, (text.take i).reverse ++ before, text.drop i⟩
  | _, _, [] => rfl
  | n, before, c :: cs => by
    rw [placesFrom, placesFrom_eq (n + 1), List.length_cons, @List.range_succ_eq_map (cs.length + 1), List.map_cons,
      List.map_map]
    refine congrArg (List.cons _) (List.map_congr_left fun i _ => ?_)
    have hposition : n + 1 + i = n + (i + 1) := by omega
    simp [hposition]

theorem places_eq (text : List Char) : places text = (List.range (text.length + 1)).map (atOffset text) := by
  rw [places, placesFrom_eq]
  simp only [Nat.zero_add, List.append_nil]
  rfl

end Cursor

namespace Regex

theorem matchAt?_eq (r : Regex) (c : Cursor) : r.matchAt? c =
    (r.outcomes ⟨c, []⟩).head?.map fun p => ⟨p.cursor.position - c.position, p.groups⟩ := by
  rw [matchAt?, run_eq]
  cases r.outcomes ⟨c, []⟩ <;> rfl

/-- The match begins at a place of the text, and none begins before it. -/
def MatchesLeftmost (r : Regex) (text : List Char) (h : Hit) : Prop :=
  ∃ n ≤ text.length, r.matchAt? (.atOffset text n) = some h ∧ ∀ m < n, r.matchAt? (.atOffset text m) = none

theorem search?_eq_some_iff {r : Regex} {text : List Char} {h : Hit} :
    r.search? text = some h ↔ r.MatchesLeftmost text h := by
  rw [search?, Cursor.places_eq, List.findSome?_map, findSome?_range_eq_some_iff]
  simp only [Nat.lt_succ_iff]
  rfl

/-! ### Where ways lead -/

/-- The numbers of the groups in an expression. -/
def indices : Regex → List Nat
  | .group i r => i :: r.indices
  | .seq a b | .alt a b | .provided _ a b => a.indices ++ b.indices
  | .many r _ _ | .few r _ _ | .firm r _ _ | .once r | .look _ _ r => r.indices
  | .empty | .set _ | .anchor _ | .again _ _ => []

/-- The second progress lies ahead of the first, and its groups hold more under the given numbers at most. -/
structure Reaches (ids : List Nat) (p q : Progress) : Prop where
  passes : ∃ w, p.cursor.Passes w q.cursor
  groups : ∃ new, q.groups = new ++ p.groups ∧ ∀ x ∈ new, x.1 ∈ ids

namespace Reaches
variable {ids ids' : List Nat} {p q m : Progress}

theorem refl (ids : List Nat) (p : Progress) : Reaches ids p p := ⟨⟨[], .refl _⟩, [], rfl, fun _ h => nomatch h⟩

theorem trans (h : Reaches ids p m) (h' : Reaches ids m q) : Reaches ids p q := by
  obtain ⟨⟨w, hw⟩, new, hnew, hids⟩ := h
  obtain ⟨⟨w', hw'⟩, new', hnew', hids'⟩ := h'
  refine ⟨⟨w ++ w', hw.trans hw'⟩, new' ++ new, by rw [hnew', hnew, List.append_assoc], fun x hx => ?_⟩
  rcases List.mem_append.mp hx with hx | hx
  · exact hids' x hx
  · exact hids x hx

theorem mono (h : Reaches ids p q) (hsub : ids ⊆ ids') : Reaches ids' p q :=
  ⟨h.passes, h.groups.imp fun _ hnew => ⟨hnew.1, fun x hx => hsub (hnew.2 x hx)⟩⟩

theorem of_groups_eq {w : List Char} (h : p.cursor.Passes w q.cursor) (hgroups : q.groups = p.groups) :
    Reaches ids p q := ⟨⟨w, h⟩, [], hgroups, fun _ h => nomatch h⟩

end Reaches

section Closed
variable {R : Progress → Progress → Prop} (hrefl : ∀ p, R p p) (htrans : ∀ p m q, R p m → R m q → R p q)
  {next : Progress → List Progress} (hnext : ∀ p, ∀ q ∈ next p, R p q)
include htrans hnext

theorem rel_of_mem_turn {n : Nat} {after : Nat → Progress → List Progress} (hafter : ∀ p, ∀ q ∈ after n p, R p q)
    {p q : Progress}
    (hq : q ∈ (next p).flatMap fun q => if p.cursor.position < q.cursor.position then after n q else [q]) : R p q := by
  obtain ⟨m, hm, hq⟩ := List.mem_flatMap.mp hq
  split at hq
  · exact htrans p m q (hnext p m hm) (hafter m q hq)
  · exact List.mem_singleton.mp hq ▸ hnext p m hm

include hrefl

theorem rel_of_mem_afterTurns : ∀ n p, ∀ q ∈ afterTurns next n p, R p q
  | 0, p, q, hq => List.mem_singleton.mp hq ▸ hrefl p
  | n + 1, p, q, hq => by
    obtain ⟨m, hm, hq⟩ := List.mem_flatMap.mp hq
    exact htrans p m q (hnext p m hm) (rel_of_mem_afterTurns n m q hq)

theorem rel_of_mem_afterMany : ∀ n p, ∀ q ∈ afterMany next n p, R p q
  | 0, p, q, hq => List.mem_singleton.mp hq ▸ hrefl p
  | n + 1, p, q, hq => by
    rcases List.mem_append.mp hq with hq | hq
    · exact rel_of_mem_turn htrans hnext (rel_of_mem_afterMany n) hq
    · exact List.mem_singleton.mp hq ▸ hrefl p

theorem rel_of_mem_afterFew : ∀ n p, ∀ q ∈ afterFew next n p, R p q
  | 0, p, q, hq => List.mem_singleton.mp hq ▸ hrefl p
  | n + 1, p, q, hq => by
    rcases List.mem_cons.mp hq with rfl | hq
    · exact hrefl q
    · exact rel_of_mem_turn htrans hnext (rel_of_mem_afterFew n) hq

section Firm
variable {turn : Progress → Option Progress} (hturn : ∀ p q, turn p = some q → R p q)
omit hnext
include hturn

theorem rel_of_firmTurns : ∀ n p q, firmTurns turn n p = some q → R p q
  | 0, p, q, hq => by
    cases hq
    exact hrefl p
  | n + 1, p, q, hq => by
    obtain ⟨m, hm, hq⟩ := Option.bind_eq_some_iff.mp hq
    exact htrans p m q (hturn p m hm) (rel_of_firmTurns n m q hq)

theorem rel_furtherFirmTurns : ∀ n p, R p (furtherFirmTurns turn n p)
  | 0, p => hrefl p
  | n + 1, p => by
    rw [furtherFirmTurns]
    split
    · exact hrefl p
    · rename_i m hm
      split
      · exact htrans p m _ (hturn p m hm) (rel_furtherFirmTurns n m)
      · exact hturn p m hm

end Firm

end Closed

/-- A way leads forward and fills groups of the expression only. -/
theorem reaches_of_mem_outcomes (r : Regex) : ∀ p, ∀ q ∈ r.outcomes p, Reaches r.indices p q := by
  induction r with
  | empty =>
    intro p q hq
    rw [List.mem_singleton.mp hq]
    exact .refl _ p
  | set s =>
    intro p q hq
    rw [outcomes] at hq
    split at hq
    · cases hq
    · rename_i c cs hrest
      split at hq
      · rw [List.mem_singleton.mp hq]
        exact .of_groups_eq (w := [c]) ⟨hrest, rfl, rfl⟩ rfl
      · cases hq
  | anchor a =>
    intro p q hq
    rw [outcomes] at hq
    split at hq
    · rw [List.mem_singleton.mp hq]
      exact .refl _ p
    · cases hq
  | seq a b iha ihb =>
    intro p q hq
    obtain ⟨m, hm, hq⟩ := List.mem_flatMap.mp hq
    exact ((iha p m hm).mono (List.subset_append_left _ _)).trans ((ihb m q hq).mono (List.subset_append_right _ _))
  | alt a b iha ihb =>
    intro p q hq
    rcases List.mem_append.mp hq with hq | hq
    · exact (iha p q hq).mono (List.subset_append_left _ _)
    · exact (ihb p q hq).mono (List.subset_append_right _ _)
  | many r least most ih =>
    intro p q hq
    obtain ⟨m, hm, hq⟩ := List.mem_flatMap.mp hq
    exact (rel_of_mem_afterTurns (Reaches.refl _) (fun _ _ _ => Reaches.trans) ih _ p m hm).trans
      (rel_of_mem_afterMany (Reaches.refl _) (fun _ _ _ => Reaches.trans) ih _ m q hq)
  | few r least most ih =>
    intro p q hq
    obtain ⟨m, hm, hq⟩ := List.mem_flatMap.mp hq
    exact (rel_of_mem_afterTurns (Reaches.refl _) (fun _ _ _ => Reaches.trans) ih _ p m hm).trans
      (rel_of_mem_afterFew (Reaches.refl _) (fun _ _ _ => Reaches.trans) ih _ m q hq)
  | firm r least most ih =>
    intro p q hq
    have hturn : ∀ p q, (r.outcomes p).head? = some q → Reaches r.indices p q := fun p q h =>
      ih p q (List.mem_of_mem_head? h)
    obtain ⟨m, hm, rfl⟩ := List.mem_map.mp hq
    exact (rel_of_firmTurns (Reaches.refl _) (fun _ _ _ => Reaches.trans) hturn _ p m (Option.mem_toList.mp hm)).trans
      (rel_furtherFirmTurns (Reaches.refl _) (fun _ _ _ => Reaches.trans) hturn _ m)
  | group i r ih =>
    intro p q hq
    obtain ⟨m, hm, rfl⟩ := List.mem_map.mp hq
    obtain ⟨hpasses, new, hnew, hids⟩ := ih p m hm
    refine ⟨hpasses, _ :: new, congrArg (List.cons _) hnew, List.forall_mem_cons.mpr ⟨List.mem_cons_self, fun x hx => ?_⟩⟩
    exact List.mem_cons_of_mem i (hids x hx)
  | once r ih =>
    intro p q hq
    exact ih p q (List.mem_of_mem_head? (Option.mem_toList.mp hq))
  | look back wanted r ih =>
    intro p q hq
    rw [outcomes] at hq
    split at hq
    · rename_i m hm
      split at hq
      · obtain ⟨c, -, hm⟩ := Option.bind_eq_some_iff.mp hm
        rw [List.mem_singleton.mp hq]
        exact ⟨⟨[], .refl _⟩, (ih _ m (List.mem_of_mem_head? hm)).groups⟩
      · cases hq
    · split at hq
      · cases hq
      · rw [List.mem_singleton.mp hq]
        exact .refl _ p
  | again i fold =>
    intro p q hq
    rw [outcomes] at hq
    split at hq
    · cases hq
    · rename_i held hheld
      split at hq
      · rename_i hsame
        have hlength := congrArg List.length hsame
        rw [List.length_map, List.length_map, List.length_take] at hlength
        rw [List.mem_singleton.mp hq]
        exact .of_groups_eq (.ahead (by omega)) rfl
      · cases hq
  | provided i yes no ihyes ihno =>
    intro p q hq
    rw [outcomes] at hq
    split at hq
    · exact (ihyes p q hq).mono (List.subset_append_left _ _)
    · exact (ihno p q hq).mono (List.subset_append_right _ _)

end Regex

end ClientMigration
