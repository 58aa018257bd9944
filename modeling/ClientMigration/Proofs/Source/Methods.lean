import ClientMigration.Proofs.Source.Declarations
import ClientMigration.Source.Snippet
import Mathlib.Data.Nat.Find

/-! # The methods that code calls

A call is a point, a word and an opening parenthesis. The word runs up to the parenthesis, so at most one call begins at
a place, and no call begins inside another, since it would begin with a point there. The scan for calls therefore misses
none, and the methods are those of all calls, each once, by the place of the first. -/

namespace ClientMigration

/-! ### Lists -/

theorem infix_iff_exists_drop {α : Type} {t l : List α} : t <:+: l ↔ ∃ n, t <+: l.drop n := by
  constructor
  · rintro ⟨front, back, rfl⟩
    refine ⟨front.length, back, ?_⟩
    rw [List.append_assoc, List.drop_left]
  · rintro ⟨n, h⟩
    exact h.isInfix.trans (List.drop_suffix n l).isInfix

/-- What is left of a list without repetitions stands by first occurrence: none occurs without those before it occurring
    earlier. -/
theorem pairwise_eraseDups {α : Type} [BEq α] [LawfulBEq α] : ∀ l : List α,
    l.eraseDups.Pairwise fun a b => a ≠ b ∧ ∀ front back, l = front ++ b :: back → a ∈ front
  | [] => .nil
  | x :: l => by
    have hother : ∀ b ∈ (l.filter fun y => !y == x).eraseDups, b ≠ x := by
      intro b hb
      simpa using (List.mem_filter.mp (List.mem_eraseDups.mp hb)).2
    rw [List.eraseDups_cons, List.pairwise_cons]
    constructor
    · intro b hb
      refine ⟨(hother b hb).symm, fun front back hsplit => ?_⟩
      cases front with
      | nil => exact absurd (List.cons.inj hsplit).1.symm (hother b hb)
      | cons y front => exact (List.cons.inj hsplit).1 ▸ List.mem_cons_self
    · refine (pairwise_eraseDups (l.filter fun y => !y == x)).imp_of_mem @fun a b _ hb hab => ⟨hab.1, ?_⟩
      intro front back hsplit
      cases front with
      | nil => exact absurd (List.cons.inj hsplit).1.symm (hother b hb)
      | cons y front =>
        -- The split of the list splits the filtered rest at the same place.
        have hrest : l = front ++ b :: back := (List.cons.inj hsplit).2
        have hfiltered : l.filter (fun y => !y == x) =
            front.filter (fun y => !y == x) ++ b :: back.filter fun y => !y == x := by
          rw [hrest, List.filter_append, List.filter_cons_of_pos (by simpa using hother b hb)]
        exact List.mem_cons_of_mem y (List.mem_filter.mp (hab.2 _ _ hfiltered)).1
termination_by l => l.length
decreasing_by exact Nat.lt_succ_of_le (List.length_filter_le _ _)

theorem pairwise_eraseDups_filterMap {α : Type} [BEq α] [LawfulBEq α] {ns : List Nat} (hns : ns.Pairwise (· < ·))
    (f : Nat → Option α) : (ns.filterMap f).eraseDups.Pairwise fun a b =>
      a ≠ b ∧ ∀ m ∈ ns, f m = some b → ∃ n < m, f n = some a := by
  refine (pairwise_eraseDups _).imp fun hab => ⟨hab.1, fun m hm hb => ?_⟩
  obtain ⟨before, after, rfl⟩ := List.append_of_mem hm
  have hearlier := hab.2 (before.filterMap f) (after.filterMap f) (by
    rw [List.filterMap_append, List.filterMap_cons_some hb])
  obtain ⟨n, hn, ha⟩ := List.mem_filterMap.mp hearlier
  exact ⟨n, (List.pairwise_append.mp hns).2.2 n hn m List.mem_cons_self, ha⟩

/-! ### Matches that stay apart -/

namespace Regex

/-- Every match begins with the character and holds it nowhere else. -/
def StartsOnlyWith (r : Regex) (x : Char) : Prop :=
  ∀ c h, r.matchAt? c = some h → ∃ w rest, c.rest = x :: (w ++ rest) ∧ x ∉ w ∧ h.length = w.length + 1

variable {r : Regex} {x : Char}

theorem StartsOnlyWith.matchAt?_eq_none (hr : r.StartsOnlyWith x) {c : Cursor} (hx : c.rest.head? ≠ some x) :
    r.matchAt? c = none := by
  rw [Option.eq_none_iff_forall_ne_some]
  intro h hh
  obtain ⟨w, rest, hrest, -⟩ := hr c h hh
  rw [hrest] at hx
  exact hx rfl

-- Along the text: the characters of a match that are still to be passed do not begin another.
theorem StartsOnlyWith.hitsFrom_eq (hr : r.StartsOnlyWith x) : ∀ {text : List Char} {skip n : Nat} {before : List Char},
    x ∉ text.take skip →
      hitsFrom r skip (Cursor.placesFrom n before text) = (Cursor.placesFrom n before text).filterMap r.matchAt?
  | [], skip, n, before, _ => by
    have hnone : r.matchAt? ⟨n, before, []⟩ = none := hr.matchAt?_eq_none (by simp)
    rw [Cursor.placesFrom, List.filterMap_cons_none hnone]
    cases skip with
    | zero => rw [hitsFrom, hnone, hitsFrom, List.filterMap_nil]
    | succ skip => rw [hitsFrom, hitsFrom, List.filterMap_nil]
  | c :: cs, skip + 1, n, before, hskip => by
    have hnone : r.matchAt? ⟨n, before, c :: cs⟩ = none := by
      refine hr.matchAt?_eq_none fun hx => hskip ?_
      cases hx
      exact List.mem_cons_self
    rw [Cursor.placesFrom, hitsFrom, List.filterMap_cons_none hnone]
    exact hr.hitsFrom_eq fun hx => hskip (List.mem_cons_of_mem c hx)
  | c :: cs, 0, n, before, _ => by
    rw [Cursor.placesFrom, hitsFrom]
    cases hh : r.matchAt? ⟨n, before, c :: cs⟩ with
    | none =>
      rw [List.filterMap_cons_none hh]
      exact hr.hitsFrom_eq List.not_mem_nil
    | some h =>
      obtain ⟨w, rest, hrest, hw, hlength⟩ := hr _ h hh
      cases hrest
      dsimp only
      rw [List.filterMap_cons_some hh, hlength, Nat.add_sub_cancel]
      refine congrArg (List.cons h) (hr.hitsFrom_eq ?_)
      rwa [List.take_left]

/-- No match is passed over inside another. -/
theorem StartsOnlyWith.captures_eq (hr : r.StartsOnlyWith x) (text : List Char) : r.captures text =
    (List.range (text.length + 1)).filterMap fun n =>
      (r.matchAt? (.atOffset text n)).map fun h => String.ofList ((h.group? 1).getD []) := by
  have hhits : r.hits text = (Cursor.places text).filterMap r.matchAt? := hr.hitsFrom_eq List.not_mem_nil
  rw [captures, hhits, Cursor.places_eq, List.filterMap_map, List.map_filterMap]
  rfl

end Regex

/-! ### Calls -/

theorem Cursor.Passes.split {c d : Cursor} {w w' : List Char} (h : c.Passes (w ++ w') d) :
    ∃ m, c.Passes w m ∧ m.Passes w' d := by
  refine ⟨⟨c.position + w.length, w.reverse ++ c.before, w' ++ d.rest⟩, ⟨?_, rfl, rfl⟩, ⟨rfl, ?_, ?_⟩⟩
  · rw [h.rest, List.append_assoc]
  · rw [h.before, List.reverse_append, List.append_assoc]
  · rw [h.position, List.length_append, Nat.add_assoc]

theorem Cursor.exists_passes {c : Cursor} {w : List Char} (h : w <+: c.rest) : ∃ d, c.Passes w d := by
  obtain ⟨rest, hrest⟩ := h
  exact ⟨⟨c.position + w.length, w.reverse ++ c.before, rest⟩, hrest.symm, rfl, rfl⟩

namespace Snippet
open Regex

/-- What a call of a method looks like. -/
def callOf (name : List Char) : List Char := '.' :: (name ++ ['('])

/-- A run of word characters, at least one. -/
def IsWord (w : List Char) : Prop := w ≠ [] ∧ ∀ c ∈ w, Text.isWord c = true

theorem mem_outcomes_methodCall_iff {c : Cursor} {q : Progress} : q ∈ methodCall.outcomes ⟨c, []⟩ ↔
    ∃ w, IsWord w ∧ c.Passes (callOf w) q.cursor ∧ q.groups = [(1, w)] := by
  simp only [methodCall, mem_outcomes_sequence_cons, mem_outcomes_sequence_nil, mem_outcomes_char_iff,
    mem_outcomes_group_word_iff]
  constructor
  · rintro ⟨m, hpoint, m', ⟨w, hne, hall, hname, hgroups⟩, m'', hparen, rfl⟩
    refine ⟨w, ⟨hne, hall⟩, (hpoint.passes.trans hname).trans hparen.passes, ?_⟩
    rw [hparen.groups, hgroups, hpoint.groups]
  · rintro ⟨w, ⟨hne, hall⟩, hpasses, hgroups⟩
    obtain ⟨d, hfront, hparen⟩ := @Cursor.Passes.split _ _ ('.' :: w) _ hpasses
    obtain ⟨b, hpoint, hname⟩ := @Cursor.Passes.split _ _ ['.'] _ hfront
    exact ⟨⟨b, []⟩, ⟨hpoint, rfl⟩, ⟨d, [(1, w)]⟩, ⟨w, hne, hall, hname, rfl⟩, q, ⟨hparen, hgroups⟩, rfl⟩

/-- The name in a call runs up to the parenthesis. -/
theorem callOf_unique {v w text : List Char} (hv : IsWord v) (hw : IsWord w) (hcv : callOf v <+: text)
    (hcw : callOf w <+: text) : v = w := by
  obtain ⟨r, rfl⟩ := hcv
  obtain ⟨r', hr'⟩ := hcw
  have hstop : ∀ r : List Char, ∀ c ∈ ('(' :: r).head?, Text.isWord c = false := by
    rintro r c ⟨⟩
    decide
  have heq : w ++ ('(' :: r') = v ++ ('(' :: r) := by
    simpa [callOf] using hr'
  have htake := congrArg (List.takeWhile Text.isWord) heq
  rw [Text.takeWhile_isWord hw.2 (hstop r'), Text.takeWhile_isWord hv.2 (hstop r)] at htake
  exact htake.symm

theorem matchAt?_methodCall_iff {c : Cursor} {h : Hit} : methodCall.matchAt? c = some h ↔
    ∃ w, IsWord w ∧ callOf w <+: c.rest ∧ h = ⟨(callOf w).length, [(1, w)]⟩ := by
  rw [matchAt?_eq, Option.map_eq_some_iff]
  constructor
  · rintro ⟨q, hq, rfl⟩
    obtain ⟨w, hw, hpasses, hgroups⟩ := mem_outcomes_methodCall_iff.mp (List.mem_of_mem_head? hq)
    refine ⟨w, hw, ⟨q.cursor.rest, hpasses.rest.symm⟩, ?_⟩
    rw [hpasses.position, Nat.add_sub_cancel_left, hgroups]
  · rintro ⟨w, hw, hcall, rfl⟩
    obtain ⟨d, hd⟩ := Cursor.exists_passes hcall
    have hmem : (⟨d, [(1, w)]⟩ : Progress) ∈ methodCall.outcomes ⟨c, []⟩ :=
      mem_outcomes_methodCall_iff.mpr ⟨w, hw, hd, rfl⟩
    -- All ways through are over the same call, so it does not matter which of them comes first.
    obtain ⟨q, hq⟩ := Option.ne_none_iff_exists'.mp (mt List.head?_eq_none_iff.mp (List.ne_nil_of_mem hmem))
    obtain ⟨v, hv, hpasses, hgroups⟩ := mem_outcomes_methodCall_iff.mp (List.mem_of_mem_head? hq)
    obtain rfl := callOf_unique hv hw ⟨q.cursor.rest, hpasses.rest.symm⟩ hcall
    refine ⟨q, hq, ?_⟩
    rw [hpasses.position, Nat.add_sub_cancel_left, hgroups]

theorem startsOnlyWith_methodCall : methodCall.StartsOnlyWith '.' := by
  intro c h hh
  obtain ⟨w, hw, ⟨rest, hrest⟩, rfl⟩ := matchAt?_methodCall_iff.mp hh
  refine ⟨w ++ ['('], rest, hrest.symm, fun hpoint => ?_, rfl⟩
  rcases List.mem_append.mp hpoint with hpoint | hpoint
  · exact absurd (hw.2 '.' hpoint) (by decide)
  · exact absurd hpoint (by decide)

/-! ### The list of methods -/

/-- A call of the method stands right behind so many characters of the code. -/
def CalledAt (code : List Char) (name : String) (n : Nat) : Prop := callOf name.toList <+: code.drop n

structure FirstCalledAt (code : List Char) (name : String) (n : Nat) : Prop where
  called : CalledAt code name n
  first : ∀ m < n, ¬CalledAt code name m

variable {code : List Char} {name : String} {n : Nat}

/-- The method that is called right behind so many characters of the code. -/
def called? (code : List Char) (n : Nat) : Option String :=
  (methodCall.matchAt? (.atOffset code n)).map fun h => String.ofList ((h.group? 1).getD [])

theorem called?_eq_some_iff : called? code n = some name ↔ IsWord name.toList ∧ CalledAt code name n := by
  rw [called?, Option.map_eq_some_iff]
  simp only [matchAt?_methodCall_iff]
  constructor
  · rintro ⟨_, ⟨w, hw, hcall, rfl⟩, rfl⟩
    have hname : (String.ofList ((Hit.group? ⟨(callOf w).length, [(1, w)]⟩ 1).getD [])).toList = w :=
      String.toList_ofList
    rw [CalledAt, hname]
    exact ⟨hw, hcall⟩
  · rintro ⟨hw, hcall⟩
    exact ⟨_, ⟨name.toList, hw, hcall, rfl⟩, String.ofList_toList⟩

theorem CalledAt.lt_length (h : CalledAt code name n) : n < code.length := by
  have hne : code.drop n ≠ [] := h.ne_nil (List.cons_ne_nil _ _)
  rwa [ne_eq, List.drop_eq_nil_iff, Nat.not_le] at hne

theorem exists_calledAt_iff : (∃ n, CalledAt code name n) ↔ callOf name.toList <:+: code :=
  infix_iff_exists_drop.symm

theorem CalledAt.exists_first (h : CalledAt code name n) : ∃ m ≤ n, FirstCalledAt code name m := by
  classical
  have hex : ∃ m, CalledAt code name m := ⟨n, h⟩
  exact ⟨Nat.find hex, Nat.find_min' hex h, Nat.find_spec hex, fun m hm => Nat.find_min hex hm⟩

theorem methods_eq (code : List Char) :
    methods code = ((List.range (code.length + 1)).filterMap (called? code)).eraseDups :=
  congrArg List.eraseDups (startsOnlyWith_methodCall.captures_eq code)

theorem mem_methods_iff : name ∈ methods code ↔ IsWord name.toList ∧ callOf name.toList <:+: code := by
  simp only [methods_eq, List.mem_eraseDups, List.mem_filterMap, called?_eq_some_iff, List.mem_range,
    ← exists_calledAt_iff]
  constructor
  · rintro ⟨n, -, hw, hcall⟩
    exact ⟨hw, n, hcall⟩
  · rintro ⟨hw, n, hcall⟩
    exact ⟨n, Nat.lt_succ_of_lt hcall.lt_length, hw, hcall⟩

/-- The methods are the words that are called anywhere in the code, each once, and of two of them the one with the earlier
    first call comes first. -/
theorem methods_exact (code : List Char) :
    (∀ name : String, name ∈ methods code ↔ IsWord name.toList ∧ callOf name.toList <:+: code) ∧
    (methods code).Nodup ∧
    (methods code).Pairwise fun v w => ∃ m n, FirstCalledAt code v m ∧ FirstCalledAt code w n ∧ m < n := by
  have horder := pairwise_eraseDups_filterMap (@List.pairwise_lt_range (code.length + 1)) (called? code)
  rw [← methods_eq] at horder
  refine ⟨fun _ => mem_methods_iff, horder.imp And.left, horder.imp_of_mem ?_⟩
  rintro v w - hw ⟨-, hearlier⟩
  obtain ⟨hword, hcall⟩ := mem_methods_iff.mp hw
  obtain ⟨k, hk⟩ := exists_calledAt_iff.mpr hcall
  obtain ⟨n, -, hn⟩ := hk.exists_first
  have hfound : called? code n = some w := called?_eq_some_iff.mpr ⟨hword, hn.called⟩
  obtain ⟨l, hl, hv⟩ := hearlier n (List.mem_range.mpr (Nat.lt_succ_of_lt hn.called.lt_length)) hfound
  obtain ⟨m, hm, hfirst⟩ := (called?_eq_some_iff.mp hv).2.exists_first
  exact ⟨m, n, hfirst, hn, Nat.lt_of_le_of_lt hm hl⟩

end Snippet

end ClientMigration
