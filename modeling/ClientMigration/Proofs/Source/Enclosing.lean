import ClientMigration.Proofs.Scanning
import ClientMigration.Proofs.Source.Declarations

/-! # The names around a line

The names that one pass carries down the lines are those that a search up from each line finds first. A line that
declares nothing, or nothing that counts as a function, leaves the names above it as they are. The names are whole words
of the lines, but for a function into whose name the keyword runs on. -/

namespace ClientMigration

/-! ### Declarations on a line -/

/-- The first group, of three, that holds anything holds the text. -/
def Regex.Hit.FirstHeld (h : Regex.Hit) (w : List Char) : Prop :=
  ∃ i < 3, h.group? (i + 1) = some w ∧ w ≠ [] ∧ ∀ j < i, ∀ v, h.group? (j + 1) = some v → v = []

namespace Enclosing
open Regex

/-- The leftmost match of a class declaration on the line has the name in its group. -/
def DeclaresClass (line name : String) : Prop :=
  ∃ h, classDeclaration.MatchesLeftmost line.toList h ∧ h.group? 1 = some name.toList

/-- The name in the leftmost match of a function declaration on the line, if the name may be a function's. -/
def DeclaresFunction (line name : String) : Prop :=
  ∃ h, functionDeclaration.MatchesLeftmost line.toList h ∧ h.FirstHeld name.toList ∧ name ∉ notFunctions

theorem group_of_classDeclaration {text : List Char} {h : Hit} (hs : classDeclaration.search? text = some h) :
    ∃ w, h.group? 1 = some w ∧ Text.StandsIn w text := by
  obtain ⟨n, q, hq, hgroups⟩ := exists_head_of_search? hs
  obtain ⟨w, -, hheld, hstands⟩ := named_of_classDeclaration hq
  rw [Cursor.text_atOffset] at hstands
  exact ⟨w, by rw [Hit.group?, hgroups, hheld]; rfl, hstands⟩

theorem declaredClass?_eq_some_iff {line name : String} :
    declaredClass? line.toList = some name ↔ DeclaresClass line name := by
  simp only [DeclaresClass, ← search?_eq_some_iff]
  rw [declaredClass?, Option.map_eq_some_iff]
  refine exists_congr fun h => and_congr_right fun hs => ?_
  obtain ⟨w, hw, -⟩ := group_of_classDeclaration hs
  rw [hw, Option.getD_some, Option.some.injEq]
  constructor
  · rintro rfl
    exact String.toList_ofList.symm
  · rintro rfl
    exact String.ofList_toList

theorem firstHeld_iff {h : Hit} {w : List Char} :
    [1, 2, 3].findSome? (fun i => (h.group? i).filter (!·.isEmpty)) = some w ↔ h.FirstHeld w := by
  have hrange : [1, 2, 3] = (List.range 3).map (· + 1) := rfl
  rw [hrange, List.findSome?_map, findSome?_range_eq_some_iff, Hit.FirstHeld]
  refine exists_congr fun i => and_congr_right fun _ => ?_
  have hnone : ∀ j, (h.group? (j + 1)).filter (!·.isEmpty) = none ↔ ∀ v, h.group? (j + 1) = some v → v = [] := by
    intro j
    cases h.group? (j + 1) <;> simp
  rw [Function.comp_apply, Option.filter_eq_some_iff, Bool.not_eq_true', List.isEmpty_eq_false_iff, and_assoc]
  exact and_congr_right fun _ => and_congr_right fun _ => forall₂_congr fun j _ => hnone j

theorem declaredFunction?_eq_some_iff {line name : String} :
    declaredFunction? line.toList = some name ↔ DeclaresFunction line name := by
  have hname : declaredName? line.toList = some name ↔
      ∃ h, functionDeclaration.MatchesLeftmost line.toList h ∧ h.FirstHeld name.toList := by
    simp only [declaredName?, Option.bind_eq_some_iff, search?_eq_some_iff, Option.map_eq_some_iff, firstHeld_iff]
    refine exists_congr fun h => and_congr_right fun _ => ?_
    constructor
    · rintro ⟨w, hw, rfl⟩
      rwa [String.toList_ofList]
    · exact fun hw => ⟨name.toList, hw, String.ofList_toList⟩
  rw [declaredFunction?, Option.filter_eq_some_iff, hname, DeclaresFunction]
  simp only [Bool.not_eq_true', ← Bool.not_eq_true, List.contains_iff_mem, ← and_assoc, exists_and_right]

/-! ### The nearest declaration -/

/-- What is declared on the first line that declares anything, from the last of so many lines up. -/
def nearest? (declared? : String → Option String) (ls : List String) (n : Nat) : Option String :=
  (ls.take n).reverse.findSome? declared?

/-- The name is the one declared on the last of so many lines that declares any; there is none if no line does. -/
def Nearest (Declares : String → String → Prop) (ls : List String) (n : Nat) : Option String → Prop
  | some name => ∃ j < n, ∃ l, ls[j]? = some l ∧ Declares l name ∧
      ∀ k, j < k → k < n → ∀ l', ls[k]? = some l' → ∀ name', ¬Declares l' name'
  | none => ∀ j < n, ∀ l, ls[j]? = some l → ∀ name, ¬Declares l name

/-- One step of the search: the line itself, then the lines above it. -/
theorem nearest?_succ (declared? : String → Option String) (ls : List String) (n : Nat) :
    nearest? declared? ls (n + 1) = (ls[n]?.bind declared?).or (nearest? declared? ls n) := by
  rw [nearest?, List.take_add_one, List.reverse_append, List.findSome?_append]
  cases ls[n]? <;> simp [nearest?]

section Nearest
variable {Declares : String → String → Prop} {declared? : String → Option String}
  (hdeclared : ∀ l name, declared? l = some name ↔ Declares l name) (ls : List String)
include hdeclared

theorem not_declares_of_eq_none {l : String} (h : declared? l = none) (name : String) : ¬Declares l name := by
  rw [← hdeclared, h]
  exact fun h => nomatch h

/-- The search upwards finds the nearest declaration. -/
theorem nearest_nearest? : ∀ n, Nearest Declares ls n (nearest? declared? ls n)
  | 0 => fun j hj => absurd hj (Nat.not_lt_zero j)
  | n + 1 => by
    have ih := nearest_nearest? n
    rw [nearest?_succ]
    cases hline : ls[n]?.bind declared? with
    | some name =>
      obtain ⟨l, hl, hname⟩ := Option.bind_eq_some_iff.mp hline
      refine ⟨n, Nat.lt_succ_self n, l, hl, (hdeclared l name).mp hname, fun k hk hle => ?_⟩
      exact absurd hk (Nat.not_lt.mpr (Nat.le_of_lt_succ hle))
    | none =>
      -- The line declares nothing, so what was nearest above it is nearest still.
      have hnone : ∀ l, ls[n]? = some l → ∀ name, ¬Declares l name := by
        intro l hl
        rw [hl] at hline
        exact not_declares_of_eq_none hdeclared hline
      rw [Option.none_or]
      cases hnearest : nearest? declared? ls n with
      | none =>
        rw [hnearest] at ih
        intro j hj l hl
        rcases Nat.lt_succ_iff_lt_or_eq.mp hj with hj | rfl
        · exact ih j hj l hl
        · exact hnone l hl
      | some name =>
        rw [hnearest] at ih
        obtain ⟨j, hj, l, hl, hname, hbelow⟩ := ih
        refine ⟨j, Nat.lt_succ_of_lt hj, l, hl, hname, fun k hjk hk l' hl' => ?_⟩
        rcases Nat.lt_succ_iff_lt_or_eq.mp hk with hk | rfl
        · exact hbelow k hjk hk l' hl'
        · exact hnone l' hl'

end Nearest

/-- The names carried past some lines are those found by searching them from the last one up, else those before. -/
theorem foldl_next (ls : List String) : ∀ e : Enclosing, ls.foldl (fun e l => e.next l.toList) e =
    ⟨(ls.reverse.findSome? fun l => declaredClass? l.toList).or e.className,
      (ls.reverse.findSome? fun l => declaredFunction? l.toList).or e.functionName⟩ := by
  induction ls with
  | nil => exact fun e => rfl
  | cons l ls ih =>
    intro e
    rw [List.foldl_cons, ih, List.reverse_cons, List.findSome?_append, List.findSome?_append, List.findSome?_singleton,
      List.findSome?_singleton, Option.or_assoc, Option.or_assoc]
    rfl

theorem atLine_eq (ls : List String) (i : Nat) :
    atLine ls i = ⟨nearest? (fun l => declaredClass? l.toList) ls (i + 1),
      nearest? (fun l => declaredFunction? l.toList) ls (i + 1)⟩ := by
  rw [atLine, foldl_next, Option.or_none, Option.or_none]
  rfl

theorem nearest_atLine (ls : List String) (i : Nat) : Nearest DeclaresClass ls (i + 1) (atLine ls i).className ∧
    Nearest DeclaresFunction ls (i + 1) (atLine ls i).functionName := by
  rw [atLine_eq]
  exact ⟨nearest_nearest? (fun _ _ => declaredClass?_eq_some_iff) ls (i + 1),
    nearest_nearest? (fun _ _ => declaredFunction?_eq_some_iff) ls (i + 1)⟩

theorem eq_atLine {ls : List String} {i : Nat} {e : Enclosing} (h : (ofLines ls)[i]? = some e) : e = atLine ls i := by
  obtain ⟨hi, -⟩ := List.getElem?_eq_some_iff.mp h
  rw [length_ofLines] at hi
  rw [getElem?_ofLines hi] at h
  exact (Option.some.inj h).symm

/-- Each line has one entry, with the class and the function that are declared nearest at or above it. A line that a class
    declaration matches on is one that declares a class. -/
theorem ofLines_nearest (ls : List String) : (ofLines ls).length = ls.length ∧
    (∀ l : String, classDeclaration.matches? l.toList = true ↔ ∃ name, DeclaresClass l name) ∧
    ∀ i e, (ofLines ls)[i]? = some e →
      Nearest DeclaresClass ls (i + 1) e.className ∧ Nearest DeclaresFunction ls (i + 1) e.functionName := by
  refine ⟨length_ofLines ls, fun l => ?_, fun i e h => ?_⟩
  · simp only [← declaredClass?_eq_some_iff, declaredClass?, matches?, ← Option.isSome_iff_exists, Option.isSome_map]
  · rw [eq_atLine h]
    exact nearest_atLine ls i

/-- A keyword before parentheses declares no function, so the method above it stays the nearest one. -/
theorem ofLines_nearest_method :
    (ofLines ["class A \x7b", "  load(k) \x7b", "    if (k) \x7b"])[2]? = some ⟨some "A", some "load"⟩ ∧
    Nearest DeclaresClass ["class A \x7b", "  load(k) \x7b", "    if (k) \x7b"] 3 (some "A") ∧
    Nearest DeclaresFunction ["class A \x7b", "  load(k) \x7b", "    if (k) \x7b"] 3 (some "load") := by
  have h : (ofLines ["class A \x7b", "  load(k) \x7b", "    if (k) \x7b"])[2]? = some ⟨some "A", some "load"⟩ := by decide
  exact ⟨h, (ofLines_nearest ["class A \x7b", "  load(k) \x7b", "    if (k) \x7b"]).2.2 2 _ h⟩

/-! ### Whole words -/

theorem Nearest.exists_line {Declares : String → String → Prop} {ls : List String} {i : Nat} {name : String}
    (h : Nearest Declares ls (i + 1) (some name)) : ∃ j ≤ i, ∃ l, ls[j]? = some l ∧ Declares l name := by
  obtain ⟨j, hj, l, hl, hname, -⟩ := h
  exact ⟨j, Nat.le_of_lt_succ hj, l, hl, hname⟩

theorem DeclaresClass.standsIn {line name : String} (h : DeclaresClass line name) :
    Text.StandsIn name.toList line.toList := by
  obtain ⟨hit, hmatch, hgroup⟩ := h
  obtain ⟨w, hw, hstands⟩ := group_of_classDeclaration (search?_eq_some_iff.mpr hmatch)
  rw [hgroup] at hw
  exact Option.some.inj hw ▸ hstands

theorem DeclaresFunction.not_mem {line name : String} (h : DeclaresFunction line name) : name ∉ notFunctions := by
  obtain ⟨-, -, -, hnot⟩ := h
  exact hnot

theorem DeclaresFunction.standsIn_or_runsOn {line name : String} (h : DeclaresFunction line name) :
    Text.StandsIn name.toList line.toList ∨ RunsOn name.toList line.toList := by
  obtain ⟨hit, hmatch, ⟨i, -, hgroup, -⟩, -⟩ := h
  obtain ⟨n, q, hq, hgroups⟩ := exists_head_of_search? (search?_eq_some_iff.mpr hmatch)
  obtain ⟨j, -, w, -, hheld, hword⟩ :=
    named_of_functionDeclaration (previous_of_position_eq_zero line.toList n) (List.mem_of_mem_head? hq)
  rw [Hit.group?, hgroups, hheld, List.lookup_eq_some_iff] at hgroup
  obtain ⟨before, after, hlist, -⟩ := hgroup
  have hmem : (i + 1, name.toList) ∈ [(j + 1, w)] := by
    rw [hlist]
    exact List.mem_append_right _ List.mem_cons_self
  rw [Cursor.text_atOffset] at hword
  exact (Prod.mk.inj (List.mem_singleton.mp hmem)).2 ▸ hword

/-- A line that begins with `function` in one word with more declares what follows the keyword. -/
theorem declaresFunction_of_runsOn {line name : String} {blanks after : List Char}
    (hline : line.toList = "function".toList ++ (name.toList ++ (blanks ++ '(' :: after))) (hne : name.toList ≠ [])
    (hall : ∀ c ∈ name.toList, Text.isWord c = true) (hblanks : ∀ c ∈ blanks, Text.isBlank c = true)
    (hname : name ∉ notFunctions) : DeclaresFunction line name := by
  have hrest : (Cursor.atOffset line.toList 0).rest = _ := hline
  -- The keyword comes first among the kinds of function, so a way through it is the way taken.
  obtain ⟨q, hq⟩ : ∃ q, (namedFunction.outcomes ⟨.atOffset line.toList 0, []⟩).head? = some q := by
    obtain ⟨q, hq⟩ := exists_mem_of_runsOn hrest hne hall hblanks rfl
    exact ⟨_, List.head?_eq_some_head (List.ne_nil_of_mem hq)⟩
  have hhead : (functionDeclaration.outcomes ⟨.atOffset line.toList 0, []⟩).head? = some q := by
    have happend : functionDeclaration.outcomes ⟨.atOffset line.toList 0, []⟩ =
      namedFunction.outcomes ⟨.atOffset line.toList 0, []⟩ ++
        (choice [methodBody, functionVariable]).outcomes ⟨.atOffset line.toList 0, []⟩ := rfl
    rw [happend, List.head?_append, hq, Option.some_or]
  have hgroups : q.groups = [(1, name.toList)] := groups_of_runsOn hrest hne hall hblanks (List.mem_of_mem_head? hq)
  refine ⟨⟨q.cursor.position, q.groups⟩, ⟨0, Nat.zero_le _, ?_, fun m hm => absurd hm (Nat.not_lt_zero m)⟩, ?_, hname⟩
  · rw [matchAt?_eq, hhead]
    rfl
  · exact ⟨0, by decide, by rw [hgroups]; rfl, hne, fun j hj => absurd hj (Nat.not_lt_zero j)⟩

/-- The class around a line is a whole word of a line at or above it. So is the function, which is none of the words that
    look like one, unless the keyword `function` runs on into it; a line that begins so has what the keyword leaves. -/
theorem ofLines_standsIn_or_runsOn {ls : List String} {i : Nat} {e : Enclosing} (h : (ofLines ls)[i]? = some e) :
    (∀ name ∈ e.className, ∃ j ≤ i, ∃ l, ls[j]? = some l ∧ Text.StandsIn name.toList l.toList) ∧
    (∀ name ∈ e.functionName, name ∉ notFunctions ∧ ∃ j ≤ i, ∃ l, ls[j]? = some l ∧
      (Text.StandsIn name.toList l.toList ∨ RunsOn name.toList l.toList)) ∧
    ∀ l name blanks after, ls[i]? = some l →
      l.toList = "function".toList ++ (name.toList ++ (blanks ++ '(' :: after)) → name.toList ≠ [] →
      (∀ c ∈ name.toList, Text.isWord c = true) → (∀ c ∈ blanks, Text.isBlank c = true) → name ∉ notFunctions →
      e.functionName = some name := by
  rw [eq_atLine h]
  obtain ⟨hclass, hfunction⟩ := nearest_atLine ls i
  refine ⟨fun name hname => ?_, fun name hname => ?_, fun l name blanks after hl hline hne hall hblanks hname => ?_⟩
  · rw [Option.mem_def.mp hname] at hclass
    obtain ⟨j, hj, l, hl, hdeclares⟩ := hclass.exists_line
    exact ⟨j, hj, l, hl, hdeclares.standsIn⟩
  · rw [Option.mem_def.mp hname] at hfunction
    obtain ⟨j, hj, l, hl, hdeclares⟩ := hfunction.exists_line
    exact ⟨hdeclares.not_mem, j, hj, l, hl, hdeclares.standsIn_or_runsOn⟩
  · have hdeclared := declaredFunction?_eq_some_iff.mpr (declaresFunction_of_runsOn hline hne hall hblanks hname)
    rw [atLine_eq]
    dsimp only
    rw [nearest?_succ, hl, Option.bind_some, hdeclared, Option.some_or]

/-- The class above is named by a whole word, while the keyword takes the front of the method's name. -/
theorem ofLines_standsIn_or_runsOn_key : ∃ e, (ofLines ["class A \x7b", "functionKey(k) \x7b"])[1]? = some e ∧
    (∃ name ∈ e.className, ∃ j ≤ 1, ∃ l, ["class A \x7b", "functionKey(k) \x7b"][j]? = some l ∧
      Text.StandsIn name.toList l.toList) ∧
    e.functionName = some "Key" ∧ "Key" ∉ notFunctions := by
  have h : (ofLines ["class A \x7b", "functionKey(k) \x7b"])[1]? = some ⟨some "A", some "Key"⟩ := by decide
  obtain ⟨hclass, hfunction, hline⟩ := ofLines_standsIn_or_runsOn h
  exact ⟨_, h, ⟨"A", rfl, hclass "A" rfl⟩,
    hline _ "Key" [] "k) \x7b".toList rfl rfl (by decide) (List.all_eq_true.mp (by decide)) (List.forall_mem_nil _)
      (by decide), (hfunction "Key" rfl).1⟩

/-- The name of a function may be the end of a longer word. -/
theorem functionKey_not_standsIn : (ofLines ["functionKey(k) \x7b"])[0]? = some ⟨none, some "Key"⟩ ∧
    ¬Text.StandsIn "Key".toList "functionKey(k) \x7b".toList := by
  decide

end Enclosing

end ClientMigration
