import ClientMigration.Proofs.Catalog.Independence
import Mathlib.Data.List.Nodup

/-! # Scanning

A scan sights an idiom on exactly the lines on which one of its patterns matches, from the first line to the last,
and keeps with each the lines around it, cut off at both ends of the text. Text put behind the last line changes
nothing on the lines above it but how far down their windows reach. -/

namespace ClientMigration

/-! ### Names around a line -/

namespace Enclosing

/-- The class and the function around a line, as the lines down to it declare them. -/
def atLine (ls : List String) (i : Nat) : Enclosing := (ls.take (i + 1)).foldl (fun e l => e.next l.toList) {}

theorem getElem?_along : ∀ (e : Enclosing) {ls : List (List Char)} {i : Nat}, i < ls.length →
    (e.along ls)[i]? = some ((ls.take (i + 1)).foldl next e)
  | _, [], _, h => absurd h (Nat.not_lt_zero _)
  | _, _ :: _, 0, _ => rfl
  | e, l :: _, _ + 1, h => getElem?_along (e.next l) (Nat.lt_of_succ_lt_succ h)

theorem getElem?_ofLines {ls : List String} {i : Nat} (h : i < ls.length) : (ofLines ls)[i]? = some (atLine ls i) := by
  rw [ofLines, getElem?_along _ (by rwa [List.length_map]), ← List.map_take, List.foldl_map]
  rfl

theorem atLine_append {ls : List String} {i : Nat} (h : i < ls.length) (ms : List String) :
    atLine (ls ++ ms) i = atLine ls i := by
  rw [atLine, atLine, List.take_append_of_le_length h]

end Enclosing

namespace Sighting

/-! ### Sightings of some patterns -/

theorem zipIdx_zip_ofLines (ls : List String) : (ls.zip (Enclosing.ofLines ls)).zipIdx =
    ls.zipIdx.map fun (l, i) => ((l, Enclosing.atLine ls i), i) := by
  refine List.ext_getElem? fun i => ?_
  rw [List.getElem?_zipIdx, List.getElem?_map, List.getElem?_zipIdx]
  by_cases h : i < ls.length
  · have hzip : (ls.zip (Enclosing.ofLines ls))[i]? = some (ls[i], Enclosing.atLine ls i) :=
      List.getElem?_zip_eq_some.mpr ⟨List.getElem?_eq_getElem h, Enclosing.getElem?_ofLines h⟩
    rw [hzip, List.getElem?_eq_getElem h]
    simp
  · have hzip : (ls.zip (Enclosing.ofLines ls)).length ≤ i := by
      rw [List.length_zip, Enclosing.length_ofLines]
      omega
    rw [List.getElem?_eq_none hzip, List.getElem?_eq_none (Nat.not_lt.mp h)]
    rfl

/-- There is one sighting for each line on which one of the patterns matches. -/
theorem ofPatterns_eq_map (s : Settings.Scanner) (ls : List String) (ps : List Pattern) :
    ofPatterns s ls (Enclosing.ofLines ls) ps =
      (ls.findIdxs (onLine ps)).map fun i => ofLine s ls i (Enclosing.atLine ls i) := by
  have hindices : ls.findIdxs (onLine ps) = (ls.zipIdx.filter fun (l, _) => onLine ps l).map (·.2) := by
    rw [List.findIdxs_eq_filterMap_zipIdx, ← List.filterMap_eq_map, List.filterMap_filter]
    refine List.filterMap_congr fun x _ => ?_
    rcases x with ⟨l, i⟩
    cases hmatch : onLine ps l <;> simp [hmatch]
  rw [ofPatterns, zipIdx_zip_ofLines, List.filter_map, List.map_map, hindices, List.map_map]
  rfl

theorem mem_findIdxs_onLine_iff {ls : List String} {ps : List Pattern} {n : Nat} :
    n ∈ ls.findIdxs (onLine ps) ↔ ∃ l, ls[n]? = some l ∧ ∃ p ∈ ps, p.matches? l = true := by
  rw [List.mem_findIdxs_iff_exists_getElem_pos]
  simp only [onLine, List.any_eq_true, List.getElem?_eq_some_iff]
  constructor
  · rintro ⟨hn, hmatch⟩
    exact ⟨ls[n], ⟨hn, rfl⟩, hmatch⟩
  · rintro ⟨l, ⟨hn, rfl⟩, hmatch⟩
    exact ⟨hn, hmatch⟩

/-! ### Windows -/

/-- The window of the sighting is the lines around its own, as many before and behind as the settings ask for, as far
    as the text has them. -/
structure Windowed (s : Settings.Scanner) (ls : List String) (x : Sighting) : Prop where
  inText : 0 ≤ x.first ∧ x.first ≤ x.line ∧ x.line ≤ x.last ∧ x.last < ls.length
  first : x.first = max 0 (x.line - s.contextBefore)
  last : x.last = min ((ls.length : Int) - 1) (x.line + s.contextAfter)
  code : Text.lines x.code = ls.extract x.first.toNat (x.last.toNat + 1)

theorem window_ne_nil (s : Settings.Scanner) {ls : List String} {i : Nat} (h : i < ls.length) : window s ls i ≠ [] := by
  intro hnil
  have hlength := congrArg List.length hnil
  rw [window, List.length_take, List.length_drop, List.length_nil, windowFirst, windowLast] at hlength
  omega

theorem windowed_ofLine (s : Settings.Scanner) {ls : List String} (hls : ∀ l ∈ ls, '\n' ∉ l.toList) {i : Nat}
    (h : i < ls.length) (e : Enclosing) : Windowed s ls (ofLine s ls i e) where
  inText := by
    simp only [ofLine, windowFirst, windowLast]
    omega
  first := by
    simp only [ofLine, windowFirst]
    omega
  last := by
    simp only [ofLine, windowLast]
    omega
  code := by
    have hwindow : ∀ l ∈ window s ls i, '\n' ∉ l.toList := fun l hl =>
      hls l (List.mem_of_mem_drop (List.mem_of_mem_take hl))
    exact Text.lines_joinLines (window_ne_nil s h) hwindow

/-- The sightings are in the order of the lines, on exactly those on which one of the patterns matches, each with its
    window. -/
structure ExactOn (s : Settings.Scanner) (ls : List String) (ps : List Pattern) (found : List Sighting) : Prop where
  increasing : (found.map (·.line)).Pairwise (· < ·)
  matched : ∀ i : Int, i ∈ found.map (·.line) ↔
    ∃ n : Nat, i = n ∧ ∃ l, ls[n]? = some l ∧ ∃ p ∈ ps, p.matches? l = true
  windows : ∀ x ∈ found, Windowed s ls x

theorem map_line_ofPatterns (s : Settings.Scanner) (ls : List String) (ps : List Pattern) :
    (ofPatterns s ls (Enclosing.ofLines ls) ps).map (·.line) = (ls.findIdxs (onLine ps)).map Int.ofNat := by
  rw [ofPatterns_eq_map, List.map_map]
  rfl

theorem exactOn_ofPatterns (s : Settings.Scanner) {ls : List String} (hls : ∀ l ∈ ls, '\n' ∉ l.toList)
    (ps : List Pattern) : ExactOn s ls ps (ofPatterns s ls (Enclosing.ofLines ls) ps) where
  increasing := by
    rw [map_line_ofPatterns, List.pairwise_map]
    exact List.pairwise_findIdxs.imp fun hlt => Int.ofNat_lt.mpr hlt
  matched i := by
    rw [map_line_ofPatterns, List.mem_map]
    constructor
    · rintro ⟨n, hn, rfl⟩
      exact ⟨n, rfl, mem_findIdxs_onLine_iff.mp hn⟩
    · rintro ⟨n, rfl, hn⟩
      exact ⟨n, mem_findIdxs_onLine_iff.mpr hn, rfl⟩
  windows x hx := by
    rw [ofPatterns_eq_map] at hx
    obtain ⟨i, hi, rfl⟩ := List.mem_map.mp hx
    obtain ⟨hlt, -⟩ := List.mem_findIdxs_iff_exists_getElem_pos.mp hi
    exact windowed_ofLine s hls hlt _

/-! ### Scans -/

/-- What a scan has of an idiom; nothing if it does not list the idiom. -/
def listed (found : List (Idiom × List Sighting)) (i : Idiom) : List Sighting := (found.lookup i).getD []

/-- The sightings of some patterns in a text. -/
def inText (s : Settings.Scanner) (source : String) (ps : List Pattern) : List Sighting :=
  ofPatterns s (Text.lines source) (Enclosing.ofLines (Text.lines source)) ps

theorem scan_eq_filter {source : String} (hne : source ≠ "") (s : Settings.Scanner) (c : Catalog) (d : Dialect) :
    scan s c source d = (c.entries.map fun e => (e.idiom, inText s source (e.patternsFor d))).filter
      fun (_, found) => !found.isEmpty := by
  rw [scan, if_neg fun hemp => hne (String.isEmpty_iff.mp hemp)]
  rfl

theorem mem_scan_iff {source : String} (hne : source ≠ "") {s : Settings.Scanner} {c : Catalog} {d : Dialect}
    {i : Idiom} {found : List Sighting} : (i, found) ∈ scan s c source d ↔
      found ≠ [] ∧ ∃ e ∈ c.entries, e.idiom = i ∧ inText s source (e.patternsFor d) = found := by
  rw [scan_eq_filter hne, List.mem_filter, List.mem_map, and_comm]
  simp

theorem idioms_scan_sublist (s : Settings.Scanner) (c : Catalog) (source : String) (d : Dialect) :
    ((scan s c source d).map (·.1)).Sublist c.idioms := by
  by_cases hne : source = ""
  · subst hne
    exact List.nil_sublist _
  · have hkept := List.filter_sublist (p := fun (x : Idiom × List Sighting) => !x.2.isEmpty)
      (l := c.entries.map fun e => (e.idiom, inText s source (e.patternsFor d)))
    have hidioms := hkept.map (·.1)
    rw [List.map_map] at hidioms
    rw [scan_eq_filter hne]
    exact hidioms

theorem listed_of_mem {found : List (Idiom × List Sighting)} (hnodup : (found.map (·.1)).Nodup) {i : Idiom}
    {xs : List Sighting} (h : (i, xs) ∈ found) : listed found i = xs := by
  obtain ⟨before, behind, rfl⟩ := List.append_of_mem h
  have hfirst : ∀ p ∈ before, (i != p.1) = true := by
    intro p hp
    rw [List.map_append, List.map_cons, List.nodup_append] at hnodup
    exact bne_iff_ne.mpr (hnodup.2.2 p.1 (List.mem_map_of_mem hp) i List.mem_cons_self).symm
  rw [listed, List.lookup_eq_some_iff.mpr ⟨before, behind, rfl, hfirst⟩, Option.getD_some]

theorem listed_of_not_mem {found : List (Idiom × List Sighting)} {i : Idiom} (h : i ∉ found.map (·.1)) :
    listed found i = [] := by
  have hnone : found.lookup i = none :=
    List.lookup_eq_none_iff.mpr fun p hp => bne_iff_ne.mpr fun heq => h (heq ▸ List.mem_map_of_mem hp)
  rw [listed, hnone, Option.getD_none]

theorem inText_nil (s : Settings.Scanner) (source : String) : inText s source [] = [] := by
  rw [inText, ofPatterns, List.map_eq_nil_iff, List.filter_eq_nil_iff]
  exact fun _ _ h => Bool.noConfusion h

end Sighting

/-- The patterns by which a catalog recognizes an idiom in a dialect; none if it does not list the idiom. -/
def Catalog.patternsOf (c : Catalog) (i : Idiom) (d : Dialect) : List Pattern :=
  ((c.get? i).map (·.patternsFor d)).getD []

theorem Catalog.patternsOf_cases {c : Catalog} (hnodup : c.idioms.Nodup) (i : Idiom) (d : Dialect) :
    (∃ e ∈ c.entries, e.idiom = i ∧ c.patternsOf i d = e.patternsFor d ∧ ∀ e' ∈ c.entries, e'.idiom = i → e' = e) ∨
    (i ∉ c.idioms ∧ c.patternsOf i d = []) := by
  cases hget : c.get? i with
  | none =>
    refine Or.inr ⟨fun hmem => ?_, by rw [patternsOf, hget]; rfl⟩
    obtain ⟨e, he, hidiom⟩ := List.mem_map.mp hmem
    exact List.find?_eq_none.mp hget e he (beq_iff_eq.mpr hidiom)
  | some e =>
    rw [get?] at hget
    have he : e ∈ c.entries := List.mem_of_find?_eq_some hget
    have hidiom := List.find?_some hget
    rw [beq_iff_eq] at hidiom
    refine Or.inl ⟨e, he, hidiom, by rw [patternsOf, get?, hget]; rfl, fun e' he' hidiom' => ?_⟩
    exact List.inj_on_of_nodup_map hnodup he' he (hidiom'.trans hidiom.symm)

namespace Sighting

/-- A scan lists of each idiom what the catalog's patterns of the idiom sight, and lists the idiom if that is
    anything. -/
theorem listed_scan {c : Catalog} (hnodup : c.idioms.Nodup) {source : String} (hne : source ≠ "") (s : Settings.Scanner)
    (d : Dialect) (i : Idiom) : listed (scan s c source d) i = inText s source (c.patternsOf i d) ∧
      (i ∈ (scan s c source d).map (·.1) ↔ inText s source (c.patternsOf i d) ≠ []) := by
  have hkeys := idioms_scan_sublist s c source d
  obtain ⟨e, he, hidiom, hpatterns, honly⟩ | ⟨hnew, hpatterns⟩ := c.patternsOf_cases hnodup i d
  · rw [hpatterns]
    by_cases hnil : inText s source (e.patternsFor d) = []
    · have hnot : i ∉ (scan s c source d).map (·.1) := by
        intro h
        obtain ⟨⟨_, found⟩, hmem, rfl⟩ := List.mem_map.mp h
        obtain ⟨hfound, e', he', hidiom', rfl⟩ := (mem_scan_iff hne).mp hmem
        exact hfound (honly e' he' hidiom' ▸ hnil)
      rw [listed_of_not_mem hnot, hnil]
      exact ⟨rfl, iff_of_false hnot fun h => h rfl⟩
    · have hmem := (mem_scan_iff hne).mpr ⟨hnil, e, he, hidiom, rfl⟩
      exact ⟨listed_of_mem (hkeys.nodup hnodup) hmem, iff_of_true (List.mem_map_of_mem hmem) hnil⟩
  · have hnot : i ∉ (scan s c source d).map (·.1) := fun h => hnew (hkeys.subset h)
    rw [hpatterns, inText_nil, listed_of_not_mem hnot]
    exact ⟨rfl, iff_of_false hnot fun h => h rfl⟩

theorem inText_ne_nil_iff {s : Settings.Scanner} {source : String} {ps : List Pattern} :
    inText s source ps ≠ [] ↔ ∃ l ∈ Text.lines source, ∃ p ∈ ps, p.matches? l = true := by
  rw [inText, ofPatterns_ne_nil_iff (Enclosing.length_ofLines _)]
  simp only [onLine, List.any_eq_true]

/-- A scan lists idioms in the order of the catalog, each exactly if one of its patterns matches on some line, with
    exactly the sightings of its patterns. -/
theorem scan_exact {es : List Signature} {c : Catalog} (hc : Catalog.ofList es = .ok c) {source : String}
    (hne : source ≠ "") (s : Settings.Scanner) (d : Dialect) :
    ((scan s c source d).map (·.1)).Sublist c.idioms ∧
    ∀ i, (i ∈ (scan s c source d).map (·.1) ↔
        ∃ l ∈ Text.lines source, ∃ p ∈ c.patternsOf i d, p.matches? l = true) ∧
      ExactOn s (Text.lines source) (c.patternsOf i d) (listed (scan s c source d) i) := by
  obtain ⟨rfl, hnodup, -⟩ := Catalog.ofList_eq_ok_iff.mp hc
  refine ⟨idioms_scan_sublist s _ source d, fun i => ?_⟩
  obtain ⟨hlisted, hkey⟩ := listed_scan hnodup hne s d i
  rw [hkey, inText_ne_nil_iff, hlisted]
  exact ⟨Iff.rfl, exactOn_ofPatterns s (fun l hl => Text.newline_not_mem_of_mem_lines hl) _⟩

/-- The signature recognizes pipelines by calls of `run`. -/
def runCalls : Signature where
  idiom := .pipeline
  patterns := [(.ioredis, [.literal "run("])]
  keywords := []
  rating := .simple
  requirements := []
  recipes := []

/-- The window starts as many lines above as asked for, and is cut off at the end of the text. -/
theorem scan_exact_runCalls : Catalog.ofList [runCalls] = .ok ⟨[runCalls]⟩ ∧ "a\nb\nc\nd\nrun()\ne" ≠ "" ∧
    .pipeline ∈ (scan {} ⟨[runCalls]⟩ "a\nb\nc\nd\nrun()\ne" .ioredis).map (·.1) ∧
    ∃ x ∈ listed (scan {} ⟨[runCalls]⟩ "a\nb\nc\nd\nrun()\ne" .ioredis) .pipeline,
      x.line = 4 ∧ x.first = 2 ∧ x.last = 5 ∧ Text.lines x.code = ["c", "d", "run()", "e"] := by
  have haccepted : Catalog.ofList [runCalls] = .ok ⟨[runCalls]⟩ := rfl
  have hne : "a\nb\nc\nd\nrun()\ne" ≠ "" := by decide
  have hlines : Text.lines "a\nb\nc\nd\nrun()\ne" = ["a", "b", "c", "d", "run()", "e"] := by decide
  have hmatch : ∃ p ∈ Catalog.patternsOf ⟨[runCalls]⟩ .pipeline .ioredis, p.matches? "run()" = true :=
    ⟨.literal "run(", List.mem_singleton_self _, by decide⟩
  obtain ⟨hkey, -, hmatched, hwindows⟩ := (scan_exact haccepted hne {} .ioredis).2 .pipeline
  rw [hlines] at hkey hmatched hwindows
  obtain ⟨x, hx, hline⟩ := List.mem_map.mp ((hmatched 4).mpr ⟨4, rfl, "run()", rfl, hmatch⟩)
  obtain ⟨-, hfirst, hlast, hcode⟩ := hwindows x hx
  rw [hline] at hfirst hlast
  refine ⟨haccepted, hne, hkey.mpr ⟨"run()", by decide, hmatch⟩, x, hx, hline, hfirst, hlast, ?_⟩
  rw [hcode, hfirst, hlast]
  rfl

/-! ### Appended text -/

/-- Where a sighting is: its line, the first line of its window, and the names around it. -/
def place (x : Sighting) : Int × Int × Option String × Option String :=
  (x.line, x.first, x.surroundings.className, x.surroundings.functionName)

/-- The sightings above a line. -/
def above (n : Nat) (found : List Sighting) : List Sighting := found.filter (·.line < (n : Int))

/-- The lines of the sightings from a line on, counted from it. -/
def linesFrom (n : Nat) (found : List Sighting) : List Int :=
  (found.filter ((n : Int) ≤ ·.line)).map (·.line - (n : Int))

section Parted
variable {n : Nat} {upper lower : List Sighting} (hupper : ∀ x ∈ upper, x.line < n) (hlower : ∀ x ∈ lower, n ≤ x.line)
include hupper hlower

theorem above_append : above n (upper ++ lower) = upper := by
  have hkept : upper.filter (·.line < (n : Int)) = upper :=
    List.filter_eq_self.mpr fun x hx => decide_eq_true (hupper x hx)
  have hleft : lower.filter (·.line < (n : Int)) = [] :=
    List.filter_eq_nil_iff.mpr fun x hx h => Int.not_lt.mpr (hlower x hx) (of_decide_eq_true h)
  rw [above, List.filter_append, hkept, hleft, List.append_nil]

theorem linesFrom_append : linesFrom n (upper ++ lower) = lower.map (·.line - (n : Int)) := by
  have hleft : upper.filter ((n : Int) ≤ ·.line) = [] :=
    List.filter_eq_nil_iff.mpr fun x hx h => Int.not_le.mpr (hupper x hx) (of_decide_eq_true h)
  have hkept : lower.filter ((n : Int) ≤ ·.line) = lower :=
    List.filter_eq_self.mpr fun x hx => decide_eq_true (hlower x hx)
  rw [linesFrom, List.filter_append, hleft, hkept, List.nil_append]

end Parted

theorem place_ofLine_append (s : Settings.Scanner) {ls : List String} {i : Nat} (h : i < ls.length) (ms : List String) :
    (ofLine s (ls ++ ms) i (Enclosing.atLine (ls ++ ms) i)).place = (ofLine s ls i (Enclosing.atLine ls i)).place := by
  rw [Enclosing.atLine_append h]
  rfl

/-- Lines put behind others leave the sightings above them where they were, and have one for each of them on which a
    pattern matches. -/
theorem ofPatterns_append (s : Settings.Scanner) (ls ms : List String) (ps : List Pattern) :
    let whole := ofPatterns s (ls ++ ms) (Enclosing.ofLines (ls ++ ms)) ps
    (above ls.length whole).map place = (ofPatterns s ls (Enclosing.ofLines ls) ps).map place ∧
    linesFrom ls.length whole = (ms.findIdxs (onLine ps)).map Int.ofNat := by
  dsimp only
  rw [ofPatterns_eq_map, ofPatterns_eq_map, List.findIdxs_append, Nat.zero_add, List.map_append]
  have hlt : ∀ i ∈ ls.findIdxs (onLine ps), i < ls.length := fun i hi => List.lt_add_of_mem_findIdxs i hi
  have hupper : ∀ x ∈ (ls.findIdxs (onLine ps)).map fun i => ofLine s (ls ++ ms) i (Enclosing.atLine (ls ++ ms) i),
      x.line < (ls.length : Int) := by
    intro x hx
    obtain ⟨i, hi, rfl⟩ := List.mem_map.mp hx
    exact Int.ofNat_lt.mpr (hlt i hi)
  have hlower : ∀ x ∈ (ms.findIdxs (onLine ps) ls.length).map fun i =>
      ofLine s (ls ++ ms) i (Enclosing.atLine (ls ++ ms) i), (ls.length : Int) ≤ x.line := by
    intro x hx
    obtain ⟨i, hi, rfl⟩ := List.mem_map.mp hx
    exact Int.ofNat_le.mpr (List.ge_of_mem_findIdxs i hi)
  rw [above_append hupper hlower, linesFrom_append hupper hlower, List.map_map, List.map_map, List.map_map]
  constructor
  · exact List.map_congr_left fun i hi => place_ofLine_append s (hlt i hi) ms
  · rw [List.findIdxs_start, List.map_map]
    exact List.map_congr_left fun i _ => Int.add_sub_cancel i ls.length

/-- Of a text with another behind a newline, a scan lists the sightings above the newline where it lists those of the
    first text alone, and below it one for each line of the second on which a pattern matches. -/
theorem scan_append_newline {es : List Signature} {c : Catalog} (hc : Catalog.ofList es = .ok c) {a : String}
    (ha : a ≠ "") (b : String) (s : Settings.Scanner) (d : Dialect) (i : Idiom) :
    (above (Text.lines a).length (listed (scan s c (a ++ "\n" ++ b) d) i)).map place =
      (listed (scan s c a d) i).map place ∧
    linesFrom (Text.lines a).length (listed (scan s c (a ++ "\n" ++ b) d) i) =
      ((Text.lines b).findIdxs (onLine (c.patternsOf i d))).map Int.ofNat := by
  obtain ⟨rfl, hnodup, -⟩ := Catalog.ofList_eq_ok_iff.mp hc
  have hne : a ++ "\n" ++ b ≠ "" := by
    intro h
    have hlength := congrArg String.length h
    rw [String.length_append, String.length_append] at hlength
    exact absurd hlength (by simp)
  rw [(listed_scan hnodup hne s d i).1, (listed_scan hnodup ha s d i).1, inText, inText, Text.lines_append_newline]
  exact ofPatterns_append s _ _ _

theorem scan_append_newline_runCalls : Catalog.ofList [runCalls] = .ok ⟨[runCalls]⟩ ∧ "class A\nrun()" ≠ "" ∧
    (above 2 (listed (scan {} ⟨[runCalls]⟩ ("class A\nrun()" ++ "\n" ++ "b\nrun()") .ioredis) .pipeline)).map place =
      (listed (scan {} ⟨[runCalls]⟩ "class A\nrun()" .ioredis) .pipeline).map place ∧
    linesFrom 2 (listed (scan {} ⟨[runCalls]⟩ ("class A\nrun()" ++ "\n" ++ "b\nrun()") .ioredis) .pipeline) = [1] := by
  have haccepted : Catalog.ofList [runCalls] = .ok ⟨[runCalls]⟩ := rfl
  have hne : "class A\nrun()" ≠ "" := by decide
  have hcount : (Text.lines "class A\nrun()").length = 2 := by decide
  have hbelow :
      (Text.lines "b\nrun()").findIdxs (onLine (Catalog.patternsOf ⟨[runCalls]⟩ .pipeline .ioredis)) = [1] := by
    decide
  obtain ⟨habove, hfrom⟩ := scan_append_newline haccepted hne "b\nrun()" {} .ioredis .pipeline
  rw [hcount] at habove hfrom
  rw [hbelow] at hfrom
  exact ⟨haccepted, hne, habove, hfrom⟩

end Sighting

end ClientMigration
