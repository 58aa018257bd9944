import ClientMigration.Proofs.Regex.Passing
import ClientMigration.Source.Enclosing

/-! # What declarations name

A declaration of a class or a function holds one name, a run of word characters. The run ends where the word does, and it
begins where the word does, but for one case: behind the keyword `function` neither a blank nor a star is asked for, so
the keyword may be the beginning of a longer word, of which the name is the rest. -/

namespace ClientMigration

/-! ### Words -/

namespace Text

theorem blankRanges_apart : (blankRanges.all fun b => wordRanges.all fun w => b.2 < w.1 || w.2 < b.1) = true := by
  decide +kernel

theorem ascii_blanks : ∀ n < 128, (blankRanges.any fun b => b.1 ≤ n && n ≤ b.2) = true →
    ((Char.ofNat n).isAlphanum || Char.ofNat n == '_') = false := by
  decide

/-- No blank is a word character. -/
theorem isWord_of_isBlank {c : Char} (h : isBlank c = true) : isWord c = false := by
  rw [isWord]
  split
  · rename_i hascii
    have hnone := ascii_blanks c.toNat hascii h
    rwa [Char.ofNat_toNat] at hnone
  · rw [CharRanges.contains, List.any_eq_false]
    intro w hw hin
    obtain ⟨b, hb, hblank⟩ := List.any_eq_true.mp h
    have hapart := List.all_eq_true.mp (List.all_eq_true.mp blankRanges_apart b hb) w hw
    simp only [Bool.and_eq_true, Bool.or_eq_true, decide_eq_true_eq] at hin hblank hapart
    omega

/-- The word stands in the text as a maximal run of word characters. -/
def StandsIn (w text : List Char) : Prop :=
  w ≠ [] ∧ (∀ c ∈ w, isWord c = true) ∧ ∃ before after, text = before ++ w ++ after ∧
    (∀ c ∈ before.getLast?, isWord c = false) ∧ ∀ c ∈ after.head?, isWord c = false

/-- Whether the word stands in the text behind so many characters. -/
def standsAt? (w text : List Char) (n : Nat) : Bool :=
  (text.drop n).take w.length == w && (text.take n).getLast?.all (!isWord ·) &&
    ((text.drop n).drop w.length).head?.all (!isWord ·)

theorem standsAt?_iff {w text : List Char} {n : Nat} : standsAt? w text n = true ↔ (text.drop n).take w.length = w ∧
    (∀ c ∈ (text.take n).getLast?, isWord c = false) ∧ ∀ c ∈ ((text.drop n).drop w.length).head?, isWord c = false := by
  simp only [standsAt?, Bool.and_eq_true, beq_iff_eq, Option.all_eq_true, Bool.not_eq_true', and_assoc, Option.mem_def]

theorem standsIn_iff {w text : List Char} : StandsIn w text ↔
    (!w.isEmpty && w.all isWord && (List.range (text.length + 1)).any (standsAt? w text)) = true := by
  simp only [StandsIn, Bool.and_eq_true, Bool.not_eq_true', List.isEmpty_eq_false_iff, List.all_eq_true, List.any_eq_true,
    List.mem_range, standsAt?_iff, and_assoc]
  refine and_congr_right fun _ => and_congr_right fun _ => ?_
  constructor
  · rintro ⟨before, after, rfl, hleft, hright⟩
    refine ⟨before.length, by rw [List.length_append, List.length_append]; omega, ?_, ?_, ?_⟩ <;> rw [List.append_assoc]
    · rw [List.drop_left, List.take_left]
    · rwa [List.take_left]
    · rwa [List.drop_left, List.drop_left]
  · rintro ⟨n, -, hw, hleft, hright⟩
    refine ⟨text.take n, (text.drop n).drop w.length, ?_, hleft, hright⟩
    calc text = text.take n ++ ((text.drop n).take w.length ++ (text.drop n).drop w.length) := by
          rw [List.take_append_drop, List.take_append_drop]
      _ = text.take n ++ w ++ (text.drop n).drop w.length := by rw [hw, List.append_assoc]

instance (w text : List Char) : Decidable (StandsIn w text) := decidable_of_iff _ standsIn_iff.symm

theorem takeWhile_isWord {w r : List Char} (hall : ∀ c ∈ w, isWord c = true) (hr : ∀ c ∈ r.head?, isWord c = false) :
    (w ++ r).takeWhile isWord = w := by
  rw [List.takeWhile_append_of_pos hall]
  cases r with
  | nil => exact List.append_nil w
  | cons c r => rw [List.takeWhile_cons_of_neg (by rw [hr c rfl]; exact Bool.false_ne_true), List.append_nil]

end Text

namespace Cursor

/-- The text in which a place is. -/
def text (c : Cursor) : List Char := c.before.reverse ++ c.rest

theorem text_atOffset (text : List Char) (n : Nat) : (atOffset text n).text = text := by
  rw [Cursor.text, atOffset, List.reverse_reverse, List.take_append_drop]

theorem Passes.text_eq {c c' : Cursor} {w : List Char} (h : c.Passes w c') : c'.text = c.text := by
  rw [text, text, h.rest, h.before, List.reverse_append, List.reverse_reverse, List.append_assoc]

theorem standsIn {c c' : Cursor} {w : List Char} (h : c.Passes w c') (hne : w ≠ [])
    (hall : ∀ x ∈ w, Text.isWord x = true) (hleft : ∀ x ∈ c.previous, Text.isWord x = false)
    (hright : ∀ x ∈ c'.rest.head?, Text.isWord x = false) : Text.StandsIn w c.text := by
  refine ⟨hne, hall, c.before.reverse, c'.rest, ?_, ?_, hright⟩
  · rw [text, h.rest, List.append_assoc]
  · rwa [List.getLast?_reverse]

end Cursor

/-! ### Pieces of declarations -/

namespace Regex
variable {p q : Progress}

theorem has_word (c : Char) : (CharSet.of [.named .word false]).has c = Text.isWord c := by
  simp [CharSet.has, CharSet.of, CharSet.lists, SetItem.has, CharClass.has]

theorem has_blank (c : Char) : (CharSet.of [.named .blank false]).has c = Text.isBlank c := by
  simp [CharSet.has, CharSet.of, CharSet.lists, SetItem.has, CharClass.has]

theorem mem_outcomes_blank_iff : q ∈ blank.outcomes p ↔ ∃ b, Text.isBlank b = true ∧ p.Through [b] q := by
  rw [blank, mem_outcomes_set_iff]
  simp only [has_blank]

theorem mem_outcomes_star_blank_iff :
    q ∈ (star blank).outcomes p ↔ ∃ w, p.Through w q ∧ ∀ c ∈ w, Text.isBlank c = true := by
  rw [blank, mem_outcomes_star_set_iff, Runs]
  simp only [has_blank]

theorem mem_outcomes_plus_blank_iff :
    q ∈ (plus blank).outcomes p ↔ ∃ w ≠ [], p.Through w q ∧ ∀ c ∈ w, Text.isBlank c = true := by
  rw [blank, mem_outcomes_plus_set_iff]
  simp only [has_blank]

theorem mem_outcomes_group_word_iff {i : Nat} : q ∈ (Regex.group i (plus word)).outcomes p ↔
    ∃ w ≠ [], (∀ c ∈ w, Text.isWord c = true) ∧ p.cursor.Passes w q.cursor ∧ q.groups = (i, w) :: p.groups := by
  rw [word, mem_outcomes_group_plus_set_iff]
  simp only [has_word]

theorem outcomes_sequence_append (rs : List Regex) : ∀ (fs : List Regex) (p : Progress),
    (sequence (fs ++ rs)).outcomes p = ((sequence fs).outcomes p).flatMap (sequence rs).outcomes
  | [], p => (List.flatMap_singleton _ p).symm
  | f :: fs, p => by
    have hcons : ∀ gs, (sequence (f :: gs)).outcomes p = (f.outcomes p).flatMap (sequence gs).outcomes := fun _ => rfl
    rw [List.cons_append, hcons, hcons, List.flatMap_assoc]
    exact congrArg (List.flatMap · _) (funext fun q => outcomes_sequence_append rs fs q)

/-- A sequence with one group, around a word, holds the word that it passes there. -/
theorem exists_capture {front back : List Regex} {i : Nat} (hfront : (sequence front).indices = [])
    (hback : (sequence back).indices = []) {c : Cursor}
    (h : q ∈ (sequence (front ++ .group i (plus word) :: back)).outcomes ⟨c, []⟩) :
    ∃ m ∈ (sequence front).outcomes ⟨c, []⟩, ∃ (m' : Progress) (w : List Char), q ∈ (sequence back).outcomes m' ∧
      m.cursor.Passes w m'.cursor ∧ w ≠ [] ∧ (∀ x ∈ w, Text.isWord x = true) ∧ q.groups = [(i, w)] := by
  rw [outcomes_sequence_append, List.mem_flatMap] at h
  obtain ⟨m, hm, h⟩ := h
  obtain ⟨m', hm', hq⟩ := mem_outcomes_sequence_cons.mp h
  obtain ⟨w, hne, hall, hpasses, hgroups⟩ := mem_outcomes_group_word_iff.mp hm'
  refine ⟨m, hm, m', w, hq, hpasses, hne, hall, ?_⟩
  rw [groups_of_mem_outcomes hback hq, hgroups, groups_of_mem_outcomes hfront hm]

end Regex

/-! ### Where a name begins and ends -/

namespace Enclosing
open Regex
variable {p q m : Progress}

/-- A blank lies right before the place. -/
def AfterBlank (q : Progress) : Prop := ∃ b, q.cursor.previous = some b ∧ Text.isBlank b = true

/-- The place is at the start of the text or right behind a blank. -/
def Opens (q : Progress) : Prop := ∀ x ∈ q.cursor.previous, Text.isBlank x = true

/-- The way between the two is empty or ends with a blank. -/
def Gap (p q : Progress) : Prop := q = p ∨ AfterBlank q

theorem AfterBlank.opens (h : AfterBlank q) : Opens q := by
  obtain ⟨b, hb, hblank⟩ := h
  intro x hx
  rw [hb] at hx
  exact Option.mem_some.mp hx ▸ hblank

theorem Opens.not_isWord (h : Opens q) : ∀ x ∈ q.cursor.previous, Text.isWord x = false :=
  fun x hx => Text.isWord_of_isBlank (h x hx)

theorem Gap.refl (p : Progress) : Gap p p := Or.inl rfl

theorem Gap.trans (p m q : Progress) (h : Gap p m) (h' : Gap m q) : Gap p q := by
  rcases h' with rfl | h'
  · exact h
  · exact Or.inr h'

theorem Gap.opens (h : Gap p q) (hp : Opens p) : Opens q := by
  rcases h with rfl | h
  · exact hp
  · exact h.opens

theorem afterBlank_of_through {w : List Char} (h : p.Through w q) (hne : w ≠ []) (hall : ∀ c ∈ w, Text.isBlank c = true) :
    AfterBlank q := by
  refine ⟨w.getLast hne, ?_, hall _ (List.getLast_mem hne)⟩
  rw [Cursor.previous, h.passes.before, List.head?_append, List.head?_reverse, List.getLast?_eq_some_getLast hne,
    Option.some_or]

theorem afterBlank_of_keyword {s : String} (h : q ∈ (keyword s).outcomes p) : AfterBlank q := by
  obtain ⟨m, -, h⟩ := List.mem_flatMap.mp h
  obtain ⟨w, hne, hw, hall⟩ := mem_outcomes_plus_blank_iff.mp h
  exact afterBlank_of_through hw hne hall

theorem gap_of_star_blank (h : q ∈ (star blank).outcomes p) : Gap p q := by
  obtain ⟨w, hw, hall⟩ := mem_outcomes_star_blank_iff.mp h
  by_cases hne : w = []
  · subst hne
    exact Or.inl (Progress.Through.nil_iff.mp hw)
  · exact Or.inr (afterBlank_of_through hw hne hall)

theorem gap_of_optional_keyword {s : String} (h : q ∈ (optional (keyword s)).outcomes p) : Gap p q := by
  rcases mem_outcomes_optional_iff.mp h with h | rfl
  · exact Or.inr (afterBlank_of_keyword h)
  · exact .refl q

/-- Blanks and then a character that is none stand at the place. -/
def EndsAt (x : Char) (q : Progress) : Prop :=
  ∃ bs after, (∀ c ∈ bs, Text.isBlank c = true) ∧ q.cursor.rest = bs ++ x :: after

theorem EndsAt.not_isWord {x : Char} (hx : Text.isWord x = false) (h : EndsAt x q) :
    ∀ c ∈ q.cursor.rest.head?, Text.isWord c = false := by
  obtain ⟨bs, after, hall, hrest⟩ := h
  intro c hc
  rw [hrest] at hc
  cases bs with
  | nil => exact Option.mem_some.mp hc ▸ hx
  | cons b bs => exact Text.isWord_of_isBlank (Option.mem_some.mp hc ▸ hall b List.mem_cons_self)

theorem endsAt_of_blanks {r : Regex} {rs : List Regex} {x : Char}
    (hr : ∀ p, ∀ q ∈ r.outcomes p, ∃ after, p.cursor.rest = x :: after)
    (h : q ∈ (sequence (star blank :: r :: rs)).outcomes p) : EndsAt x p := by
  obtain ⟨m, hm, h⟩ := mem_outcomes_sequence_cons.mp h
  obtain ⟨m', hm', -⟩ := mem_outcomes_sequence_cons.mp h
  obtain ⟨w, hw, hall⟩ := mem_outcomes_star_blank_iff.mp hm
  obtain ⟨after, hafter⟩ := hr m m' hm'
  exact ⟨w, after, hall, by rw [hw.passes.rest, hafter]⟩

theorem rest_of_char {x : Char} : ∀ p, ∀ q ∈ (char x).outcomes p, ∃ after, p.cursor.rest = x :: after :=
  fun _ q h => ⟨q.cursor.rest, (mem_outcomes_char_iff.mp h).passes.rest⟩

theorem rest_of_parameters : ∀ p, ∀ q ∈ parameters.outcomes p, ∃ after, p.cursor.rest = '(' :: after := by
  intro p q h
  obtain ⟨m, hm, -⟩ := mem_outcomes_sequence_cons.mp h
  exact rest_of_char p m hm

/-! ### The three kinds of function -/

/-- At the start of the text or behind a blank, the word `function` runs on into the name, and parentheses follow. -/
def RunsOn (w text : List Char) : Prop :=
  w ≠ [] ∧ (∀ c ∈ w, Text.isWord c = true) ∧ ∃ before blanks after,
    text = before ++ "function".toList ++ w ++ blanks ++ '(' :: after ∧
    (∀ c ∈ before.getLast?, Text.isBlank c = true) ∧ ∀ c ∈ blanks, Text.isBlank c = true

section Kinds
variable {c : Cursor}

/-- A name that opens behind a blank or at the start and stops at a character that is no part of words is a whole word. -/
theorem standsIn_of_capture {m m' : Progress} {v w : List Char} {x : Char} (hv : c.Passes v m.cursor)
    (hpasses : m.cursor.Passes w m'.cursor) (hne : w ≠ []) (hall : ∀ x ∈ w, Text.isWord x = true)
    (hleft : ∀ x ∈ m.cursor.previous, Text.isWord x = false) (hx : Text.isWord x = false) (hend : EndsAt x m') :
    Text.StandsIn w c.text := by
  rw [← hv.text_eq]
  exact Cursor.standsIn hpasses hne hall hleft (hend.not_isWord hx)

theorem named_of_functionVariable (h : q ∈ functionVariable.outcomes ⟨c, []⟩) :
    ∃ w, w ≠ [] ∧ q.groups = [(3, w)] ∧ Text.StandsIn w c.text := by
  have hsplit : functionVariable = Regex.sequence ([choice [literal "const", literal "let", literal "var"], plus blank] ++
      .group 3 (plus word) :: [star blank, char '=', star blank, optional (keyword "async"),
      choice [.seq (literal "function") (.anchor (.boundary true)), sequence [parameters, star blank, literal "=>"],
        sequence [plus word, star blank, literal "=>"]]]) := rfl
  rw [hsplit] at h
  obtain ⟨m, hm, m', w, hq, hpasses, hne, hall, hgroups⟩ := exists_capture rfl rfl h
  obtain ⟨m₁, hm₁, hm'⟩ := mem_outcomes_sequence_cons.mp hm
  obtain ⟨m₂, hm₂, hm'⟩ := mem_outcomes_sequence_cons.mp hm'
  rw [mem_outcomes_sequence_nil.mp hm'] at hm hpasses
  obtain ⟨v, hv⟩ := (reaches_of_mem_outcomes _ _ _ hm).passes
  obtain ⟨bs, hbs, hthrough, hblanks⟩ := mem_outcomes_plus_blank_iff.mp hm₂
  have hopens : Opens m₂ := (afterBlank_of_through hthrough hbs hblanks).opens
  have hend : EndsAt '=' m' := endsAt_of_blanks rest_of_char hq
  exact ⟨w, hne, hgroups, standsIn_of_capture hv hpasses hne hall hopens.not_isWord (by decide) hend⟩

/-- What lies along a way through the declaration of a function by its keyword. -/
theorem parts_of_namedFunction (h : q ∈ namedFunction.outcomes ⟨c, []⟩) :
    ∃ (k₁ k₂ k₃ m m' : Progress) (w : List Char), k₁ ∈ (choice [.anchor .start, blank]).outcomes ⟨c, []⟩ ∧
      k₂ ∈ (optional (keyword "async")).outcomes k₁ ∧ k₂.Through "function".toList k₃ ∧
      m ∈ (sequence [star blank, optional (char '*'), star blank]).outcomes k₃ ∧ m.cursor.Passes w m'.cursor ∧
      w ≠ [] ∧ (∀ x ∈ w, Text.isWord x = true) ∧ EndsAt '(' m' ∧ q.groups = [(1, w)] := by
  have hsplit : namedFunction = Regex.sequence (([choice [.anchor .start, blank], optional (keyword "async"),
      literal "function"] ++ [star blank, optional (char '*'), star blank]) ++ .group 1 (plus word) ::
      [star blank, char '(']) := rfl
  rw [hsplit] at h
  obtain ⟨m, hm, m', w, hq, hpasses, hne, hall, hgroups⟩ := exists_capture rfl rfl h
  rw [outcomes_sequence_append, List.mem_flatMap] at hm
  obtain ⟨m₀, hm₀, hsep⟩ := hm
  obtain ⟨k₁, hk₁, hm₀⟩ := mem_outcomes_sequence_cons.mp hm₀
  obtain ⟨k₂, hk₂, hm₀⟩ := mem_outcomes_sequence_cons.mp hm₀
  obtain ⟨k₃, hk₃, hm₀⟩ := mem_outcomes_sequence_cons.mp hm₀
  rw [mem_outcomes_sequence_nil.mp hm₀] at hsep
  exact ⟨k₁, k₂, k₃, m, m', w, hk₁, hk₂, mem_outcomes_literal_iff.mp hk₃, hsep, hpasses, hne, hall,
    endsAt_of_blanks rest_of_char hq, hgroups⟩

/-- Between the keyword `function` and the name there is a blank or a star, or nothing. -/
theorem separated_or_eq (h : q ∈ (sequence [star blank, optional (char '*'), star blank]).outcomes p) :
    q = p ∨ ∀ x ∈ q.cursor.previous, Text.isWord x = false := by
  obtain ⟨m₁, hm₁, h⟩ := mem_outcomes_sequence_cons.mp h
  obtain ⟨m₂, hm₂, h⟩ := mem_outcomes_sequence_cons.mp h
  obtain ⟨m₃, hm₃, h⟩ := mem_outcomes_sequence_cons.mp h
  rw [mem_outcomes_sequence_nil.mp h]
  rcases gap_of_star_blank hm₃ with rfl | hblank
  · rcases mem_outcomes_optional_iff.mp hm₂ with hstar | rfl
    · refine Or.inr fun x hx => ?_
      rw [Cursor.previous, (mem_outcomes_char_iff.mp hstar).passes.before] at hx
      exact Option.mem_some.mp hx ▸ (by decide)
    · rcases gap_of_star_blank hm₁ with rfl | hblank
      · exact Or.inl rfl
      · exact Or.inr hblank.opens.not_isWord
  · exact Or.inr hblank.opens.not_isWord

variable (hstart : c.position = 0 → c.previous = none)
include hstart

theorem opens_of_start (h : q ∈ (Regex.anchor .start).outcomes ⟨c, []⟩) : Opens q := by
  rw [outcomes] at h
  split at h
  · rename_i hholds
    rw [List.mem_singleton.mp h]
    intro x hx
    rw [hstart (beq_iff_eq.mp hholds)] at hx
    cases hx
  · cases h

theorem opens_of_opening (h : q ∈ (choice [.anchor .start, blank]).outcomes ⟨c, []⟩) : Opens q := by
  rcases List.mem_append.mp h with h | h
  · exact opens_of_start hstart h
  · obtain ⟨b, hb, hthrough⟩ := mem_outcomes_blank_iff.mp h
    exact (afterBlank_of_through hthrough (List.cons_ne_nil b []) (List.forall_mem_singleton.mpr hb)).opens

theorem named_of_methodBody (h : q ∈ methodBody.outcomes ⟨c, []⟩) :
    ∃ w, w ≠ [] ∧ q.groups = [(2, w)] ∧ Text.StandsIn w c.text := by
  have hsplit : methodBody = Regex.sequence ([.anchor .start, star blank,
      star (choice [keyword "public", keyword "private", keyword "protected", keyword "static"]),
      optional (keyword "async")] ++ .group 2 (plus word) :: [star blank, parameters, star blank,
      optional (.seq (char ':') (star (noneOf ['\x7b']))), char '\x7b']) := rfl
  rw [hsplit] at h
  obtain ⟨m, hm, m', w, hq, hpasses, hne, hall, hgroups⟩ := exists_capture rfl rfl h
  obtain ⟨m₁, hm₁, hm'⟩ := mem_outcomes_sequence_cons.mp hm
  obtain ⟨m₂, hm₂, hm'⟩ := mem_outcomes_sequence_cons.mp hm'
  obtain ⟨m₃, hm₃, hm'⟩ := mem_outcomes_sequence_cons.mp hm'
  obtain ⟨m₄, hm₄, hm'⟩ := mem_outcomes_sequence_cons.mp hm'
  rw [mem_outcomes_sequence_nil.mp hm'] at hm hpasses
  -- Every modifier ends with a blank, so the name opens where the last one ends, or where the line starts.
  have hmodifier : ∀ p q, q ∈ (choice [keyword "public", keyword "private", keyword "protected",
      keyword "static"]).outcomes p → Gap p q := by
    intro p q hq
    simp only [choice, outcomes, List.mem_append] at hq
    rcases hq with hq | hq | hq | hq <;> exact Or.inr (afterBlank_of_keyword hq)
  have hopens : Opens m₄ := by
    refine (gap_of_optional_keyword hm₄).opens (Gap.opens ?_ ((gap_of_star_blank hm₂).opens (opens_of_start hstart hm₁)))
    rw [outcomes_star] at hm₃
    exact rel_of_mem_afterMany Gap.refl Gap.trans hmodifier _ m₂ m₃ hm₃
  have hend : EndsAt '(' m' := endsAt_of_blanks rest_of_parameters hq
  obtain ⟨v, hv⟩ := (reaches_of_mem_outcomes _ _ _ hm).passes
  exact ⟨w, hne, hgroups, standsIn_of_capture hv hpasses hne hall hopens.not_isWord (by decide) hend⟩

theorem named_of_namedFunction (h : q ∈ namedFunction.outcomes ⟨c, []⟩) :
    ∃ w, w ≠ [] ∧ q.groups = [(1, w)] ∧ (Text.StandsIn w c.text ∨ RunsOn w c.text) := by
  obtain ⟨k₁, k₂, k₃, m, m', w, hk₁, hk₂, hkeyword, hsep, hpasses, hne, hall, hend, hgroups⟩ := parts_of_namedFunction h
  obtain ⟨v₁, hv₁⟩ := (reaches_of_mem_outcomes _ _ _ hk₁).passes
  obtain ⟨v₂, hv₂⟩ := (reaches_of_mem_outcomes _ _ _ hk₂).passes
  refine ⟨w, hne, hgroups, ?_⟩
  rcases separated_or_eq hsep with rfl | hleft
  · have hopens : Opens k₂ := (gap_of_optional_keyword hk₂).opens (opens_of_opening hstart hk₁)
    obtain ⟨bs, after, hblanks, hrest⟩ := hend
    refine Or.inr ⟨hne, hall, k₂.cursor.before.reverse, bs, after, ?_, ?_, hblanks⟩
    · rw [← (hv₁.trans hv₂).text_eq, Cursor.text, hkeyword.passes.rest, hpasses.rest, hrest]
      simp only [List.append_assoc]
    · rwa [List.getLast?_reverse]
  · obtain ⟨v₃, hv₃⟩ := (reaches_of_mem_outcomes _ _ _ hsep).passes
    have hway := ((hv₁.trans hv₂).trans hkeyword.passes).trans hv₃
    exact Or.inl (standsIn_of_capture hway hpasses hne hall hleft (by decide) hend)

end Kinds

/-! ### Lines -/

theorem previous_of_position_eq_zero (text : List Char) (n : Nat) (h : (Cursor.atOffset text n).position = 0) :
    (Cursor.atOffset text n).previous = none := by
  obtain rfl : n = 0 := h
  rfl

/-- A match found in a text is the first way through the expression from some place of the text. -/
theorem exists_head_of_search? {r : Regex} {text : List Char} {h : Hit} (hs : r.search? text = some h) :
    ∃ n q, (r.outcomes ⟨.atOffset text n, []⟩).head? = some q ∧ h.groups = q.groups := by
  obtain ⟨n, -, hmatch, -⟩ := search?_eq_some_iff.mp hs
  rw [matchAt?_eq] at hmatch
  obtain ⟨q, hq, rfl⟩ := Option.map_eq_some_iff.mp hmatch
  exact ⟨n, q, hq, rfl⟩

theorem named_of_classDeclaration {c : Cursor} (h : (classDeclaration.outcomes ⟨c, []⟩).head? = some q) :
    ∃ w, w ≠ [] ∧ q.groups = [(1, w)] ∧ Text.StandsIn w c.text := by
  have hsplit : classDeclaration = Regex.sequence (([.anchor .start, star blank, optional (keyword "export"),
      optional (keyword "default"), optional (keyword "abstract")] ++ [keyword "class"]) ++ [.group 1 (plus word)]) := rfl
  have hword : ∀ m, (sequence [.group 1 (plus word)]).outcomes m = (Regex.group 1 (plus word)).outcomes m :=
    fun _ => List.flatMap_singleton' _
  rw [hsplit, outcomes_sequence_append, List.head?_flatMap, List.findSome?_eq_some_iff] at h
  obtain ⟨before, m, after, hways, hq, -⟩ := h
  have hm : m ∈ (sequence ([.anchor .start, star blank, optional (keyword "export"), optional (keyword "default"),
      optional (keyword "abstract")] ++ [keyword "class"])).outcomes ⟨c, []⟩ := by
    rw [hways]
    exact List.mem_append_right _ List.mem_cons_self
  -- The first way through the name takes as many word characters as there are.
  rw [hword] at hq
  obtain ⟨w, hne, hall, hpasses, hgroups⟩ := mem_outcomes_group_word_iff.mp (List.mem_of_mem_head? hq)
  rw [outcomes, List.head?_map] at hq
  obtain ⟨q', hq', hcursor⟩ := Option.map_eq_some_iff.mp hq
  have hright : ∀ x ∈ q.cursor.rest.head?, Text.isWord x = false := by
    intro x hx
    rw [← hcursor] at hx
    exact has_word x ▸ rest_of_head_outcomes_plus_set hq' x hx
  rw [groups_of_mem_outcomes rfl hm] at hgroups
  refine ⟨w, hne, hgroups, ?_⟩
  obtain ⟨v, hv⟩ := (reaches_of_mem_outcomes _ _ _ hm).passes
  rw [outcomes_sequence_append, List.mem_flatMap] at hm
  obtain ⟨m', -, hm⟩ := hm
  obtain ⟨m'', hm'', hm⟩ := mem_outcomes_sequence_cons.mp hm
  rw [← mem_outcomes_sequence_nil.mp hm] at hm''
  rw [← hv.text_eq]
  exact Cursor.standsIn hpasses hne hall (afterBlank_of_keyword hm'').opens.not_isWord hright

theorem named_of_functionDeclaration {c : Cursor} (hstart : c.position = 0 → c.previous = none)
    (h : q ∈ functionDeclaration.outcomes ⟨c, []⟩) :
    ∃ i < 3, ∃ w, w ≠ [] ∧ q.groups = [(i + 1, w)] ∧ (Text.StandsIn w c.text ∨ RunsOn w c.text) := by
  rcases List.mem_append.mp h with h | h
  · exact ⟨0, by decide, named_of_namedFunction hstart h⟩
  · rcases List.mem_append.mp h with h | h
    · obtain ⟨w, hne, hgroups, hstands⟩ := named_of_methodBody hstart h
      exact ⟨1, by decide, w, hne, hgroups, Or.inl hstands⟩
    · obtain ⟨w, hne, hgroups, hstands⟩ := named_of_functionVariable h
      exact ⟨2, by decide, w, hne, hgroups, Or.inl hstands⟩

/-! ### Keywords that run on -/

theorem exists_through {w r : List Char} (h : p.cursor.rest = w ++ r) : ∃ q, p.Through w q ∧ q.cursor.rest = r :=
  ⟨⟨⟨p.cursor.position + w.length, w.reverse ++ p.cursor.before, r⟩, p.groups⟩, ⟨⟨h, rfl, rfl⟩, rfl⟩, rfl⟩

theorem eq_of_opening {c : Cursor} {x : Char} {r : List Char} (hx : Text.isBlank x = false) (hrest : c.rest = x :: r)
    (h : q ∈ (choice [.anchor .start, blank]).outcomes ⟨c, []⟩) : q = ⟨c, []⟩ := by
  rcases List.mem_append.mp h with h | h
  · rw [outcomes] at h
    split at h
    · exact List.mem_singleton.mp h
    · cases h
  · obtain ⟨b, hb, hthrough⟩ := mem_outcomes_blank_iff.mp h
    have hcons := hthrough.passes.rest
    rw [hrest, List.singleton_append, List.cons.injEq] at hcons
    rw [← hcons.1, hx] at hb
    cases hb

theorem eq_of_optional_async {x : Char} {r : List Char} (hx : x ≠ 'a') (hp : p.cursor.rest = x :: r)
    (h : q ∈ (optional (keyword "async")).outcomes p) : q = p := by
  rcases mem_outcomes_optional_iff.mp h with h | h
  · obtain ⟨m, hm, -⟩ := List.mem_flatMap.mp h
    have hcons : x :: r = 'a' :: _ := hp.symm.trans (mem_outcomes_literal_iff.mp hm).passes.rest
    exact absurd (List.cons.inj hcons).1 hx
  · exact h

/-- Before a word character neither blanks nor a star are passed. -/
theorem eq_of_separator {x : Char} {r : List Char} (hx : Text.isWord x = true) (hp : p.cursor.rest = x :: r)
    (h : q ∈ (sequence [star blank, optional (char '*'), star blank]).outcomes p) : q = p := by
  have hblanks : ∀ {m}, m ∈ (star blank).outcomes p → m = p := by
    intro m hm
    obtain ⟨w, hw, hall⟩ := mem_outcomes_star_blank_iff.mp hm
    cases w with
    | nil => exact Progress.Through.nil_iff.mp hw
    | cons b w =>
      have hrest := hw.passes.rest
      rw [hp, List.cons_append, List.cons.injEq] at hrest
      rw [hrest.1, Text.isWord_of_isBlank (hall b List.mem_cons_self)] at hx
      cases hx
  obtain ⟨m₁, hm₁, h⟩ := mem_outcomes_sequence_cons.mp h
  obtain ⟨m₂, hm₂, h⟩ := mem_outcomes_sequence_cons.mp h
  obtain ⟨m₃, hm₃, h⟩ := mem_outcomes_sequence_cons.mp h
  rw [mem_outcomes_sequence_nil.mp h]
  rw [hblanks hm₁] at hm₂
  rcases mem_outcomes_optional_iff.mp hm₂ with hstar | hsame
  · have hrest := (mem_outcomes_char_iff.mp hstar).passes.rest
    rw [hp, List.singleton_append, List.cons.injEq] at hrest
    rw [hrest.1] at hx
    exact absurd hx (by decide)
  · rw [hsame] at hm₃
    exact hblanks hm₃

section RunsOn
variable {c : Cursor} {w blanks after : List Char}
  (hrest : c.rest = "function".toList ++ (w ++ (blanks ++ '(' :: after))) (hne : w ≠ [])
  (hall : ∀ x ∈ w, Text.isWord x = true) (hblanks : ∀ x ∈ blanks, Text.isBlank x = true)
include hrest hne hall hblanks

theorem exists_mem_of_runsOn (hstart : c.position = 0) : ∃ q, q ∈ namedFunction.outcomes ⟨c, []⟩ := by
  obtain ⟨k, hk, hkrest⟩ := @exists_through ⟨c, []⟩ _ _ hrest
  obtain ⟨m, hm, hmrest⟩ := exists_through hkrest
  obtain ⟨m', hm', hm'rest⟩ := @exists_through ⟨m.cursor, (1, w) :: k.groups⟩ _ _ hmrest
  obtain ⟨q, hq, -⟩ := @exists_through m' ['('] after hm'rest
  have hopening : (⟨c, []⟩ : Progress) ∈ (choice [.anchor .start, blank]).outcomes ⟨c, []⟩ := by
    have hholds : Anchor.holds c .start = true := beq_iff_eq.mpr hstart
    refine List.mem_append_left _ ?_
    rw [outcomes, if_pos hholds]
    exact List.mem_singleton_self _
  have hnone : ∀ {p : Progress}, p ∈ (star blank).outcomes p :=
    mem_outcomes_star_blank_iff.mpr ⟨[], .refl _, List.forall_mem_nil _⟩
  have hleft : ∀ {p : Progress} {r : Regex}, p ∈ (optional r).outcomes p := mem_outcomes_optional_iff.mpr (Or.inr rfl)
  have hname : q ∈ (sequence [.group 1 (plus word), star blank, char '(']).outcomes k := by
    refine mem_outcomes_sequence_cons.mpr ⟨⟨m.cursor, (1, w) :: k.groups⟩, ?_, ?_⟩
    · exact mem_outcomes_group_word_iff.mpr ⟨w, hne, hall, hm.passes, rfl⟩
    · refine mem_outcomes_sequence_cons.mpr ⟨m', mem_outcomes_star_blank_iff.mpr ⟨blanks, hm', hblanks⟩, ?_⟩
      exact mem_outcomes_sequence_cons.mpr ⟨q, mem_outcomes_char_iff.mpr hq, mem_outcomes_sequence_nil.mpr rfl⟩
  refine ⟨q, mem_outcomes_sequence_cons.mpr ⟨_, hopening, mem_outcomes_sequence_cons.mpr ⟨_, hleft, ?_⟩⟩⟩
  refine mem_outcomes_sequence_cons.mpr ⟨k, mem_outcomes_literal_iff.mpr hk, ?_⟩
  refine mem_outcomes_sequence_cons.mpr ⟨k, hnone, mem_outcomes_sequence_cons.mpr ⟨k, hleft, ?_⟩⟩
  exact mem_outcomes_sequence_cons.mpr ⟨k, hnone, hname⟩

/-- Where `function` runs on, the name is the rest of the word. -/
theorem groups_of_runsOn (h : q ∈ namedFunction.outcomes ⟨c, []⟩) : q.groups = [(1, w)] := by
  obtain ⟨k₁, k₂, k₃, m, m', w', hk₁, hk₂, hkeyword, hsep, hpasses, -, hall', hend, hgroups⟩ := parts_of_namedFunction h
  have hf : c.rest = 'f' :: ("unction".toList ++ (w ++ (blanks ++ '(' :: after))) := hrest
  have hk₁ := eq_of_opening (by decide) hf hk₁
  subst hk₁
  have hk₂ := eq_of_optional_async (by decide) hf hk₂
  subst hk₂
  have hk₃ : k₃.cursor.rest = w ++ (blanks ++ '(' :: after) :=
    List.append_cancel_left (hkeyword.passes.rest.symm.trans hrest)
  obtain ⟨x, r, hw⟩ := List.exists_cons_of_ne_nil hne
  have hm : m = k₃ := by
    have hcons : k₃.cursor.rest = x :: (r ++ (blanks ++ '(' :: after)) := by rw [hk₃, hw, List.cons_append]
    exact eq_of_separator (hall x (hw ▸ List.mem_cons_self)) hcons hsep
  -- Both names are all the word characters that follow the keyword.
  have hnonword : ∀ x ∈ (blanks ++ '(' :: after).head?, Text.isWord x = false :=
    @EndsAt.not_isWord ⟨⟨0, [], blanks ++ '(' :: after⟩, []⟩ '(' (by decide) ⟨blanks, after, hblanks, rfl⟩
  have hsame : w' = w := by
    rw [← Text.takeWhile_isWord hall' (hend.not_isWord (by decide)), ← hpasses.rest, hm, hk₃,
      Text.takeWhile_isWord hall hnonword]
  rw [hgroups, hsame]

end RunsOn

end Enclosing

end ClientMigration
