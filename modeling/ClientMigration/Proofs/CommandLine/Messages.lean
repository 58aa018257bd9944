import ClientMigration.CommandLine.Run

/-! # Messages

A message without a bracket can always be shown, and it is shown as it is if no code and no control stands in it. What
a message is wrapped in does not change this. A step that shows messages either shows them all, or breaks off at the
first that cannot be shown; it touches no file, and where faults are reported it prints nowhere else. -/

namespace ClientMigration

theorem toOption_eq_some_iff {ε α : Type} {x : Except ε α} {a : α} : x.toOption = some a ↔ x = .ok a := by
  cases x with
  | ok b => exact Option.some_inj.trans ⟨congrArg _, Except.ok.inj⟩
  | error e => exact iff_of_false nofun nofun

namespace CommandLine

/-! ### Plain text -/

/-- A text of characters that stand for themselves everywhere. -/
def IsPlain (cs : List Char) : Prop := ∀ c ∈ cs, 32 ≤ c.toNat ∧ c ≠ '[' ∧ c ≠ '\\' ∧ c ≠ ':'

instance (cs : List Char) : Decidable (IsPlain cs) := List.decidableBAll _ cs

theorem isPlain_append {cs ds : List Char} : IsPlain (cs ++ ds) ↔ IsPlain cs ∧ IsPlain ds := List.forall_mem_append

theorem isPlain_toString (n : Nat) : IsPlain (toString n).toList := by
  have hdigits : (toString n).toList = Nat.toDigits 10 n := Nat.toList_repr
  intro c hc
  have hdigit : c.isDigit = true := Nat.isDigit_of_mem_toDigits (by decide) (by decide) (hdigits ▸ hc)
  refine ⟨?_, ?_, ?_, ?_⟩
  · rw [Char.isDigit, Bool.and_eq_true, decide_eq_true_iff, ge_iff_le, UInt32.le_iff_toNat_le] at hdigit
    exact Nat.le_trans (by decide) hdigit.1
  all_goals
    rintro rfl
    exact absurd hdigit (by decide)

namespace Display

theorem expandTabs_of_isPlain {cs : List Char} (h : IsPlain cs) (cell : Nat) : expandTabs cell cs = cs := by
  induction cs generalizing cell with
  | nil => rfl
  | cons c cs ih =>
    obtain ⟨⟨hc, -⟩, hcs⟩ := List.forall_mem_cons.mp h
    have hnewline : c ≠ '\n' := by
      rintro rfl
      exact absurd hc (by decide)
    have htab : c ≠ '\t' := by
      rintro rfl
      exact absurd hc (by decide)
    rw [expandTabs, if_neg hnewline, if_neg htab, ih hcs]

theorem message_of_isPlain {s : String} (h : IsPlain s.toList) : message s = s := by
  have hkept : s.toList.filter (fun c => !movesCursor c) = s.toList := by
    rw [List.filter_eq_self]
    intro c hc
    have hspace := (h c hc).1
    rw [Bool.not_eq_true', ← Bool.not_eq_true]
    intro hmoves
    simp only [movesCursor, List.contains_iff_mem, List.mem_cons, List.not_mem_nil, or_false] at hmoves
    rcases hmoves with rfl | rfl | rfl | rfl | rfl <;> exact absurd hspace (by decide)
  rw [message, hkept, expandTabs_of_isPlain h, String.ofList_toList]

end Display

/-! ### Markup -/

namespace Markup

theorem tagText?_of_ne {c : Char} (h : c ≠ '[') (cs : List Char) : tagText? (c :: cs) = none := by
  rw [tagText?]
  rintro d ds ⟨⟩
  exact h rfl

theorem pieces_of_no_bracket {cs : List Char} (h : '[' ∉ cs) (position n : Nat) (plain : List Char) :
    pieces position 0 n plain cs = [.text (plain ++ List.replicate n '\\' ++ cs)] := by
  induction cs generalizing position n plain with
  | nil => rw [pieces, List.append_nil]
  | cons c cs ih =>
    obtain ⟨hc, hcs⟩ := not_or.mp (mt List.mem_cons.mpr h)
    rw [pieces, tagText?_of_ne (Ne.symm hc)]
    split
    · rename_i hslash
      rw [ih hcs, hslash, List.replicate_succ', List.append_assoc, List.append_assoc, List.append_assoc]
      rfl
    · dsimp only
      rw [if_neg (Ne.symm hc), ih hcs]
      simp

theorem pieces_append {cs : List Char} (h : '[' ∉ cs ∧ '\\' ∉ cs) (rest : List Char) (position : Nat)
    (plain : List Char) :
    pieces position 0 0 plain (cs ++ rest) = pieces (position + cs.length) 0 0 (plain ++ cs) rest := by
  induction cs generalizing position plain with
  | nil => rw [List.append_nil, List.nil_append, List.length_nil, Nat.add_zero]
  | cons c cs ih =>
    obtain ⟨hbracket, hcs⟩ := not_or.mp (mt List.mem_cons.mpr h.1)
    obtain ⟨hslash, hcs'⟩ := not_or.mp (mt List.mem_cons.mpr h.2)
    rw [List.cons_append, pieces, tagText?_of_ne (Ne.symm hbracket), if_neg (Ne.symm hslash)]
    dsimp only
    rw [if_neg (Ne.symm hbracket), ih ⟨hcs, hcs'⟩, List.length_cons, Nat.add_right_comm, Nat.add_assoc]
    simp

theorem pieces_skip (xs rest : List Char) (position n : Nat) (plain : List Char) :
    pieces position xs.length n plain (xs ++ rest) = pieces (position + xs.length) 0 n plain rest := by
  induction xs generalizing position with
  | nil => rfl
  | cons x xs ih => rw [List.length_cons, List.cons_append, pieces, ih, Nat.add_right_comm, Nat.add_assoc]

/-- A tag at the front is read as such, up to its closing bracket. -/
theorem pieces_tag {c : Char} {inside : List Char} (hc : startsTag c = true) (hin : ∀ d ∈ inside, d ≠ '[' ∧ d ≠ ']')
    (rest plain : List Char) (position : Nat) :
    pieces position 0 0 plain ('[' :: c :: inside ++ ']' :: rest) =
      [.text plain, .text [], .tag position (.ofText (c :: inside))] ++
        pieces (position + 1 + (inside.length + 2)) 0 0 [] rest := by
  have htake : (inside ++ ']' :: rest).takeWhile (fun d => d != '[' && d != ']') = inside := by
    rw [List.takeWhile_append_of_pos]
    · simp
    · intro d hd
      simpa using hin d hd
  have htag : tagText? ('[' :: c :: inside ++ ']' :: rest) = some (c :: inside) := by
    simp only [List.cons_append, tagText?, htake, List.drop_left, hc, Bool.true_and]
    simp
  have hskip : pieces (position + 1) ((c :: inside).length + 1) 0 [] (c :: inside ++ ']' :: rest) =
      pieces (position + 1 + (inside.length + 2)) 0 0 [] rest := by
    have hsplit : c :: inside ++ ']' :: rest = (c :: inside ++ [']']) ++ rest := by simp
    have hlength : (c :: inside).length + 1 = (c :: inside ++ [']']).length := by simp
    rw [hsplit, hlength, pieces_skip]
    simp
  rw [List.cons_append, List.cons_append] at htag ⊢
  rw [pieces, htag, if_neg (by decide)]
  dsimp only
  rw [← List.cons_append, hskip]
  rfl

theorem Tag.ofText_of_no_parameter {cs : List Char} (h : '=' ∉ cs) : Tag.ofText cs = ⟨String.ofList cs, none⟩ := by
  have hall : cs.takeWhile (· != '=') = cs := by
    have hnone : ∀ c ∈ cs, (c != '=') = true := fun c hc => bne_iff_ne.mpr fun heq => h (heq ▸ hc)
    rw [← List.append_nil cs, List.takeWhile_append_of_pos hnone, List.takeWhile_nil]
  rw [ofText, hall, List.drop_length]

/-- A word of small letters. -/
def IsLetters (cs : List Char) : Prop := ∀ c ∈ cs, 'a' ≤ c ∧ c ≤ 'z'

instance (cs : List Char) : Decidable (IsLetters cs) := List.decidableBAll _ cs

theorem IsLetters.startsTag {cs : List Char} (h : IsLetters cs) {c : Char} (hc : c ∈ cs) : startsTag c = true := by
  simp [Markup.startsTag, h c hc]

theorem IsLetters.not_mem {cs : List Char} (h : IsLetters cs) {c : Char} (hc : ¬('a' ≤ c ∧ c ≤ 'z')) : c ∉ cs :=
  mt (h c) hc

theorem toList_closing (style : String) : ("/" ++ style).toList = '/' :: style.toList := by
  rw [String.toList_append]
  rfl

section
variable {style : String} (hs : IsLetters style.toList)
include hs

theorem ofText_opening : Tag.ofText style.toList = ⟨style, none⟩ := by
  rw [Tag.ofText_of_no_parameter (hs.not_mem (by decide)), String.ofList_toList]

theorem ofText_closing : Tag.ofText ('/' :: style.toList) = ⟨"/" ++ style, none⟩ := by
  rw [← toList_closing, Tag.ofText_of_no_parameter, String.ofList_toList]
  rw [toList_closing]
  exact List.not_mem_cons_of_ne_of_not_mem (by decide) (hs.not_mem (by decide))

/-- A text in a style is read as the text between two tags. -/
theorem pieces_styled (hne : style ≠ "") {text : String} (ht : '[' ∉ text.toList ∧ '\\' ∉ text.toList)
    (rest : List Char) (position : Nat) : ∃ p q, pieces position 0 0 [] ((styled style text).toList ++ rest) =
      [.text [], .text [], .tag position ⟨style, none⟩, .text text.toList, .text [], .tag p ⟨"/" ++ style, none⟩] ++
        pieces q 0 0 [] rest := by
  obtain ⟨c, inside, hcs⟩ := List.exists_cons_of_ne_nil (mt String.toList_eq_nil_iff.mp hne)
  have hchars : (styled style text).toList ++ rest =
      '[' :: c :: inside ++ ']' :: (text.toList ++ ('[' :: '/' :: (c :: inside) ++ ']' :: rest)) := by
    simp [styled, String.toList_append, hcs]
  have hopening := ofText_opening hs
  have hclosing := ofText_closing hs
  rw [hcs] at hs hopening hclosing
  have hbrackets : ∀ d ∈ c :: inside, d ≠ '[' ∧ d ≠ ']' := fun d hd =>
    ⟨fun h => hs.not_mem (by decide) (h ▸ hd), fun h => hs.not_mem (by decide) (h ▸ hd)⟩
  rw [hchars, pieces_tag (hs.startsTag List.mem_cons_self) (List.forall_mem_cons.mp hbrackets).2, pieces_append ht,
    List.nil_append, pieces_tag (by decide) hbrackets, hopening, hclosing]
  exact ⟨_, _, rfl⟩

end

/-- The styles of messages. -/
def messageStyles : List String := ["red", "yellow", "green"]

/-- The styles of messages are words of letters, and normal. -/
theorem messageStyles_spec : ∀ style ∈ messageStyles, IsLetters style.toList ∧
    style ≠ "" ∧ Text.strip style = style ∧ (Style.normal style).toOption = some style := by
  decide +kernel

end Markup

namespace Console
open Markup
variable (k : Console)

@[simp] theorem emoji_nil : k.emoji [] = [] := k.emoji_eq_self [] List.not_mem_nil

@[simp] theorem showPieces_text_nil (opened : List Tag) (ps : List Piece) :
    k.showPieces opened (.text [] :: ps) = k.showPieces opened ps := by
  rw [showPieces, emoji_nil]
  cases k.showPieces opened ps <;> rfl

theorem showPieces_of_follow {opened opened' : List Tag} {position : Nat} {t : Tag}
    (h : k.follow opened position t = .ok opened') (ps : List Piece) :
    k.showPieces opened (.tag position t :: ps) = k.showPieces opened' ps := by
  rw [showPieces, h]
  rfl

section
variable {style : String} (hs : style ∈ messageStyles)
include hs

theorem follow_open (opened : List Tag) (position : Nat) :
    k.follow opened position ⟨style, none⟩ = .ok (⟨style, none⟩ :: opened) := by
  obtain ⟨hletters, -, -, hnormal⟩ := messageStyles_spec style hs
  have hopen : Tag.closed? ⟨style, none⟩ = none := by
    rw [Tag.closed?]
    split
    · rename_i name hname
      exact absurd (hname ▸ List.mem_cons_self) (hletters.not_mem (by decide : ¬('a' ≤ '/' ∧ '/' ≤ 'z')))
    · rfl
  simp only [follow, hopen, toOption_eq_some_iff.mp hnormal]
  rfl

theorem follow_close (opened : List Tag) (position : Nat) :
    k.follow (⟨style, none⟩ :: opened) position ⟨"/" ++ style, none⟩ = .ok opened := by
  obtain ⟨-, hne, hstrip, hnormal⟩ := messageStyles_spec style hs
  have hclosed : Tag.closed? ⟨"/" ++ style, none⟩ = some style := by
    rw [Tag.closed?, toList_closing]
    show some (Text.strip (String.ofList style.toList)) = some style
    rw [String.ofList_toList, hstrip]
  have hfind : (⟨style, none⟩ :: opened : List Tag).find? (·.name == style) = some ⟨style, none⟩ :=
    List.find?_cons_of_pos (beq_self_eq_true style)
  have herase : (⟨style, none⟩ :: opened : List Tag).eraseP (·.name == style) = opened :=
    List.eraseP_cons_of_pos (beq_self_eq_true style)
  have hfault : k.tagFault? ⟨style, none⟩ = none := by
    rw [tagFault?]
    split <;> rfl
  have hnamed : (Style.normal style).mapError Flaw.integer = .ok style := by
    rw [toOption_eq_some_iff.mp hnormal]
    rfl
  have hempty : style.isEmpty = false := by simpa using hne
  simp only [follow, hclosed, hempty, Bool.false_eq_true, if_false, hnamed, bind, Except.bind, hfind, close, hfault,
    herase]

/-- A text in the style of a message is shown as the text, and what comes behind it as it would be alone. -/
theorem showPieces_styled {text : String} (ht : '[' ∉ text.toList ∧ '\\' ∉ text.toList) (rest : List Char)
    (position : Nat) : ∃ position', k.showPieces [] (pieces position 0 0 [] ((styled style text).toList ++ rest)) =
      (k.showPieces [] (pieces position' 0 0 [] rest)).map (k.emoji text.toList ++ ·) := by
  obtain ⟨hletters, hne, -, -⟩ := messageStyles_spec style hs
  obtain ⟨p, q, hpieces⟩ := pieces_styled hletters hne ht rest position
  refine ⟨q, ?_⟩
  rw [hpieces]
  simp only [List.cons_append, List.nil_append, showPieces_text_nil, showPieces_of_follow k (follow_open k hs _ _)]
  rw [showPieces, showPieces_text_nil, showPieces_of_follow k (follow_close k hs _ _)]

end

/-! ### What can be shown -/

/-- The message can be shown. -/
def Shows (k : Console) (message : String) : Prop := ∃ line, k.render message = .ok line

/-- Why a message cannot be shown. -/
def flaw? (k : Console) (message : String) : Option Flaw :=
  match k.render message with
  | .ok _ => none
  | .error f => some f

/-- Why the first of some messages that cannot be shown is not. -/
def firstFlaw? (k : Console) (messages : List String) : Option Flaw := messages.findSome? k.flaw?

variable {k : Console} {message : String}

theorem flaw?_eq_none_iff : k.flaw? message = none ↔ k.Shows message := by
  rw [flaw?, Shows]
  cases k.render message <;> simp

theorem flaw?_eq_some_iff {f : Flaw} : k.flaw? message = some f ↔ k.render message = .error f := by
  rw [flaw?]
  cases k.render message <;> simp

instance : Decidable (k.Shows message) := decidable_of_iff _ flaw?_eq_none_iff

theorem firstFlaw?_eq_none_iff {messages : List String} :
    k.firstFlaw? messages = none ↔ ∀ message ∈ messages, k.Shows message := by
  simp only [firstFlaw?, List.findSome?_eq_none_iff, flaw?_eq_none_iff]

theorem showPieces_of_no_bracket {cs : List Char} (h : '[' ∉ cs) (opened : List Tag) (position n : Nat)
    (plain : List Char) : k.showPieces opened (pieces position 0 n plain cs) =
      .ok (k.emoji (plain ++ List.replicate n '\\' ++ cs)) := by
  rw [pieces_of_no_bracket h, showPieces, showPieces, Except.map, List.append_nil]

theorem shows_of_no_bracket (h : '[' ∉ message.toList) : k.Shows message := by
  rw [Shows, render, showPieces_of_no_bracket h]
  exact ⟨_, rfl⟩

theorem render_of_isPlain (h : IsPlain message.toList) : k.render message = .ok message := by
  have hbracket : '[' ∉ message.toList := fun hin => (h _ hin).2.1 rfl
  have hcolon : ':' ∉ message.toList := fun hin => (h _ hin).2.2.2 rfl
  rw [render, showPieces_of_no_bracket hbracket, List.replicate_zero, List.append_nil, List.nil_append,
    k.emoji_eq_self _ hcolon, Except.map, String.ofList_toList, Display.message_of_isPlain h]

theorem shows_styled_append {style text : String} (hs : style ∈ messageStyles)
    (ht : '[' ∉ text.toList ∧ '\\' ∉ text.toList) (h : '[' ∉ message.toList) :
    k.Shows (styled style text ++ " " ++ message) := by
  obtain ⟨position, hpieces⟩ := showPieces_styled k hs ht (" " ++ message).toList 0
  have hrest : '[' ∉ (" " ++ message).toList := by
    rw [String.toList_append, List.mem_append]
    exact not_or.mpr ⟨by decide, h⟩
  rw [Shows, render, String.append_assoc, String.toList_append, hpieces, showPieces_of_no_bracket hrest]
  exact ⟨_, rfl⟩

theorem shows_failed (h : '[' ∉ message.toList) : k.Shows (failed message) :=
  shows_styled_append (by decide) (by decide) h

theorem shows_warned (h : '[' ∉ message.toList) : k.Shows (warned message) :=
  shows_styled_append (by decide) (by decide) h

theorem render_succeeded (h : IsPlain message.toList) : k.render (succeeded message) = .ok message := by
  have hplain : '[' ∉ message.toList ∧ '\\' ∉ message.toList :=
    ⟨fun hin => (h _ hin).2.1 rfl, fun hin => (h _ hin).2.2.1 rfl⟩
  have hcolon : ':' ∉ message.toList := fun hin => (h _ hin).2.2.2 rfl
  have hgreen : "green" ∈ messageStyles := by decide
  obtain ⟨position, hpieces⟩ := showPieces_styled k hgreen hplain [] 0
  rw [List.append_nil] at hpieces
  rw [render, succeeded, hpieces, showPieces_of_no_bracket List.not_mem_nil, k.emoji_eq_self _ hcolon]
  simp [Except.map, Display.message_of_isPlain h]

end Console

/-! ### Steps -/

/-- The second workspace is the first with more reports. -/
def Workspace.Reports (w w' : Workspace) : Prop := ∃ lines, w' = { w with err := w.err ++ lines }

theorem Workspace.Reports.refl (w : Workspace) : w.Reports w := ⟨"", by rw [String.append_empty]⟩

theorem Workspace.Reports.trans {u v w : Workspace} (huv : u.Reports v) (hvw : v.Reports w) : u.Reports w := by
  obtain ⟨lines, rfl⟩ := huv
  obtain ⟨lines', rfl⟩ := hvw
  exact ⟨lines ++ lines', by rw [String.append_assoc]⟩

theorem Workspace.Reports.folder_eq {w w' : Workspace} (h : w.Reports w') : w'.folder = w.folder := by
  obtain ⟨lines, rfl⟩ := h
  rfl

theorem Workspace.Reports.out_eq {w w' : Workspace} (h : w.Reports w') : w'.out = w.out := by
  obtain ⟨lines, rfl⟩ := h
  rfl

theorem Workspace.reports_report (w : Workspace) (line : String) : w.Reports (w.report line) :=
  ⟨line ++ "\n", by rw [report, String.append_assoc]⟩

namespace Step
variable {α β : Type} {k : Console} {message : String} {w : Workspace}

theorem run_bind_of_ok {x : Step α} {f : α → Step β} {w' : Workspace} {a : α} (h : x.run w = .ok a w') :
    (x >>= f).run w = (f a).run w' := by
  show EStateM.bind x f w = _
  rw [EStateM.bind, show x w = .ok a w' from h]
  rfl

theorem run_bind_of_error {x : Step α} {f : α → Step β} {w' : Workspace} {b : Breakdown} (h : x.run w = .error b w') :
    (x >>= f).run w = .error b w' := by
  show EStateM.bind x f w = _
  rw [EStateM.bind, show x w = .error b w' from h]

theorem run_shown_of_render {line : String} (h : k.render message = .ok line) :
    (shown k message).run w = .ok line w := by
  rw [shown, h]
  rfl

theorem run_shown_of_flaw {f : Markup.Flaw} (h : k.render message = .error f) :
    (shown k message).run w = .error (.unshowable f) w := by
  rw [shown, h]
  rfl

theorem run_say_of_render {line : String} (h : k.render message = .ok line) :
    (say k message).run w = .ok () (w.print line) := by
  rw [say, run_bind_of_ok (run_shown_of_render h)]
  rfl

theorem run_report_of_shows (h : k.Shows message) : ∃ w', (report k message).run w = .ok () w' ∧ w.Reports w' := by
  obtain ⟨line, hline⟩ := h
  rw [report, run_bind_of_ok (run_shown_of_render hline)]
  exact ⟨_, rfl, w.reports_report line⟩

theorem run_report_of_flaw {f : Markup.Flaw} (h : k.render message = .error f) :
    (report k message).run w = .error (.unshowable f) w := by
  rw [report, run_bind_of_error (run_shown_of_flaw h)]

@[simp] theorem warnAll_nil : warnAll k [] = pure () := rfl

@[simp] theorem warnAll_cons (messages : List String) :
    warnAll k (message :: messages) = (do warn k message; warnAll k messages) := rfl

/-- Warnings that can be shown are all shown, and nothing else happens. -/
theorem run_warnAll_of_shows {messages : List String} (h : ∀ m ∈ messages, k.Shows (Markup.warned m)) :
    ∃ w', (warnAll k messages).run w = .ok () w' ∧ w.Reports w' := by
  induction messages generalizing w with
  | nil => exact ⟨w, rfl, .refl w⟩
  | cons m messages ih =>
    obtain ⟨hm, hmessages⟩ := List.forall_mem_cons.mp h
    obtain ⟨w₁, hw₁, hreports⟩ := run_report_of_shows (w := w) hm
    obtain ⟨w₂, hw₂, hreports'⟩ := ih (w := w₁) hmessages
    refine ⟨w₂, ?_, hreports.trans hreports'⟩
    rw [warnAll_cons, warn, run_bind_of_ok hw₁, hw₂]

/-- Of other warnings those before the first flaw are shown, and the flaw ends the step. -/
theorem run_warnAll_of_firstFlaw {messages : List String} {f : Markup.Flaw}
    (h : k.firstFlaw? (messages.map Markup.warned) = some f) :
    ∃ w', (warnAll k messages).run w = .error (.unshowable f) w' ∧ w.Reports w' := by
  induction messages generalizing w with
  | nil => cases h
  | cons m messages ih =>
    rw [List.map_cons, Console.firstFlaw?, List.findSome?_cons] at h
    cases hm : k.flaw? (Markup.warned m) with
    | none =>
      rw [hm] at h
      obtain ⟨w₁, hw₁, hreports⟩ := run_report_of_shows (w := w) (Console.flaw?_eq_none_iff.mp hm)
      obtain ⟨w₂, hw₂, hreports'⟩ := ih (w := w₁) h
      refine ⟨w₂, ?_, hreports.trans hreports'⟩
      rw [warnAll_cons, warn, run_bind_of_ok hw₁, hw₂]
    | some g =>
      rw [hm] at h
      cases h
      refine ⟨w, ?_, .refl w⟩
      rw [warnAll_cons, warn, run_bind_of_error (run_report_of_flaw (Console.flaw?_eq_some_iff.mp hm))]

/-! ### Steps that may break off -/

/-- The step goes on with a value exactly under a condition. Whether or not it does, it leaves the files so. -/
structure Leaves (x : Step α) (w : Workspace) (a : α) (folder : Folder) (condition : Prop) : Prop where
  ok : condition → ∃ w', x.run w = .ok a w' ∧ w'.folder = folder
  error : ¬condition → ∃ b w', x.run w = .error b w' ∧ w'.folder = folder

section
variable {x : Step α} {f : α → Step β} {a : α} {b : β} {folder : Folder} {P Q : Prop}

theorem Leaves.of_run {w' : Workspace} (h : x.run w = .ok a w') : Leaves x w a w'.folder True :=
  ⟨fun _ => ⟨w', h, rfl⟩, fun hfalse => absurd trivial hfalse⟩

theorem Leaves.of_run_eq {y : Step α} {w' : Workspace} (h : x.run w = y.run w') (hy : Leaves y w' a folder P) :
    Leaves x w a folder P := by
  constructor
  · rw [h]
    exact hy.ok
  · rw [h]
    exact hy.error

theorem Leaves.congr (h : Leaves x w a folder P) (hiff : P ↔ Q) : Leaves x w a folder Q := propext hiff ▸ h

/-- A step behind another goes on if both do. -/
theorem Leaves.bind (hx : Leaves x w a folder P) (hf : ∀ w', w'.folder = folder → Leaves (f a) w' b folder Q) :
    Leaves (x >>= f) w b folder (P ∧ Q) := by
  by_cases hP : P
  · obtain ⟨w', hw', hfolder⟩ := hx.ok hP
    rw [and_iff_right hP]
    exact .of_run_eq (run_bind_of_ok hw') (hf w' hfolder)
  · obtain ⟨c, w', hw', hfolder⟩ := hx.error hP
    exact ⟨fun h => absurd h.1 hP, fun _ => ⟨c, w', run_bind_of_error hw', hfolder⟩⟩

theorem Leaves.bind_pure (hx : Leaves x w a folder P) (b : β) : Leaves (x >>= fun _ => pure b) w b folder P := by
  refine (hx.bind (Q := True) fun w' hw' => ?_).congr (and_iff_left trivial)
  rw [← hw']
  exact .of_run rfl

end

theorem leaves_say : Leaves (say k message) w () w.folder (k.Shows message) := by
  constructor
  · rintro ⟨line, hline⟩
    exact ⟨_, run_say_of_render hline, rfl⟩
  · intro h
    cases hrender : k.render message with
    | ok line => exact absurd ⟨line, hrender⟩ h
    | error f => exact ⟨_, w, run_bind_of_error (run_shown_of_flaw hrender), rfl⟩

theorem leaves_report : Leaves (report k message) w () w.folder (k.Shows message) := by
  constructor
  · intro h
    obtain ⟨w', hw', hreports⟩ := run_report_of_shows (w := w) h
    exact ⟨w', hw', hreports.folder_eq⟩
  · intro h
    cases hrender : k.render message with
    | ok line => exact absurd ⟨line, hrender⟩ h
    | error f => exact ⟨_, w, run_report_of_flaw hrender, rfl⟩

theorem leaves_warnAll (messages : List String) :
    Leaves (warnAll k messages) w () w.folder (∀ m ∈ messages, k.Shows (Markup.warned m)) := by
  constructor
  · intro h
    obtain ⟨w', hw', hreports⟩ := run_warnAll_of_shows (w := w) h
    exact ⟨w', hw', hreports.folder_eq⟩
  · intro h
    cases hflaw : k.firstFlaw? (messages.map Markup.warned) with
    | none => exact absurd (List.forall_mem_map.mp (Console.firstFlaw?_eq_none_iff.mp hflaw)) h
    | some f =>
      obtain ⟨w', hw', hreports⟩ := run_warnAll_of_firstFlaw (w := w) hflaw
      exact ⟨_, w', hw', hreports.folder_eq⟩

theorem run_detector {c : Context} {s : Settings} {t : Detector} (hs : c.settings = .ok s)
    (ht : Detector.make .builtin s = .ok t) : (detector c).run w = .ok t w := by
  rw [detector, hs]
  dsimp only
  rw [ht]
  rfl

end Step

/-! ### Ends of runs -/

namespace Exit
variable (host : Host) (debug : Bool) (b : Breakdown) (w : Workspace)

/-- What broke a run off, as it is reported. -/
def breakdownMessage : String := Markup.failed ("Error: " ++ b.message host.wording)

theorem leaves_reportBreakdown : Step.Leaves (reportBreakdown host debug b) w () w.folder
    (host.console.Shows (breakdownMessage host b)) := by
  have hsay : ∀ {message : String}, '[' ∉ message.toList → ∀ w' : Workspace, w'.folder = w.folder →
      Step.Leaves (.say host.console message) w' () w.folder True := by
    intro message hmessage w' hw'
    exact hw' ▸ Step.leaves_say.congr (iff_true_intro (Console.shows_of_no_bracket hmessage))
  have hblank : '[' ∉ "".toList := by decide
  have hhint : '[' ∉
      (if debug then "Full traceback (--debug mode):" else "Run with --debug for full traceback.").toList := by
    cases debug <;> decide
  rw [reportBreakdown, Step.error]
  refine (Step.leaves_report.bind fun w' hw' => (hsay hblank w' hw').bind (hsay hhint)).congr ?_
  exact and_iff_left ⟨trivial, trivial⟩

theorem ofResult_ok (e : Ending) : ofResult host debug (.ok e w) = { workspace := w, code := e.code } := rfl

/-- What broke a run off is reported with code 3. If the report cannot be shown, nothing catches that. -/
theorem ofResult_error : (ofResult host debug (.error b w)).workspace.folder = w.folder ∧
    (ofResult host debug (.error b w)).code = if host.console.Shows (breakdownMessage host b) then 3 else 1 := by
  have hreport := leaves_reportBreakdown host debug b w
  rw [ofResult]
  by_cases h : host.console.Shows (breakdownMessage host b)
  · obtain ⟨w', hw', hfolder⟩ := hreport.ok h
    rw [hw', if_pos h]
    exact ⟨hfolder, rfl⟩
  · obtain ⟨b', w', hw', hfolder⟩ := hreport.error h
    rw [hw', if_neg h]
    exact ⟨hfolder, rfl⟩

theorem code_ofResult_error_ne_zero : (ofResult host debug (.error b w)).code ≠ 0 := by
  rw [(ofResult_error host debug b w).2]
  split <;> decide

theorem ofResult_of_leaves {x : Step Ending} {folder : Folder} {P : Prop} (h : Step.Leaves x w .success folder P) :
    (ofResult host debug (x.run w)).workspace.folder = folder ∧ ((ofResult host debug (x.run w)).code = 0 ↔ P) := by
  by_cases hP : P
  · obtain ⟨w', hw', hfolder⟩ := h.ok hP
    rw [hw', ofResult_ok]
    exact ⟨hfolder, iff_of_true rfl hP⟩
  · obtain ⟨b, w', hw', hfolder⟩ := h.error hP
    rw [hw']
    exact ⟨(ofResult_error host debug b w').1.trans hfolder,
      iff_of_false (code_ofResult_error_ne_zero host debug b w') hP⟩

end Exit

/-- A host with a plain console, an empty environment and no settings file. -/
def bareHost : Host where
  working := "/work"
  accountHome := some "/home"
  environment := []
  now := ""
  console := .plain
  wording := ⟨id, fun _ => ""⟩
  documentFlaw := id

end CommandLine
end ClientMigration
