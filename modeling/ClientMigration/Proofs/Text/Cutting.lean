import ClientMigration.Proofs.Text.FirstLine

/-! # Cutting a text at a target

A scan cuts the text at the first occurrence of the target, goes on behind it, and ends where none is left. The pieces
are what lies between the cuts. Putting the replacement between the same pieces instead of the target is all that
replacing does, so a longer replacement leaves more of a text and a shorter one less. -/

namespace ClientMigration.Text

/-- The target cuts a text into pieces: each but the last ends at the first occurrence of the target in what is left of
    the text, and the target does not occur in the last. -/
inductive Cut (target : List Char) : List Char → List (List Char) → Prop where
  | last {piece : List Char} (h : ¬target <:+: piece) : Cut target piece [piece]
  | first (piece rest : List Char) {ps : List (List Char)} (h : FirstAfter target (piece ++ target ++ rest) piece)
      (hrest : Cut target rest ps) : Cut target (piece ++ target ++ rest) (piece :: ps)

variable {target : List Char}

theorem Cut.cons {c : Char} {rest : List Char} {ps : List (List Char)} (h : Cut target rest ps)
    (hp : ¬target <+: c :: rest) : Cut target (c :: rest) (consHead c ps) := by
  cases h with
  | last hnone =>
    refine .last fun hin => ?_
    rcases List.infix_cons_iff.mp hin with hin | hin
    · exact hp hin
    · exact hnone hin
  | first piece rest hfirst hrest =>
    exact .first (c :: piece) rest ((firstAfter_cons_iff hp).mpr ⟨piece, rfl, hfirst⟩) hrest

/-- The pieces found by the scan are those between the cuts. -/
theorem cut_pieces (h : target ≠ []) (text : List Char) : Cut target text (pieces target text) := by
  induction text using scan_induction h with
  | nil =>
    rw [pieces_nil]
    exact .last fun hin => h (List.infix_nil.mp hin)
  | found rest ih =>
    rw [pieces_append h]
    exact .first [] rest (firstAfter_append_iff.mpr rfl) ih
  | pass c rest hp ih =>
    rw [pieces_cons hp]
    exact ih.cons hp

theorem intercalate_pieces (h : target ≠ []) (text : List Char) : target.intercalate (pieces target text) = text :=
  replaceAll_self h text

theorem length_pieces (target text : List Char) : (pieces target text).length = countOf target text + 1 := by
  have := List.length_pos_iff.mpr (@pieces_ne_nil target text)
  rw [countOf]
  omega

/-- What is left out of the replacement is left out of the text. -/
theorem replaceAll_sublist_replaceAll (h : target ≠ []) {r r' : List Char} (hr : r.Sublist r') (text : List Char) :
    (replaceAll target r text).Sublist (replaceAll target r' text) := by
  induction text using scan_induction h with
  | nil =>
    rw [@replaceAll_nil target r]
    exact List.nil_sublist _
  | found rest ih =>
    rw [replaceAll_append h, replaceAll_append h]
    exact hr.append ih
  | pass c rest hp ih =>
    rw [replaceAll_cons hp, replaceAll_cons hp]
    exact ih.cons_cons c

end ClientMigration.Text
