import ClientMigration.Proofs.Text.Literal

/-! # Overlapping occurrences

Two texts overlap in finitely many ways, and each way spells one text, so whether occurrences of the two can
meet is decided by computing those. Where they cannot, replacing one neither makes nor breaks an occurrence of
the other, and two replacements may change places. -/

namespace ClientMigration.Text

/-- The texts in which an occurrence of `b` begins inside one of `a`. -/
def overlaps : List Char → List Char → List (List Char)
  | [], _ => []
  | c :: a, b =>
    (if b.isPrefixOf (c :: a) then [c :: a] else if (c :: a).isPrefixOf b then [b] else []) ++
      (overlaps a b).map (c :: ·)

/-- Occurrences of the two texts never overlap. -/
structure Apart (a b : List Char) : Prop where
  left : overlaps a b = []
  right : overlaps b a = []

/-! ### Deciding overlaps on codes

Codes are compared as numbers, which is far cheaper to evaluate than comparing characters. -/

/-- One list of codes begins the other. -/
def agree : List Nat → List Nat → Bool
  | c :: a, d :: b => c == d && agree a b
  | _, _ => true

/-- The second list of codes can begin inside the first. -/
def meets : List Nat → List Nat → Bool
  | [], _ => false
  | c :: a, b => agree (c :: a) b || meets a b

theorem agree_map_toNat_iff : ∀ {a b : List Char},
    agree (a.map Char.toNat) (b.map Char.toNat) = true ↔ a <+: b ∨ b <+: a
  | [], b => by simp [agree]
  | c :: a, [] => by simp [agree]
  | c :: a, d :: b => by
    rw [List.map_cons, List.map_cons, agree, Bool.and_eq_true, beq_iff_eq, agree_map_toNat_iff, Char.toNat_inj,
      List.cons_prefix_cons, List.cons_prefix_cons, eq_comm (a := d), ← and_or_left]

theorem overlaps_eq_nil_iff : ∀ {a b : List Char},
    overlaps a b = [] ↔ meets (a.map Char.toNat) (b.map Char.toNat) = false
  | [], _ => by simp [overlaps, meets]
  | c :: a, b => by
    have hagree := @agree_map_toNat_iff (c :: a) b
    rw [List.map_cons] at hagree
    rw [overlaps, List.append_eq_nil_iff, List.map_eq_nil_iff, overlaps_eq_nil_iff, List.map_cons, meets,
      Bool.or_eq_false_iff, ← Bool.not_eq_true (agree _ _), hagree, ← List.isPrefixOf_iff_prefix,
      ← List.isPrefixOf_iff_prefix]
    refine and_congr_left fun _ => ?_
    split
    · simp [*]
    · split <;> simp [*]

instance (a b : List Char) : Decidable (Apart a b) :=
  decidable_of_iff (meets (a.map Char.toNat) (b.map Char.toNat) = false ∧
      meets (b.map Char.toNat) (a.map Char.toNat) = false)
    ⟨fun h => ⟨overlaps_eq_nil_iff.mpr h.1, overlaps_eq_nil_iff.mpr h.2⟩,
      fun h => ⟨overlaps_eq_nil_iff.mp h.left, overlaps_eq_nil_iff.mp h.right⟩⟩

theorem Apart.symm {a b : List Char} (h : Apart a b) : Apart b a := ⟨h.right, h.left⟩

/-! ### Where an occurrence can begin -/

/-- Two beginnings of one text are in the overlaps of the first with the second. -/
theorem mem_overlaps_of_prefix {c : Char} {a b x : List Char} (ha : c :: a <+: x) (hb : b <+: x) :
    ∃ w ∈ overlaps (c :: a) b, w <+: x := by
  rw [overlaps]
  by_cases hba : b <+: c :: a
  · exact ⟨c :: a, by simp [List.isPrefixOf_iff_prefix.mpr hba], ha⟩
  · have hab : c :: a <+: b := (List.prefix_or_prefix_of_prefix ha hb).resolve_right hba
    refine ⟨b, ?_, hb⟩
    rw [← List.isPrefixOf_iff_prefix] at hba
    simp [hba, List.isPrefixOf_iff_prefix.mpr hab]

/-- No occurrence of `b` begins inside the first part of `a ++ rest`. -/
def Clear (a b rest : List Char) : Prop := ∀ w ∈ overlaps a b, ¬w <+: a ++ rest

theorem clear_of_overlaps {a b rest : List Char} (h : overlaps a b = []) : Clear a b rest := by
  intro w hw
  rw [h] at hw
  cases hw

theorem Clear.not_prefix {c : Char} {a b rest : List Char} (h : Clear (c :: a) b rest) : ¬b <+: c :: (a ++ rest) := by
  intro hb
  obtain ⟨w, hw, hp⟩ := mem_overlaps_of_prefix (a := a) ⟨rest, rfl⟩ hb
  exact h w hw hp

theorem Clear.tail {c : Char} {a b rest : List Char} (h : Clear (c :: a) b rest) : Clear a b rest := by
  intro w hw hp
  refine h (c :: w) ?_ (List.cons_prefix_cons.mpr ⟨rfl, hp⟩)
  rw [overlaps]
  exact List.mem_append_right _ (List.mem_map_of_mem hw)

theorem overlaps_tail {c : Char} {a b : List Char} (h : overlaps (c :: a) b = []) : overlaps a b = [] := by
  rw [overlaps, List.append_eq_nil_iff, List.map_eq_nil_iff] at h
  exact h.2

theorem overlaps_of_append {b u : List Char} : ∀ {a : List Char}, overlaps (a ++ u) b = [] → overlaps u b = []
  | [], h => h
  | _ :: _, h => overlaps_of_append (overlaps_tail h)

/-- A text that never meets `b` begins no text that `b` begins. -/
theorem not_prefix_append_of_overlaps {a b rest : List Char} (h : overlaps a b = []) (hne : a ≠ []) :
    ¬a <+: b ++ rest := by
  intro ha
  obtain ⟨c, a, rfl⟩ := List.exists_cons_of_ne_nil hne
  obtain ⟨w, hw, -⟩ := mem_overlaps_of_prefix ha (List.prefix_append b rest)
  rw [h] at hw
  cases hw

theorem Apart.ne {a b : List Char} (h : Apart a b) (hne : a ≠ []) : a ≠ b := by
  rintro rfl
  exact not_prefix_append_of_overlaps h.left hne (List.prefix_append a [])

theorem Clear.infix_right {b rest : List Char} : ∀ {a : List Char}, Clear a b rest → b <:+: a ++ rest → b <:+: rest
  | [], _, h => h
  | _ :: _, hc, h => hc.tail.infix_right ((List.infix_cons_iff.mp h).resolve_left hc.not_prefix)

/-! ### Replacing beside other texts -/

/-- A part of the text in which the target does not begin is left as it is. -/
theorem Clear.replaceAll_append {target r rest : List Char} :
    ∀ {a : List Char}, Clear a target rest → replaceAll target r (a ++ rest) = a ++ replaceAll target r rest
  | [], _ => rfl
  | c :: a, h => by
    rw [List.cons_append, replaceAll_cons h.not_prefix, h.tail.replaceAll_append, List.cons_append]

/-- No occurrence of the target reaches across the border in front of a text that begins in none of them. -/
theorem not_prefix_append_border {target w rest a : List Char} {c : Char} (hw : overlaps target.tail w = [])
    (hp : ¬target <+: c :: a) : ¬target <+: c :: (a ++ (w ++ rest)) := by
  intro ht
  have hca : c :: a <+: c :: (a ++ (w ++ rest)) := ⟨w ++ rest, rfl⟩
  obtain ⟨u, rfl⟩ := (List.prefix_or_prefix_of_prefix ht hca).resolve_left hp
  have hu : u <+: w ++ rest := by
    rwa [List.cons_append, List.cons_prefix_cons, and_iff_right rfl, List.prefix_append_right_inj] at ht
  have hne : u ≠ [] := by
    rintro rfl
    exact hp (by simp)
  exact not_prefix_append_of_overlaps (overlaps_of_append hw) hne hu

theorem replaceAll_append_border {target r w rest : List Char} (h : target ≠ []) (hw : overlaps target.tail w = [])
    (a : List Char) :
    replaceAll target r (a ++ (w ++ rest)) = replaceAll target r a ++ replaceAll target r (w ++ rest) := by
  induction a using scan_induction h with
  | nil => simp
  | found a ih => rw [List.append_assoc, replaceAll_append h, replaceAll_append h, ih, List.append_assoc]
  | pass c a hp ih =>
    rw [List.cons_append, replaceAll_cons (not_prefix_append_border hw hp), replaceAll_cons hp, ih, List.cons_append]

theorem countOf_append_border {target w rest : List Char} (h : target ≠ []) (hw : overlaps target.tail w = [])
    (a : List Char) : countOf target (a ++ (w ++ rest)) = countOf target a + countOf target (w ++ rest) := by
  induction a using scan_induction h with
  | nil => simp
  | found a ih =>
    rw [List.append_assoc, countOf_append h, countOf_append h, ih]
    omega
  | pass c a hp ih => rw [List.cons_append, countOf_cons (not_prefix_append_border hw hp), countOf_cons hp, ih]

/-! ### What replacing makes and breaks -/

/-- What begins the new text and never meets the replacement began the old one. -/
theorem prefix_of_prefix_replaceAll {target r : List Char} (h : target ≠ []) (text : List Char) :
    ∀ {u : List Char}, overlaps u r = [] → u <+: replaceAll target r text → u <+: text := by
  induction text using scan_induction h with
  | nil =>
    intro u _ hu
    rwa [replaceAll_nil] at hu
  | found rest _ =>
    intro u hr hu
    rw [replaceAll_append h] at hu
    cases u with
    | nil => exact List.nil_prefix
    | cons c u => exact absurd hu (not_prefix_append_of_overlaps hr (List.cons_ne_nil _ _))
  | pass c rest hp ih =>
    intro u hr hu
    rw [replaceAll_cons hp, List.prefix_cons_iff] at hu
    rcases hu with rfl | ⟨u, rfl, hu⟩
    · exact List.nil_prefix
    · exact List.cons_prefix_cons.mpr ⟨rfl, ih (overlaps_tail hr) hu⟩

/-- A replacement makes no occurrence of a text that never meets it. -/
theorem infix_of_infix_replaceAll {target r t : List Char} (h : target ≠ []) (hr : Apart t r) (text : List Char)
    (ho : t <:+: replaceAll target r text) : t <:+: text := by
  induction text using scan_induction h with
  | nil => rwa [replaceAll_nil] at ho
  | found rest ih =>
    rw [replaceAll_append h] at ho
    exact List.infix_append_of_infix_right (ih ((clear_of_overlaps hr.right).infix_right ho))
  | pass c rest hp ih =>
    rw [replaceAll_cons hp, List.infix_cons_iff] at ho
    rcases ho with ho | ho
    · rw [← replaceAll_cons hp] at ho
      exact (prefix_of_prefix_replaceAll h _ hr.left ho).isInfix
    · exact List.infix_cons (ih ho)

/-- The target is gone, unless the replacement can bring it back. -/
theorem not_infix_replaceAll_self {target r : List Char} (h : target ≠ []) (hr : Apart target r) (text : List Char) :
    ¬target <:+: replaceAll target r text := by
  induction text using scan_induction h with
  | nil => rwa [replaceAll_nil, List.infix_nil]
  | found rest ih =>
    rw [replaceAll_append h]
    exact fun ho => ih ((clear_of_overlaps hr.right).infix_right ho)
  | pass c rest hp ih =>
    rw [replaceAll_cons hp, List.infix_cons_iff, not_or, ← replaceAll_cons hp]
    exact ⟨fun ho => hp (prefix_of_prefix_replaceAll h _ hr.left ho), ih⟩

/-- A text that never meets the target outlives its replacement. -/
theorem infix_replaceAll_of_apart {target r t : List Char} (h : target ≠ []) (ht : Apart t target) (text : List Char)
    (ho : t <:+: text) : t <:+: replaceAll target r text := by
  induction text using scan_induction h with
  | nil => rwa [replaceAll_nil]
  | found rest ih =>
    rw [replaceAll_append h]
    exact List.infix_append_of_infix_right (ih ((clear_of_overlaps ht.right).infix_right ho))
  | pass c rest hp ih =>
    by_cases hpre : t <+: c :: rest
    · obtain ⟨rest', hrest⟩ := hpre
      rw [← hrest, (clear_of_overlaps ht.left).replaceAll_append]
      exact List.infix_append_left
    · rw [replaceAll_cons hp]
      exact List.infix_cons (ih ((List.infix_cons_iff.mp ho).resolve_left hpre))

/-! ### Two replacements -/

/-- Occurrences of the two texts overlap somewhere in a text. -/
def Meet (a b text : List Char) : Prop := ∃ w ∈ overlaps a b ++ overlaps b a, w <:+: text

theorem Apart.not_meet {a b text : List Char} (h : Apart a b) : ¬Meet a b text := by
  rintro ⟨w, hw, -⟩
  rw [h.left, h.right] at hw
  cases hw

theorem Meet.symm {a b text : List Char} : Meet a b text → Meet b a text := by
  rintro ⟨w, hw, ho⟩
  exact ⟨w, List.mem_append.mpr (List.mem_append.mp hw).symm, ho⟩

theorem Meet.of_infix {a b text whole : List Char} (h : text <:+: whole) : Meet a b text → Meet a b whole := by
  rintro ⟨w, hw, ho⟩
  exact ⟨w, hw, ho.trans h⟩

theorem clear_of_not_meet {a b rest : List Char} (h : ¬Meet a b (a ++ rest)) : Clear a b rest :=
  fun w hw hp => h ⟨w, List.mem_append_left _ hw, hp.isInfix⟩

/-- The induction along a scan for two targets at once. -/
@[elab_as_elim]
theorem scan_induction_two {t₁ t₂ : List Char} (h₁ : t₁ ≠ []) (h₂ : t₂ ≠ []) {motive : List Char → Prop}
    (nil : motive []) (first : ∀ rest, motive rest → motive (t₁ ++ rest))
    (second : ∀ rest, motive rest → motive (t₂ ++ rest))
    (pass : ∀ c rest, ¬t₁ <+: c :: rest → ¬t₂ <+: c :: rest → motive rest → motive (c :: rest)) (text : List Char) :
    motive text := by
  have hne : ∀ t ∈ [t₁, t₂], t ≠ [] := List.forall_mem_cons.mpr ⟨h₁, List.forall_mem_singleton.mpr h₂⟩
  induction text using scan_induction_all hne with
  | nil => exact nil
  | found t ht rest ih =>
    rcases List.mem_cons.mp ht with rfl | ht
    · exact first rest ih
    · rw [List.mem_singleton] at ht
      exact ht ▸ second rest ih
  | pass c rest hp ih =>
    exact pass c rest (hp t₁ List.mem_cons_self) (hp t₂ (List.mem_cons_of_mem t₁ (List.mem_singleton_self t₂))) ih

/-- Two replacements change places on a text in which their targets do not overlap, if neither brings in a
    part of the other's target. -/
theorem replaceAll_comm {t₁ r₁ t₂ r₂ : List Char} (h₁ : t₁ ≠ []) (h₂ : t₂ ≠ []) (hr₁ : Apart t₂ r₁)
    (hr₂ : Apart t₁ r₂) (text : List Char) (hm : ¬Meet t₁ t₂ text) :
    replaceAll t₁ r₁ (replaceAll t₂ r₂ text) = replaceAll t₂ r₂ (replaceAll t₁ r₁ text) := by
  induction text using scan_induction_two h₁ h₂ with
  | nil => simp
  | first rest ih =>
    have hrest := ih fun h => hm (h.of_infix List.infix_append_right)
    rw [(clear_of_not_meet hm).replaceAll_append, replaceAll_append h₁, replaceAll_append h₁,
      (clear_of_overlaps hr₁.right).replaceAll_append, hrest]
  | second rest ih =>
    have hrest := ih fun h => hm (h.of_infix List.infix_append_right)
    rw [replaceAll_append h₂, (clear_of_overlaps hr₂.right).replaceAll_append,
      (clear_of_not_meet fun h => hm h.symm).replaceAll_append, replaceAll_append h₂, hrest]
  | pass c rest hp₁ hp₂ ih =>
    have hrest := ih fun h => hm (h.of_infix (List.infix_cons List.infix_rfl))
    -- Neither target begins here afterwards: it would have begun here before.
    have hn₁ : ¬t₁ <+: c :: replaceAll t₂ r₂ rest := by
      rw [← replaceAll_cons hp₂]
      exact fun h => hp₁ (prefix_of_prefix_replaceAll h₂ _ hr₂.left h)
    have hn₂ : ¬t₂ <+: c :: replaceAll t₁ r₁ rest := by
      rw [← replaceAll_cons hp₁]
      exact fun h => hp₂ (prefix_of_prefix_replaceAll h₁ _ hr₁.left h)
    rw [replaceAll_cons hp₂, replaceAll_cons hn₁, replaceAll_cons hp₁, replaceAll_cons hn₂, hrest]

end ClientMigration.Text
