import ClientMigration.Text.Utf8

/-! # Decoding is the inverse of encoding

Strict decoding accepts exactly the bytes that encode a text, and gives that text. Between the two stands the grammar
of single characters: each character is spelled by one sequence of bytes, and the decoder reads one such sequence
after the other. -/

namespace ClientMigration.Text

/-! ### Bytes of one character -/

theorem isContinuation_iff {b : UInt8} : isContinuation b = true ↔ 0x80 ≤ b.toNat ∧ b.toNat < 0xC0 := by
  simp [isContinuation, UInt8.lt_iff_toNat_lt, UInt8.le_iff_toNat_le]

theorem mayFollow_iff {b b₁ : UInt8} : mayFollow b b₁ = true ↔ (0x80 ≤ b₁.toNat ∧ b₁.toNat < 0xC0) ∧
    (b.toNat = 0xE0 → 0xA0 ≤ b₁.toNat) ∧ (b.toNat = 0xED → b₁.toNat < 0xA0) ∧
    (b.toNat = 0xF0 → 0x90 ≤ b₁.toNat) ∧ (b.toNat = 0xF4 → b₁.toNat < 0x90) := by
  simp only [mayFollow, Bool.and_eq_true, isContinuation_iff, Bool.or_eq_true, bne_iff_ne, ne_eq, decide_eq_true_eq,
    UInt8.lt_iff_toNat_lt, UInt8.le_iff_toNat_le, ← UInt8.toNat_inj, UInt8.reduceToNat, Decidable.imp_iff_not_or,
    and_assoc]

/-- The bytes spell a character of this code. -/
inductive Spells (n : Nat) : Bytes → Prop where
  | one {b : UInt8} : b.toNat < 0x80 → n = b.toNat → Spells n [b]
  | two {b b₁ : UInt8} : 0xC2 ≤ b.toNat → b.toNat < 0xE0 → isContinuation b₁ = true →
      n = b.toNat % 32 * 64 + low6 b₁ → Spells n [b, b₁]
  | three {b b₁ b₂ : UInt8} : 0xE0 ≤ b.toNat → b.toNat < 0xF0 → mayFollow b b₁ = true → isContinuation b₂ = true →
      n = b.toNat % 16 * 4096 + low6 b₁ * 64 + low6 b₂ → Spells n [b, b₁, b₂]
  | four {b b₁ b₂ b₃ : UInt8} : 0xF0 ≤ b.toNat → b.toNat < 0xF5 → mayFollow b b₁ = true → isContinuation b₂ = true →
      isContinuation b₃ = true → n = b.toNat % 8 * 262144 + low6 b₁ * 4096 + low6 b₂ * 64 + low6 b₃ →
      Spells n [b, b₁, b₂, b₃]

/-! ### Encodings -/

theorem toNat_continuation (m : Nat) : (UInt8.ofNat (m % 64 + 128)).toNat = m % 64 + 128 := by
  rw [UInt8.toNat_ofNat']
  omega

theorem isContinuation_continuation (m : Nat) : isContinuation (UInt8.ofNat (m % 64 + 128)) = true := by
  rw [isContinuation_iff, toNat_continuation]
  omega

theorem low6_continuation (m : Nat) : low6 (UInt8.ofNat (m % 64 + 128)) = m % 64 := by
  rw [low6, toNat_continuation]
  omega

/-- A character is spelled by its encoding. -/
theorem spells_utf8EncodeChar (c : Char) : Spells c.toNat (String.utf8EncodeChar c) := by
  have hvalid : c.val.toNat < 0xd800 ∨ 0xdfff < c.val.toNat ∧ c.val.toNat < 0x110000 := c.valid
  rw [← Char.toNat_val, String.utf8EncodeChar]
  generalize c.val.toNat = n at hvalid
  split
  · refine .one ?_ ?_ <;> rw [UInt8.toNat_ofNat'] <;> omega
  split
  · have hfirst : (UInt8.ofNat (n / 64 % 32 + 192)).toNat = n / 64 + 192 := by
      rw [UInt8.toNat_ofNat']
      omega
    refine .two ?_ ?_ (isContinuation_continuation n) ?_ <;> rw [hfirst]
    · omega
    · omega
    · rw [low6_continuation]
      omega
  split
  · have hfirst : (UInt8.ofNat (n / 4096 % 16 + 224)).toNat = n / 4096 + 224 := by
      rw [UInt8.toNat_ofNat']
      omega
    refine .three ?_ ?_ (mayFollow_iff.mpr ?_) (isContinuation_continuation n) ?_ <;> rw [hfirst]
    · omega
    · omega
    · rw [toNat_continuation]
      omega
    · rw [low6_continuation, low6_continuation]
      omega
  · have hfirst : (UInt8.ofNat (n / 262144 % 8 + 240)).toNat = n / 262144 + 240 := by
      rw [UInt8.toNat_ofNat']
      omega
    refine .four ?_ ?_ (mayFollow_iff.mpr ?_) (isContinuation_continuation _) (isContinuation_continuation n) ?_ <;>
      rw [hfirst]
    · omega
    · omega
    · rw [toNat_continuation]
      omega
    · rw [low6_continuation, low6_continuation, low6_continuation]
      omega

theorem toNat_val_ofNat {n : Nat} (h : n.isValidChar) : (Char.ofNat n).val.toNat = n := by
  rw [Char.ofNat, dif_pos h]
  rfl

theorem eq_ofNat_of_toNat {b : UInt8} {m : Nat} (h : b.toNat = m) : b = UInt8.ofNat m := by
  rw [← h, UInt8.ofNat_toNat]

/-- What spells a character is its encoding. -/
theorem Spells.eq_utf8EncodeChar {n : Nat} {bs : Bytes} (h : Spells n bs) :
    bs = String.utf8EncodeChar (Char.ofNat n) := by
  -- Each spelling keeps to the codes of its length, beside the surrogates.
  cases h with
  | one hb hn =>
    have hvalid : n.isValidChar := Or.inl (by omega)
    rw [String.utf8EncodeChar, toNat_val_ofNat hvalid, if_pos (by omega), hn, UInt8.ofNat_toNat]
  | @two b b₁ hb hb' h₁ hn =>
    rw [isContinuation_iff] at h₁
    rw [low6] at hn
    have hvalid : n.isValidChar := Or.inl (by omega)
    rw [String.utf8EncodeChar, toNat_val_ofNat hvalid, if_neg (by omega), if_pos (by omega),
      ← eq_ofNat_of_toNat (b := b) (by omega), ← eq_ofNat_of_toNat (b := b₁) (by omega)]
  | @three b b₁ b₂ hb hb' h₁ h₂ hn =>
    rw [mayFollow_iff] at h₁
    rw [isContinuation_iff] at h₂
    rw [low6, low6] at hn
    have hvalid : n.isValidChar := by
      unfold Nat.isValidChar
      omega
    rw [String.utf8EncodeChar, toNat_val_ofNat hvalid, if_neg (by omega), if_neg (by omega), if_pos (by omega),
      ← eq_ofNat_of_toNat (b := b) (by omega), ← eq_ofNat_of_toNat (b := b₁) (by omega),
      ← eq_ofNat_of_toNat (b := b₂) (by omega)]
  | @four b b₁ b₂ b₃ hb hb' h₁ h₂ h₃ hn =>
    rw [mayFollow_iff] at h₁
    rw [isContinuation_iff] at h₂ h₃
    rw [low6, low6, low6] at hn
    have hvalid : n.isValidChar := Or.inr (by omega)
    rw [String.utf8EncodeChar, toNat_val_ofNat hvalid, if_neg (by omega), if_neg (by omega), if_neg (by omega),
      ← eq_ofNat_of_toNat (b := b) (by omega), ← eq_ofNat_of_toNat (b := b₁) (by omega),
      ← eq_ofNat_of_toNat (b := b₂) (by omega), ← eq_ofNat_of_toNat (b := b₃) (by omega)]

/-! ### Reading one character -/

theorem decodeFrom_of_spells {n : Nat} {bs : Bytes} (h : Spells n bs) (p : Nat) (rest : Bytes) :
    decodeFrom p (bs ++ rest) = decodeFrom (p + bs.length) rest >>= fun cs => .ok (Char.ofNat n :: cs) := by
  cases h with
  | one hb hn =>
    subst hn
    rw [decodeFrom.eq_def]
    simp only [List.cons_append, List.nil_append, UInt8.lt_iff_toNat_lt, UInt8.reduceToNat]
    rw [if_pos hb]
    rfl
  | two hb hb' h₁ hn =>
    subst hn
    rw [decodeFrom.eq_def]
    simp only [List.cons_append, List.nil_append, UInt8.lt_iff_toNat_lt, UInt8.reduceToNat, h₁]
    rw [if_neg (by omega), if_neg (by omega), if_pos hb']
    rfl
  | three hb hb' h₁ h₂ hn =>
    subst hn
    rw [decodeFrom.eq_def]
    simp only [List.cons_append, List.nil_append, UInt8.lt_iff_toNat_lt, UInt8.reduceToNat, h₁, h₂]
    rw [if_neg (by omega), if_neg (by omega), if_neg (by omega), if_pos hb']
    rfl
  | four hb hb' h₁ h₂ h₃ hn =>
    subst hn
    rw [decodeFrom.eq_def]
    simp only [List.cons_append, List.nil_append, UInt8.lt_iff_toNat_lt, UInt8.reduceToNat, h₁, h₂, h₃]
    rw [if_neg (by omega), if_neg (by omega), if_neg (by omega), if_neg (by omega), if_pos hb']
    rfl

theorem bind_cons_eq_ok {r : Except DecodeError (List Char)} {c : Char} {cs : List Char}
    (h : (r >>= fun cs => .ok (c :: cs)) = .ok cs) : ∃ cs', r = .ok cs' ∧ cs = c :: cs' := by
  cases r with
  | error e => cases h
  | ok cs' => exact ⟨cs', rfl, (Except.ok.inj h).symm⟩

/-- What can be decoded is nothing, or begins with the spelling of a character. -/
theorem exists_spells_of_decodeFrom {p : Nat} {bytes : Bytes} {cs : List Char} :
    decodeFrom p bytes = .ok cs → bytes = [] ∧ cs = [] ∨ ∃ n bs rest cs', bytes = bs ++ rest ∧ Spells n bs ∧
      cs = Char.ofNat n :: cs' ∧ decodeFrom (p + bs.length) rest = .ok cs' := by
  fun_cases decodeFrom p bytes with
  | case1 =>
    rintro ⟨⟩
    exact Or.inl ⟨rfl, rfl⟩
  | case2 b rest hb =>
    intro h
    obtain ⟨cs', hrest, rfl⟩ := bind_cons_eq_ok h
    exact Or.inr ⟨_, [b], rest, cs', rfl, .one (UInt8.lt_iff_toNat_lt.mp hb) rfl, rfl, hrest⟩
  | case6 b _ hb hb' b₁ rest h₁ =>
    intro h
    obtain ⟨cs', hrest, rfl⟩ := bind_cons_eq_ok h
    rw [UInt8.lt_iff_toNat_lt] at hb hb'
    exact Or.inr ⟨_, [b, b₁], rest, cs', rfl, .two (Nat.not_lt.mp hb) hb' (by simpa using h₁) rfl, rfl, hrest⟩
  | case12 b _ _ hb hb' b₁ b₂ rest h₁ h₂ =>
    intro h
    obtain ⟨cs', hrest, rfl⟩ := bind_cons_eq_ok h
    rw [UInt8.lt_iff_toNat_lt] at hb hb'
    exact Or.inr ⟨_, [b, b₁, b₂], rest, cs', rfl,
      .three (Nat.not_lt.mp hb) hb' (by simpa using h₁) (by simpa using h₂) rfl, rfl, hrest⟩
  | case22 b _ _ _ hb hb' b₁ b₂ b₃ rest h₁ h₂ h₃ =>
    intro h
    obtain ⟨cs', hrest, rfl⟩ := bind_cons_eq_ok h
    rw [UInt8.lt_iff_toNat_lt] at hb hb'
    exact Or.inr ⟨_, [b, b₁, b₂, b₃], rest, cs', rfl,
      .four (Nat.not_lt.mp hb) hb' (by simpa using h₁) (by simpa using h₂) (by simpa using h₃) rfl, rfl, hrest⟩
  | _ =>
    intro h
    cases h

/-! ### Reading a text -/

theorem decodeFrom_flatMap : ∀ (cs : List Char) (p : Nat), decodeFrom p (cs.flatMap String.utf8EncodeChar) = .ok cs
  | [], _ => rfl
  | c :: cs, p => by
    rw [List.flatMap_cons, decodeFrom_of_spells (spells_utf8EncodeChar c), decodeFrom_flatMap cs, Char.ofNat_toNat]
    rfl

theorem eq_flatMap_of_decodeFrom : ∀ {cs : List Char} {p : Nat} {bytes : Bytes}, decodeFrom p bytes = .ok cs →
    bytes = cs.flatMap String.utf8EncodeChar
  | [], p, bytes, h => by
    rcases exists_spells_of_decodeFrom h with ⟨rfl, -⟩ | ⟨n, bs, rest, cs', -, -, hcs, -⟩
    · rfl
    · cases hcs
  | c :: cs, p, bytes, h => by
    rcases exists_spells_of_decodeFrom h with ⟨-, hcs⟩ | ⟨n, bs, rest, cs', rfl, hbs, hcs, hrest⟩
    · cases hcs
    · cases hcs
      rw [List.flatMap_cons, ← hbs.eq_utf8EncodeChar, ← eq_flatMap_of_decodeFrom hrest]

/-- Bytes are decoded exactly if they encode a text, and to that text. -/
theorem decode_eq_ok_iff {bytes : Bytes} {s : String} : decode bytes = .ok s ↔ bytes = encode s := by
  constructor
  · intro h
    cases hcs : decodeFrom 0 bytes with
    | error e =>
      rw [decode, hcs] at h
      cases h
    | ok cs =>
      rw [decode, hcs] at h
      cases h
      rw [encode, String.toList_ofList, ← eq_flatMap_of_decodeFrom hcs]
  · rintro rfl
    rw [decode, encode, decodeFrom_flatMap]
    exact congrArg Except.ok String.ofList_toList

end ClientMigration.Text
