import PackageAudit.Proofs.Text.ByteOrder

/-!
# Reading bytes that were written

The bytes of a text are read as that text (`decode?_encode`, `decodeLossy_encode`): each character is read from its own
bytes, whatever follows them (`units_encodeChar`). Of these the first one says how many follow, and each of the others
adds six bits (`units_lead`, `units_more`, `units_last`).
-/

namespace PackageAudit.Text.Utf8

variable {b v : Nat} {p : Pending} {rest : List UInt8}

/-! ## One byte -/

theorem units_cons (pending : Option Pending) (hb : b < 256) : units pending (UInt8.ofNat b :: rest)
    = (step pending b).1 ++ units (step pending b).2 rest := by
  have value : (UInt8.ofNat b).toNat = b := by simp [Nat.mod_eq_of_lt hb]
  cases pending <;> rw [units, value]

theorem units_ascii (hb : b < 0x80) : units none (UInt8.ofNat b :: rest) = some (Char.ofNat b) :: units none rest := by
  rw [units_cons none (by omega), step, first, if_pos hb]
  rfl

theorem units_lead (hb : 0x80 ≤ b) (hb' : b < 256) (h : lead b = some p) :
    units none (UInt8.ofNat b :: rest) = units (some p) rest := by
  rw [units_cons none hb', step, first, if_neg (by omega), h]
  rfl

theorem units_more (hl : p.low ≤ b) (hh : b ≤ p.high) (hb : b < 256) (ho : 1 < p.owed) :
    units (some p) (UInt8.ofNat b :: rest) = units (some ⟨p.owed - 1, 0x80, 0xBF, p.value * 64 + (b - 0x80)⟩) rest := by
  rw [units_cons _ hb, step, if_pos ⟨hl, hh⟩]
  simp only [if_neg (Nat.not_le.mpr ho)]
  rfl

theorem units_last (hl : p.low ≤ b) (hh : b ≤ p.high) (hb : b < 256) (ho : p.owed ≤ 1) :
    units (some p) (UInt8.ofNat b :: rest) = some (Char.ofNat (p.value * 64 + (b - 0x80))) :: units none rest := by
  rw [units_cons _ hb, step, if_pos ⟨hl, hh⟩]
  simp only [if_pos ho]
  rfl

/-! ## The first byte of a character -/

theorem lead_two (hl : 0x80 ≤ v) (hh : v ≤ 0x7FF) : lead (v / 64 % 32 + 192) = some ⟨1, 0x80, 0xBF, v / 64⟩ := by
  have bits : v / 64 % 32 + 192 - 0xC0 = v / 64 := by omega
  rw [lead, if_pos (by omega), bits]

/-- The first of three bytes restricts the second one, which keeps to it. -/
theorem lead_three (hl : 0x800 ≤ v) (hh : v ≤ 0xFFFF) (valid : v < 0xD800 ∨ 0xDFFF < v) : ∃ low high,
    lead (v / 4096 % 16 + 224) = some ⟨2, low, high, v / 4096⟩
      ∧ low ≤ v / 64 % 64 + 128 ∧ v / 64 % 64 + 128 ≤ high := by
  have bits : v / 4096 % 16 + 224 - 0xE0 = v / 4096 := by omega
  unfold lead
  split_ifs with h₁ h₂ h₃ h₄
  · omega
  · have none_set : 0 = v / 4096 := by omega
    exact ⟨0xA0, 0xBF, by rw [← none_set], by omega, by omega⟩
  · have surrogate : 0xD = v / 4096 := by omega
    exact ⟨0x80, 0x9F, by rw [← surrogate], by omega, by omega⟩
  · exact ⟨0x80, 0xBF, by rw [bits], by omega, by omega⟩
  all_goals omega

/-- The first of four bytes restricts the second one, which keeps to it. -/
theorem lead_four (hl : 0x10000 ≤ v) (hh : v < 0x110000) : ∃ low high,
    lead (v / 262144 % 8 + 240) = some ⟨3, low, high, v / 262144⟩ ∧ low ≤ v / 4096 % 64 + 128
      ∧ v / 4096 % 64 + 128 ≤ high := by
  have bits : v / 262144 % 8 + 240 - 0xF0 = v / 262144 := by omega
  unfold lead
  split_ifs with h₁ h₂ h₃ h₄ h₅ h₆ h₇
  · omega
  · omega
  · omega
  · omega
  · have none_set : 0 = v / 262144 := by omega
    exact ⟨0x90, 0xBF, by rw [← none_set], by omega, by omega⟩
  · exact ⟨0x80, 0xBF, by rw [bits], by omega, by omega⟩
  · have last_plane : 4 = v / 262144 := by omega
    exact ⟨0x80, 0x8F, by rw [← last_plane], by omega, by omega⟩
  · omega

/-! ## Texts -/

/-- **A character is read from its bytes**, whatever follows them. -/
theorem units_encodeChar (c : Char) (rest : List UInt8) :
    units none (String.utf8EncodeChar c ++ rest) = some c :: units none rest := by
  have bound := toNat_val_lt c
  have valid : c.val.toNat < 0xD800 ∨ 0xDFFF < c.val.toNat := c.valid.imp_right And.left
  have own {n : Nat} (h : n = c.val.toNat) : Char.ofNat n = c := h ▸ Char.ofNat_toNat c
  unfold String.utf8EncodeChar
  generalize c.val.toNat = v at *
  simp only
  split_ifs with h₁ h₂ h₃
  · rw [List.singleton_append, units_ascii (by omega), own rfl]
  · rw [List.cons_append, List.singleton_append, units_lead (by omega) (by omega) (lead_two (by omega) h₂),
      units_last (by simp only; omega) (by simp only; omega) (by omega) (Nat.le_refl 1), own (by simp only; omega)]
  · obtain ⟨low, high, hlead, hlow, hhigh⟩ := lead_three (by omega) h₃ valid
    rw [List.cons_append, List.cons_append, List.singleton_append, units_lead (by omega) (by omega) hlead,
      units_more hlow hhigh (by omega) (by simp only; omega),
      units_last (by simp only; omega) (by simp only; omega) (by omega) (Nat.le_refl 1), own (by simp only; omega)]
  · obtain ⟨low, high, hlead, hlow, hhigh⟩ := lead_four (by omega) bound
    rw [List.cons_append, List.cons_append, List.cons_append, List.singleton_append,
      units_lead (by omega) (by omega) hlead, units_more hlow hhigh (by omega) (by simp only; omega),
      units_more (by simp only; omega) (by simp only; omega) (by omega) (by simp only; omega),
      units_last (by simp only; omega) (by simp only; omega) (by omega) (Nat.le_refl 1), own (by simp only; omega)]

theorem units_encode (text : List Char) : units none (encode text) = text.map some := by
  induction text with
  | nil => rfl
  | cons c text ih => rw [encode, List.flatMap_cons, units_encodeChar, List.map_cons, ← ih, encode]

/-- **What was written is read back.** -/
theorem decode?_encode (text : List Char) : decode? (encode text) = some text := by
  rw [decode?, units_encode]
  induction text with
  | nil => rfl
  | cons c text ih => rw [List.map_cons, List.mapM_cons, ih]; rfl

theorem decodeLossy_encode (text : List Char) : decodeLossy (encode text) = text := by
  rw [decodeLossy, units_encode, List.map_map]
  exact List.map_id text

end PackageAudit.Text.Utf8
