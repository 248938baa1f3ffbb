import Mathlib.Data.List.Basic
import Mathlib.Tactic.SplitIfs
import PackageAudit.Text.Utf8

/-!
# The order of texts is the order of their bytes

Texts are compared character by character, and files and reports know them as bytes. Both orders agree
(`lt_iff_encode_lt`), because the bytes of a smaller character come first whatever follows them
(`encodeChar_append_lt`).
-/

namespace PackageAudit.Text.Utf8

/-! ## One character -/

theorem ofNat_lt_ofNat_iff {m n : Nat} (hm : m < 256) (hn : n < 256) : UInt8.ofNat m < UInt8.ofNat n ↔ m < n := by
  simp [UInt8.lt_iff_toNat_lt, Nat.mod_eq_of_lt hm, Nat.mod_eq_of_lt hn]

theorem ofNat_eq_ofNat_iff {m n : Nat} (hm : m < 256) (hn : n < 256) : UInt8.ofNat m = UInt8.ofNat n ↔ m = n := by
  simp [← UInt8.toNat_inj, Nat.mod_eq_of_lt hm, Nat.mod_eq_of_lt hn]

theorem toNat_val_lt (c : Char) : c.val.toNat < 0x110000 := by
  rcases c.valid with h | ⟨-, h⟩
  · exact Nat.lt_trans h (by decide)
  · exact h

/-- The bytes of a smaller character come first, whatever follows them. -/
theorem encodeChar_append_lt {c d : Char} (h : c < d) (r s : List UInt8) :
    String.utf8EncodeChar c ++ r < String.utf8EncodeChar d ++ s := by
  have hlt : c.val.toNat < d.val.toNat := UInt32.lt_iff_toNat_lt.mp h
  have hbound := toNat_val_lt d
  have two (k : Nat) : k / 4096 = k / 64 / 64 := by omega
  have three (k : Nat) : k / 262144 = k / 64 / 64 / 64 := by omega
  unfold String.utf8EncodeChar
  generalize c.val.toNat = m at *
  generalize d.val.toNat = n at *
  simp only
  -- sequences of different lengths differ in their first byte, those of one length in the first digit that differs
  split_ifs <;>
    simp (disch := omega) only [List.cons_append, List.nil_append, List.cons_lt_cons_iff, ofNat_lt_ofNat_iff,
      ofNat_eq_ofNat_iff, two, three] <;>
    omega

/-! ## Texts -/

theorem encode_lt_encode {a b : List Char} (h : a < b) : encode a < encode b := by
  induction h with
  | @nil d b =>
    obtain ⟨x, xs, hx⟩ := List.exists_cons_of_ne_nil (String.utf8EncodeChar_ne_nil (c := d))
    show [] < String.utf8EncodeChar d ++ encode b
    rw [hx]
    exact List.nil_lt_cons _ _
  | cons _ ih => exact List.append_left_lt ih
  | rel h => exact encodeChar_append_lt h _ _

/-- **Texts are in the order of their bytes.** -/
theorem lt_iff_encode_lt {a b : String} : a < b ↔ encode a.toList < encode b.toList := by
  refine ⟨encode_lt_encode, fun h => ?_⟩
  by_contra hle
  rcases List.le_iff_lt_or_eq.mp (List.not_lt.mp hle) with hlt | heq
  · exact List.lt_asymm h (encode_lt_encode hlt)
  · exact List.lt_irrefl _ (heq ▸ h)

end PackageAudit.Text.Utf8
