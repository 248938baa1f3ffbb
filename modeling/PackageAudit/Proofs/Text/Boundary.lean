import Mathlib.Data.List.Basic
import PackageAudit.Proofs.Text.Utf8

/-!
# Characters among bytes

The bytes of a text say where its characters begin: at the bytes that can be the first one of a character
(`exists_of_encode_eq_cons`). So an occurrence of the bytes of a text among the bytes of another one is an occurrence
of the text (`exists_of_encode_eq_append`), and a byte below 0x80 stands for itself wherever it is
(`toNat_of_mem_encodeChar`).
-/

namespace PackageAudit.Text.Utf8

variable {text needle : List Char} {front back : List UInt8} {b : UInt8}

theorem encode_append (first second : List Char) : encode (first ++ second) = encode first ++ encode second :=
  List.flatMap_append

theorem encode_cons (c : Char) (rest : List Char) : encode (c :: rest) = String.utf8EncodeChar c ++ encode rest :=
  List.flatMap_cons

/-- The first byte of a character is none of its other bytes. -/
theorem eq_nil_of_encodeChar_eq {c : Char} (first : b.IsUTF8FirstByte)
    (h : String.utf8EncodeChar c = front ++ b :: back) : front = [] := by
  have inside : front.length < (String.utf8EncodeChar c).length := by
    rw [h, List.length_append, List.length_cons]
    omega
  have here : (String.utf8EncodeChar c)[front.length] = b := by
    simp only [h]
    rw [List.getElem_append_right (Nat.le_refl _)]
    simp
  rw [← here, UInt8.isUTF8FirstByte_getElem_utf8EncodeChar] at first
  exact List.length_eq_zero_iff.mp first

/-- The bytes of a text that is not empty begin with the first byte of a character. -/
theorem exists_encode_eq_cons (ne_nil : text ≠ []) : ∃ b back, encode text = b :: back ∧ b.IsUTF8FirstByte := by
  obtain ⟨c, rest, rfl⟩ := List.exists_cons_of_ne_nil ne_nil
  obtain ⟨b, back, hb⟩ := List.exists_cons_of_ne_nil (String.utf8EncodeChar_ne_nil (c := c))
  have first := UInt8.isUTF8FirstByte_getElem_zero_utf8EncodeChar (c := c)
  simp only [hb, List.getElem_cons_zero] at first
  exact ⟨b, back ++ encode rest, by rw [encode_cons, hb, List.cons_append], first⟩

/-- **A character begins** wherever a byte stands that can be the first one. -/
theorem exists_of_encode_eq_cons (first : b.IsUTF8FirstByte) (h : encode text = front ++ b :: back) :
    ∃ before after, text = before ++ after ∧ front = encode before ∧ b :: back = encode after := by
  induction text generalizing front with
  | nil => exact absurd h (by simp [encode])
  | cons c rest ih =>
    rw [encode_cons] at h
    rcases List.append_eq_append_iff.mp h with ⟨more, rfl, hrest⟩ | ⟨shared, hc, hback⟩
    · obtain ⟨before, after, rfl, rfl, hafter⟩ := ih hrest
      exact ⟨c :: before, after, rfl, (encode_cons c before).symm, hafter⟩
    · cases shared with
      | nil =>
        rw [List.append_nil] at hc
        exact ⟨[c], rest, rfl, by rw [← hc, encode_cons]; exact (List.append_nil _).symm, hback⟩
      | cons d shared =>
        obtain ⟨rfl, -⟩ := List.cons.inj hback
        obtain rfl := eq_nil_of_encodeChar_eq first hc
        exact ⟨[], c :: rest, rfl, rfl, by rw [encode_cons, hc]; exact hback⟩

/-- The units of the bytes of a text are its characters, whatever follows them. -/
theorem units_encode_append (text : List Char) (rest : List UInt8) :
    units none (encode text ++ rest) = text.map some ++ units none rest := by
  induction text with
  | nil => rfl
  | cons c text ih => rw [encode_cons, List.append_assoc, units_encodeChar, ih, List.map_cons, List.cons_append]

/-- A text whose bytes begin with those of another one begins with it. -/
theorem exists_of_encode_eq_encode_append (h : encode text = encode needle ++ back) :
    ∃ after, text = needle ++ after ∧ back = encode after := by
  have read : text.map some = needle.map some ++ units none back := by
    rw [← units_encode, h, units_encode_append]
  obtain ⟨before, after, rfl, hbefore, -⟩ := List.map_eq_append_iff.mp read
  obtain rfl := List.map_injective_iff.mpr (fun _ _ => Option.some.inj) hbefore
  rw [encode_append] at h
  exact ⟨after, rfl, (List.append_cancel_left h).symm⟩

/-- **An occurrence among bytes** is one among characters. -/
theorem exists_of_encode_eq_append (ne_nil : needle ≠ []) (h : encode text = front ++ (encode needle ++ back)) :
    ∃ before after, text = before ++ (needle ++ after) ∧ front = encode before ∧ back = encode after := by
  obtain ⟨b, more, hneedle, first⟩ := exists_encode_eq_cons ne_nil
  rw [hneedle, List.cons_append] at h
  obtain ⟨before, rest, rfl, hfront, hrest⟩ := exists_of_encode_eq_cons first h
  rw [← List.cons_append, ← hneedle] at hrest
  obtain ⟨after, rfl, hback⟩ := exists_of_encode_eq_encode_append hrest.symm
  exact ⟨before, after, rfl, hfront, hback⟩

/-- A byte of a character is the character itself or lies above those of ASCII. -/
theorem toNat_of_mem_encodeChar {c : Char} (h : b ∈ String.utf8EncodeChar c) :
    b.toNat = c.val.toNat ∨ 0x80 ≤ b.toNat := by
  have bound := toNat_val_lt c
  unfold String.utf8EncodeChar at h
  generalize c.val.toNat = v at *
  simp only at h
  split_ifs at h
  all_goals
    simp only [List.mem_cons, List.not_mem_nil, or_false] at h
    rcases h with rfl | rfl | rfl | rfl
  all_goals
    rw [UInt8.toNat_ofNat']
    omega

end PackageAudit.Text.Utf8
