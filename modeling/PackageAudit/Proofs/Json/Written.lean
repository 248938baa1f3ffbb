import PackageAudit.Json.Scan
import PackageAudit.Json.Value

/-!
# Written JSON

How values are written. A natural number is written with its digits alone, and is read as an integer if it fits 64 bits
(`readNumber_toString`). A value of natural numbers (`Value.Fits`) begins with a character of its own
(`Value.Fits.begun`), and what follows it is a comma or a new line (`Ended`).
-/

namespace PackageAudit.Json

/-! ## Numbers -/

/-- What may follow a written value: nothing, a comma or a new line. -/
def Ended (rest : List Char) : Prop :=
  ∀ c ∈ rest.head?, c = ',' ∨ c = '\n'

theorem Ended.cases {rest : List Char} (h : Ended rest) :
    rest = [] ∨ (∃ t, rest = ',' :: t) ∨ ∃ t, rest = '\n' :: t := by
  match rest with
  | [] => exact .inl rfl
  | c :: t =>
    rcases h c rfl with rfl | rfl
    · exact .inr (.inl ⟨t, rfl⟩)
    · exact .inr (.inr ⟨t, rfl⟩)

/-- A digit is the first character of a number greater than zero only if it is not zero. -/
theorem head?_toDigits_ne {n : Nat} (h : 0 < n) : (Nat.toDigits 10 n).head? ≠ some '0' := by
  induction n using Nat.strongRecOn with
  | ind n ih =>
    rw [Nat.toDigits_eq_if (by decide)]
    split
    next small =>
      have : ∀ d < 10, 0 < d → [Nat.digitChar d].head? ≠ some '0' := by decide
      exact this n small h
    next large =>
      have tail := ih (n / 10) (by omega) (by omega)
      obtain ⟨d, ds, hd⟩ := List.exists_cons_of_ne_nil (Nat.toDigits_ne_nil (n := n / 10) (b := 10))
      rw [hd] at tail ⊢
      exact tail

theorem toList_toString (n : Nat) : (toString n).toList = Nat.toDigits 10 n := by
  rw [Nat.toString_eq_ofList_toDigits, String.toList_ofList]

/-- A number is written with digits, of which the first is zero only if it is the only one. -/
theorem exists_digits (n : Nat) : ∃ d ds, (toString n).toList = d :: ds ∧ (∀ c ∈ d :: ds, c.isDigit = true)
    ∧ (d = '0' → n = 0 ∧ ds = []) := by
  obtain ⟨d, ds, hd⟩ := List.exists_cons_of_ne_nil (Nat.toDigits_ne_nil (n := n) (b := 10))
  refine ⟨d, ds, (toList_toString n).trans hd, fun c hc => ?_, ?_⟩
  · exact Nat.isDigit_of_mem_toDigits (by decide) (by decide) (hd ▸ hc)
  · rintro rfl
    rcases Nat.eq_zero_or_pos n with rfl | hn
    · exact ⟨rfl, (List.cons.inj hd).2.symm⟩
    · exact absurd (by rw [hd]; rfl) (head?_toDigits_ne hn)

theorem le_ofDigitChars (digits : List Char) (value : Nat) : value ≤ Nat.ofDigitChars 10 digits value := by
  rw [Nat.ofDigitChars_eq_ofDigitChars_zero]
  exact Nat.le_add_right_of_le (Nat.le_mul_of_pos_left _ (Nat.pow_pos (by decide)))

/-- Digits are taken as long as the number fits. -/
theorem takeDigits_append {digits rest : List Char} (stop : rest.head?.any Char.isDigit = false) :
    ∀ {value : Nat} (count : Nat), (∀ c ∈ digits, c.isDigit = true) → Nat.ofDigitChars 10 digits value ≤ word →
    takeDigits value count (digits ++ rest) = (Nat.ofDigitChars 10 digits value, count + digits.length, rest) := by
  induction digits with
  | nil =>
    intro value count _ _
    cases rest with
    | nil => rfl
    | cons c rest =>
      have : ¬c.isDigit = true := by simpa using stop
      simp [takeDigits, this]
  | cons c digits ih =>
    intro value count hd fits
    have next : value * 10 + digitValue c = 10 * value + (c.toNat - '0'.toNat) := by rw [digitValue]; omega
    rw [Nat.ofDigitChars_cons, ← next] at fits
    have fitsNow : value * 10 + digitValue c ≤ word := Nat.le_trans (le_ofDigitChars digits _) fits
    rw [List.cons_append, takeDigits, if_pos ⟨hd c List.mem_cons_self, fitsNow⟩,
      ih (count + 1) (fun d h => hd d (List.mem_cons_of_mem _ h)) fits, Nat.ofDigitChars_cons, ← next]
    simp only [List.length_cons]
    congr 2
    omega

/-- **A written number is read as an integer**, if it fits 64 bits. -/
theorem readNumber_toString {n : Nat} (fits : n ≤ word) {rest : List Char} (h : Ended rest) :
    readNumber ((toString n).toList ++ rest) = .ok (.integer n, rest) := by
  obtain ⟨d, ds, hn, digits, leading⟩ := exists_digits n
  have first : d.isDigit = true := digits d List.mem_cons_self
  have value : Nat.ofDigitChars 10 ds (digitValue d) = n := by
    have := Nat.ofDigitChars_ten_toDigits (n := n)
    rwa [← toList_toString, hn, Nat.ofDigitChars_cons, Nat.mul_zero, Nat.zero_add] at this
  have stop : rest.head?.any Char.isDigit = false ∧ spanDigits rest = ([], rest) := by
    rcases h.cases with rfl | ⟨t, rfl⟩ | ⟨t, rfl⟩ <;> exact ⟨rfl, rfl⟩
  have whole : readAfterWhole false n rest = .ok (.integer n, rest) := by
    rcases h.cases with rfl | ⟨t, rfl⟩ | ⟨t, rfl⟩ <;> rfl
  have taken := takeDigits_append stop.1 0 (fun c hc => digits c (List.mem_cons_of_mem _ hc)) (value.symm ▸ fits)
  rw [hn, List.cons_append]
  unfold readNumber
  split
  next unsigned => cases unsigned; exact absurd first (by decide)
  next =>
    unfold readUnsigned
    split
    next none => cases none
    next zero =>
      cases zero
      obtain ⟨rfl, rfl⟩ := leading rfl
      rw [List.nil_append, stop.1]
      exact whole
    next c tail _ same =>
      cases same
      rw [if_pos first, taken]
      simp only [stop.2, value]
      exact whole

/-! ## Values -/

/-- Values with natural numbers whose brackets are nested to a depth at most. -/
inductive Value.Fits : Nat → Value → Prop where
  | null {levels : Nat} : Fits levels .null
  | bool {levels : Nat} (b : Bool) : Fits levels (.bool b)
  | number {levels : Nat} (n : Nat) : Fits levels (.number (toString n).toList)
  | string {levels : Nat} (text : List Char) : Fits levels (.string text)
  | array {levels : Nat} {items : List Value} (h : ∀ item ∈ items, Fits levels item) : Fits (levels + 1) (.array items)
  | object {levels : Nat} {members : List (List Char × Value)} (h : ∀ member ∈ members, Fits levels member.2) :
    Fits (levels + 1) (.object members)

theorem quote_append (text rest : List Char) :
    quote text ++ rest = '"' :: (text.flatMap escapeChar ++ '"' :: rest) := by
  simp [quote]

section Layout

variable (depth : Nat) (rest : List Char)

theorem prettyItems_cons (item : Value) (items : List Value) :
    Value.prettyItems depth (item :: items) ++ rest
      = ',' :: (newLine depth ++ (item.prettyAt depth ++ (Value.prettyItems depth items ++ rest))) := by
  simp [Value.prettyItems]

theorem prettyMembers_cons (key : List Char) (v : Value) (members : List (List Char × Value)) :
    Value.prettyMembers depth ((key, v) :: members) ++ rest
      = ',' :: (newLine depth ++ (quote key
        ++ (':' :: ' ' :: (v.prettyAt depth ++ (Value.prettyMembers depth members ++ rest))))) := by
  simp [Value.prettyMembers]

/-- The first item of an array stands on a line of its own, as does the bracket behind the last. -/
theorem prettyAt_array (item : Value) (items : List Value) :
    (Value.array (item :: items)).prettyAt depth ++ rest
      = '[' :: (newLine (depth + 1) ++ (item.prettyAt (depth + 1)
        ++ (Value.prettyItems (depth + 1) items ++ (newLine depth ++ ']' :: rest)))) := by
  simp [Value.prettyAt]

/-- The first member of an object stands on a line of its own, as does the brace behind the last. -/
theorem prettyAt_object (key : List Char) (v : Value) (members : List (List Char × Value)) :
    (Value.object ((key, v) :: members)).prettyAt depth ++ rest
      = '\x7b' :: (newLine (depth + 1) ++ (quote key ++ (':' :: ' ' :: (v.prettyAt (depth + 1)
        ++ (Value.prettyMembers (depth + 1) members ++ (newLine depth ++ '\x7d' :: rest)))))) := by
  simp [Value.prettyAt]

theorem length_le_prettyItems : ∀ items : List Value, items.length ≤ (Value.prettyItems depth items).length
  | [] => Nat.le_refl 0
  | item :: items => by
    have := length_le_prettyItems items
    simp only [Value.prettyItems, List.length_append, List.length_cons]
    omega

theorem length_le_prettyMembers : ∀ members : List (List Char × Value),
    members.length ≤ (Value.prettyMembers depth members).length
  | [] => Nat.le_refl 0
  | (key, v) :: members => by
    have := length_le_prettyMembers members
    simp only [Value.prettyMembers, List.length_append, List.length_cons]
    omega

variable {rest}

theorem ended_prettyItems (items : List Value) (h : Ended rest) : Ended (Value.prettyItems depth items ++ rest) := by
  cases items with
  | nil => exact h
  | cons _ _ => exact fun _ hc => .inl (Option.some.inj hc).symm

/-- What follows a member is a comma, or what follows the last one. -/
theorem ended_prettyMembers (members : List (List Char × Value)) (h : Ended rest) :
    Ended (Value.prettyMembers depth members ++ rest) := by
  cases members with
  | nil => exact h
  | cons _ _ => exact fun _ hc => .inl (Option.some.inj hc).symm

theorem ended_newLine (text : List Char) : Ended (newLine depth ++ text) :=
  fun _ hc => .inr (Option.some.inj hc).symm

theorem ended_nil : Ended [] :=
  fun _ hc => by cases hc

end Layout

/-! ## Where a value begins -/

/-- Whether a text begins as a value does: not with a blank, a comma or a closing bracket. -/
def Begun (text : List Char) : Prop :=
  ∃ c rest, text = c :: rest ∧ isSpace c = false ∧ c ≠ ',' ∧ c ≠ ']' ∧ c ≠ '\x7d'

theorem Begun.append {text : List Char} (h : Begun text) (rest : List Char) : Begun (text ++ rest) := by
  obtain ⟨c, tail, rfl, hc⟩ := h
  exact ⟨c, tail ++ rest, rfl, hc⟩

theorem Begun.skipSpace {text : List Char} (h : Begun text) : Json.skipSpace text = text := by
  obtain ⟨c, rest, rfl, hc, -⟩ := h
  exact List.dropWhile_cons_of_neg (by simp [hc])

theorem begun_digit {d : Char} (h : d.isDigit = true) (tail : List Char) : Begun (d :: tail) := by
  refine ⟨d, tail, rfl, ?_, ?_, ?_, ?_⟩
  · rw [← Bool.not_eq_true]
    intro blank
    have : d = ' ' ∨ d = '\n' ∨ d = '\t' ∨ d = '\r' := by simpa [isSpace, or_assoc] using blank
    rcases this with rfl | rfl | rfl | rfl <;> exact absurd h (by decide)
  all_goals rintro rfl; exact absurd h (by decide)

theorem begun_toString (n : Nat) : Begun (toString n).toList := by
  obtain ⟨d, ds, hn, digits, -⟩ := exists_digits n
  exact hn ▸ begun_digit (digits d List.mem_cons_self) ds

theorem Value.Fits.begun {levels : Nat} {v : Value} (h : v.Fits levels) (depth : Nat) : Begun (v.prettyAt depth) := by
  cases h with
  | null => exact ⟨'n', _, rfl, by decide, by decide, by decide, by decide⟩
  | bool b => cases b <;> exact ⟨_, _, rfl, by decide, by decide, by decide, by decide⟩
  | number n => exact begun_toString n
  | string text => exact ⟨'"', _, rfl, by decide, by decide, by decide, by decide⟩
  | @array _ items _ => cases items <;> exact ⟨'[', _, rfl, by decide, by decide, by decide, by decide⟩
  | @object _ members _ => cases members <;> exact ⟨'\x7b', _, rfl, by decide, by decide, by decide, by decide⟩

end PackageAudit.Json
