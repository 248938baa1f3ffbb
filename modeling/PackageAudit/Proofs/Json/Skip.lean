import PackageAudit.Proofs.Json.Written

/-!
# Passing over values

A value that nobody asks for is passed over without being read, with the brackets that are open on a stack: from a value
on (`Skips`), and from behind a value or an opening bracket on (`SkipsOn`).
-/

namespace PackageAudit.Json

/-- Goes on behind a value, or behind an opening bracket if `more` does not hold. -/
def skipOn (fuel : Nat) (more : Bool) (opened : List Bracket) (text : List Char) : Except Fault (List Char) := do
  match ← skipClosing more opened text with
  | ([], rest) => .ok rest
  | (.square :: outer, rest) => skipOpen fuel (.square :: outer) rest
  | (.curly :: outer, rest) => skipOpen fuel (.curly :: outer) (← skipKey rest)

/-- From a value on, the text is passed over up to its rest. -/
def Skips (opened : List Bracket) (text rest : List Char) : Prop :=
  ∀ fuel, text.length < fuel → skipOpen fuel opened text = .ok rest

/-- From behind a value or an opening bracket on, the text is passed over up to its rest. -/
def SkipsOn (more : Bool) (opened : List Bracket) (text rest : List Char) : Prop :=
  ∀ fuel, text.length < fuel → skipOn fuel more opened text = .ok rest

variable {opened : List Bracket} {text rest final : List Char}

theorem skips_scalar (h : skipPiece text = .ok (.scalar rest)) (hlen : rest.length < text.length)
    (next : SkipsOn true opened rest final) : Skips opened text final := by
  intro fuel hf
  obtain ⟨fuel, rfl⟩ : ∃ n, fuel = n + 1 := ⟨fuel - 1, by omega⟩
  rw [skipOpen, h]
  exact next fuel (by omega)

theorem skips_opening {bracket : Bracket} (h : skipPiece text = .ok (.opening bracket rest))
    (hlen : rest.length < text.length) (next : SkipsOn false (bracket :: opened) rest final) :
    Skips opened text final := by
  intro fuel hf
  obtain ⟨fuel, rfl⟩ : ∃ n, fuel = n + 1 := ⟨fuel - 1, by omega⟩
  rw [skipOpen, h]
  exact next fuel (by omega)

theorem skips_blanks {text' : List Char} (h : skipSpace text' = skipSpace text) (hlen : text.length ≤ text'.length)
    (next : Skips opened text final) : Skips opened text' final := by
  intro fuel hf
  have same := next fuel (by omega)
  obtain ⟨fuel, rfl⟩ : ∃ n, fuel = n + 1 := ⟨fuel - 1, by omega⟩
  have piece : skipPiece text' = skipPiece text := by unfold skipPiece; rw [h]
  rw [skipOpen] at same ⊢
  rwa [piece]

theorem skipsOn_close {more : Bool} (bracket : Bracket) (next : SkipsOn true opened rest final) :
    SkipsOn more (bracket :: opened) (bracket.close :: rest) final := by
  intro fuel hf
  have closed : skipClosing more (bracket :: opened) (bracket.close :: rest) = skipClosing true opened rest := by
    cases bracket <;> simp [skipClosing, skipSpace, isSpace, Bracket.close]
  rw [skipOn, closed]
  exact next fuel (by simp at hf; omega)

theorem skipClosing_begun (h : Begun text) (bracket : Bracket) :
    skipClosing false (bracket :: opened) text = .ok (bracket :: opened, text) := by
  have blanks := h.skipSpace
  obtain ⟨c, rest, rfl, -, -, square, curly⟩ := h
  have open_ : c ≠ bracket.close := by cases bracket <;> assumption
  rw [skipClosing, blanks]
  simp [open_]

theorem skipClosing_comma (bracket : Bracket) (text : List Char) :
    skipClosing true (bracket :: opened) (',' :: text) = .ok (bracket :: opened, text) := by
  simp [skipClosing, skipSpace, isSpace]

theorem skipsOn_firstItem (h : Begun text) (next : Skips (.square :: opened) text final) :
    SkipsOn false (.square :: opened) text final := by
  intro fuel hf
  rw [skipOn, skipClosing_begun h]
  exact next fuel hf

theorem skipsOn_nextItem (next : Skips (.square :: opened) text final) :
    SkipsOn true (.square :: opened) (',' :: text) final := by
  intro fuel hf
  rw [skipOn, skipClosing_comma]
  exact next fuel (by simp at hf; omega)

theorem skipPiece_number {c : Char} {tail : List Char} (first : c = '-' ∨ c.isDigit = true)
    (h : skipNumber (c :: tail) = .ok rest) : skipPiece (c :: tail) = .ok (.scalar rest) := by
  have blanks : skipSpace (c :: tail) = c :: tail := by
    rcases first with rfl | digit
    · rfl
    · exact (begun_digit digit tail).skipSpace
  unfold skipPiece
  rw [blanks]
  split
  case h_8 same => cases same; rw [if_pos first]; exact congrArg (Piece.scalar <$> ·) h
  case h_1 none => cases none
  all_goals next same => cases same; exact absurd first (by decide)

end PackageAudit.Json
