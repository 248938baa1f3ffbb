/-!
# Lines

A line ends at `\r\n`, at `\n` or at a lone `\r`, or where the text ends. A terminator at the very end opens
no further line, so the empty text has no lines.
-/

namespace PackageAudit.Text

/-- The lines of a text, without their terminators. -/
def lines : List Char → List (List Char)
  | [] => []
  | '\r' :: '\n' :: rest => [] :: lines rest
  | c :: rest =>
    if c = '\r' ∨ c = '\n' then [] :: lines rest
    else match lines rest with
      | [] => [[c]]
      | line :: more => (c :: line) :: more

theorem lines_eq_nil_iff {text : List Char} : lines text = [] ↔ text = [] := by
  constructor
  · intro h
    unfold lines at h
    split at h
    · rfl
    · simp at h
    · split at h
      · simp at h
      · split at h <;> simp at h
  · rintro rfl; rfl

end PackageAudit.Text
