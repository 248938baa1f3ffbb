import PackageAudit.Text.Lines

/-!
# Written lines

A text is written with its lines one after the other, each followed by one of the three ends of a line; the last line
may end with the text instead (`Written`). A carriage return in front of a line feed is one end with it, so it is no
end of its own there. Main statement: the lines of a text are those that it was written with (`lines_of_written`), and
each text is written with its lines (`written_lines`), so in one way only (`written_iff`).
-/

namespace PackageAudit.Text

/-- The ends of lines. -/
inductive LineEnd where
  | crlf
  | lf
  | cr
  deriving DecidableEq, Repr

/-- The end of a line as it is written. -/
def LineEnd.chars : LineEnd → List Char
  | .crlf => ['\r', '\n']
  | .lf => ['\n']
  | .cr => ['\r']

/-- Whether no line ends inside a text. -/
structure Unbroken (line : List Char) : Prop where
  cr_notMem : '\r' ∉ line
  lf_notMem : '\n' ∉ line

/-- The lines that a text is written with. -/
inductive Written : List (List Char) → List Char → Prop
  | nil : Written [] []
  | last {line : List Char} (unbroken : Unbroken line) (ne_nil : line ≠ []) : Written [line] line
  | line {line rest : List Char} {lines : List (List Char)} (unbroken : Unbroken line) (stop : LineEnd)
    (apart : stop = .cr → rest.head? ≠ some '\n') (more : Written lines rest) :
    Written (line :: lines) (line ++ stop.chars ++ rest)

theorem Unbroken.of_cons {c : Char} {line : List Char} (h : Unbroken (c :: line)) :
    ¬(c = '\r' ∨ c = '\n') ∧ Unbroken line := by
  obtain ⟨cr, lf⟩ := h
  rw [List.mem_cons, not_or] at cr lf
  exact ⟨not_or.mpr ⟨Ne.symm cr.1, Ne.symm lf.1⟩, cr.2, lf.2⟩

theorem unbroken_nil : Unbroken [] :=
  ⟨List.not_mem_nil, List.not_mem_nil⟩

theorem Unbroken.cons {c : Char} {line : List Char} (inside : ¬(c = '\r' ∨ c = '\n')) (h : Unbroken line) :
    Unbroken (c :: line) := by
  obtain ⟨cr, lf⟩ := not_or.mp inside
  exact ⟨List.not_mem_cons_of_ne_of_not_mem (Ne.symm cr) h.cr_notMem,
    List.not_mem_cons_of_ne_of_not_mem (Ne.symm lf) h.lf_notMem⟩

theorem Written.unbroken {ls : List (List Char)} {text : List Char} (h : Written ls text) :
    ∀ line ∈ ls, Unbroken line := by
  induction h with
  | nil => exact List.forall_mem_nil _
  | last unbroken => exact List.forall_mem_singleton.mpr unbroken
  | line unbroken _ _ _ ih => exact List.forall_mem_cons.mpr ⟨unbroken, ih⟩

theorem head?_ne_feed {rest : List Char} (apart : ∀ after, ¬rest = '\n' :: after) : rest.head? ≠ some '\n' := by
  intro feed
  obtain ⟨after, h⟩ := List.head?_eq_some_iff.mp feed
  exact apart after h

theorem lines_cons {c : Char} (h : ¬(c = '\r' ∨ c = '\n')) (rest : List Char) : lines (c :: rest)
    = match lines rest with
      | [] => [[c]]
      | line :: more => (c :: line) :: more := by
  rw [lines]
  · exact if_neg h
  · rintro - rfl
    exact absurd (Or.inl rfl) h

theorem lines_end (stop : LineEnd) {rest : List Char} (apart : stop = .cr → rest.head? ≠ some '\n') :
    lines (stop.chars ++ rest) = [] :: lines rest := by
  cases stop with
  | crlf => rfl
  | lf => rfl
  | cr =>
    show lines ('\r' :: rest) = _
    rw [lines]
    · exact if_pos (Or.inl rfl)
    · rintro after - rfl
      exact apart rfl rfl

theorem lines_append {line : List Char} (unbroken : Unbroken line) (stop : LineEnd) {rest : List Char}
    (apart : stop = .cr → rest.head? ≠ some '\n') : lines (line ++ stop.chars ++ rest) = line :: lines rest := by
  induction line with
  | nil => exact lines_end stop apart
  | cons c line ih =>
    obtain ⟨inside, unbroken⟩ := unbroken.of_cons
    show lines (c :: (line ++ stop.chars ++ rest)) = _
    rw [lines_cons inside, ih unbroken]

theorem lines_last {line : List Char} (unbroken : Unbroken line) (ne_nil : line ≠ []) : lines line = [line] := by
  induction line with
  | nil => exact absurd rfl ne_nil
  | cons c line ih =>
    obtain ⟨inside, unbroken⟩ := unbroken.of_cons
    rw [lines_cons inside]
    cases line with
    | nil => rfl
    | cons d line => rw [ih unbroken (List.cons_ne_nil d line)]

/-- **The lines of a text** are those that it was written with. -/
theorem lines_of_written {ls : List (List Char)} {text : List Char} (h : Written ls text) : lines text = ls := by
  induction h with
  | nil => rfl
  | last unbroken ne_nil => exact lines_last unbroken ne_nil
  | line unbroken stop apart _ ih => rw [lines_append unbroken stop apart, ih]

/-- A character that ends no line is written in front of the first line. -/
theorem Written.cons {c : Char} {rest : List Char} {ls : List (List Char)} (inside : ¬(c = '\r' ∨ c = '\n'))
    (h : Written ls rest) : Written (match ls with
      | [] => [[c]]
      | first :: more => (c :: first) :: more) (c :: rest) := by
  cases h with
  | nil => exact .last (unbroken_nil.cons inside) (List.cons_ne_nil c [])
  | last unbroken => exact .last (unbroken.cons inside) (List.cons_ne_nil c rest)
  | line unbroken stop apart more => exact .line (unbroken.cons inside) stop apart more

/-- A text is written with its lines. -/
theorem written_lines (text : List Char) : Written (lines text) text := by
  fun_induction lines text with
  | case1 => exact .nil
  | case2 rest ih => exact .line unbroken_nil .crlf nofun ih
  | case3 c rest apart stop ih =>
    rcases stop with rfl | rfl
    · exact .line unbroken_nil .cr (fun _ => head?_ne_feed fun after => apart after rfl) ih
    · exact .line unbroken_nil .lf nofun ih
  | case4 c rest _ inside none ih =>
    rw [none] at ih
    exact ih.cons inside
  | case5 c rest _ inside line more some ih =>
    rw [some] at ih
    exact ih.cons inside

/-- **A text is written in one way**, which is with its lines. -/
theorem written_iff {ls : List (List Char)} {text : List Char} : Written ls text ↔ lines text = ls :=
  ⟨lines_of_written, fun h => h ▸ written_lines text⟩

end PackageAudit.Text
