/-!
# Searching in texts

`cutFirst needle hay` splits a text around the first occurrence of another and `cutLast` around the last
occurrence of a character; `contains` asks whether there is an occurrence at all. The pieces of a cut
always put the text together again (`eq_of_cutFirst`, `eq_of_cutLast`).
-/

namespace PackageAudit.Text

/-- What stands before the first occurrence of `needle`, and what follows it. -/
def cutFirst (needle : List Char) (hay : List Char) : Option (List Char × List Char) :=
  if needle.isPrefixOf hay then some ([], hay.drop needle.length)
  else match hay with
    | [] => none
    | c :: rest => (cutFirst needle rest).map fun (before, after) => (c :: before, after)

/-- Whether `needle` occurs in `hay`. -/
def contains (needle : List Char) (hay : List Char) : Bool :=
  needle.isPrefixOf hay || match hay with
    | [] => false
    | _ :: rest => contains needle rest

/-- What stands before the last `mark`, and what follows it. -/
def cutLast (mark : Char) : List Char → Option (List Char × List Char)
  | [] => none
  | c :: rest =>
    match cutLast mark rest with
    | some (before, after) => some (c :: before, after)
    | none => if c = mark then some ([], rest) else none

/-- The texts with `separator` between every two of them. -/
def join (separator : String) : List String → String
  | [] => ""
  | [text] => text
  | text :: rest => text ++ separator ++ join separator rest

/-- A text with every `old` replaced by the characters of `new`. -/
def replace (old : Char) (new : List Char) (text : List Char) : List Char :=
  text.flatMap fun c => if c = old then new else [c]

/-- A cut loses nothing: the text is what stood before, the needle, and what followed. -/
theorem eq_of_cutFirst {needle hay before after : List Char} (h : cutFirst needle hay = some (before, after)) :
    hay = before ++ needle ++ after := by
  induction hay generalizing before with
  | nil =>
    unfold cutFirst at h
    split at h
    · next hp =>
      obtain ⟨rfl, rfl⟩ := by simpa using h
      obtain ⟨rfl, -⟩ := List.append_eq_nil_iff.mp (List.isPrefixOf_iff_prefix.mp hp).choose_spec
      rfl
    · simp at h
  | cons c rest ih =>
    unfold cutFirst at h
    split at h
    · next hp =>
      obtain ⟨rfl, rfl⟩ := by simpa using h
      obtain ⟨t, ht⟩ := List.isPrefixOf_iff_prefix.mp hp
      rw [← ht]; simp
    · obtain ⟨⟨b, a⟩, hc, he⟩ := Option.map_eq_some_iff.mp h
      simp only [Prod.mk.injEq] at he
      obtain ⟨rfl, rfl⟩ := he
      rw [ih hc]; simp

/-- A cut at the last mark loses nothing. -/
theorem eq_of_cutLast {mark : Char} {hay before after : List Char}
    (h : cutLast mark hay = some (before, after)) : hay = before ++ mark :: after := by
  induction hay generalizing before with
  | nil => simp [cutLast] at h
  | cons c rest ih =>
    simp only [cutLast] at h
    split at h
    · next b a hc =>
      simp only [Option.some.injEq, Prod.mk.injEq] at h
      obtain ⟨rfl, rfl⟩ := h
      rw [ih hc]; simp
    · split at h
      · next hm =>
        simp only [Option.some.injEq, Prod.mk.injEq] at h
        obtain ⟨rfl, rfl⟩ := h
        simp [hm]
      · simp at h

end PackageAudit.Text
