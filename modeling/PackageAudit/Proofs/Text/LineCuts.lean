import Mathlib.Data.List.TakeWhile
import PackageAudit.Proofs.Text.Boundary
import PackageAudit.Proofs.Text.Lines

/-!
# Where a text is cut into lines

Three other ways to the lines of a text. One line after the other is cut off, and what is left is always shorter
(`lines_eq_nextLine`, `length_lt_of_nextLine?`). The bytes of the text are cut at the bytes of the ends of lines, which
stand in no other character (`byteLines_encode`). Where a lone carriage return is turned into a line feed, the lines are
those that end at a line feed or at both characters together (`lines_eq_feedLines`).

Main statement: all of them give the lines that the text is written with, and it is written with no others
(`lines_unique`).
-/

namespace PackageAudit.Text

open Utf8 (encode encode_cons)

variable {text line rest : List Char} {c : Char}

/-! ## One line after the other -/

/-- Whether a character ends no line. -/
def isInner (c : Char) : Bool :=
  c ≠ '\r' && c ≠ '\n'

/-- What follows the end of a line that a text begins with. -/
def afterEnd : List Char → List Char
  | [] => []
  | '\r' :: '\n' :: rest => rest
  | _ :: rest => rest

/-- The first line of a text, and what is left of the text behind its end. -/
def nextLine? (text : List Char) : Option (List Char × List Char) :=
  if text = [] then none else some (text.takeWhile isInner, afterEnd (text.dropWhile isInner))

theorem Unbroken.isInner (h : Unbroken line) : ∀ c ∈ line, Text.isInner c = true := by
  intro c hc
  have cr : c ≠ '\r' := fun e => h.cr_notMem (e ▸ hc)
  have lf : c ≠ '\n' := fun e => h.lf_notMem (e ▸ hc)
  simp [Text.isInner, cr, lf]

theorem LineEnd.takeWhile_chars (stop : LineEnd) (rest : List Char) :
    (stop.chars ++ rest).takeWhile isInner = [] ∧ (stop.chars ++ rest).dropWhile isInner = stop.chars ++ rest := by
  cases stop <;> exact ⟨rfl, rfl⟩

theorem afterEnd_chars (stop : LineEnd) (apart : stop = .cr → rest.head? ≠ some '\n') :
    afterEnd (stop.chars ++ rest) = rest := by
  cases stop with
  | crlf => rfl
  | lf => rfl
  | cr =>
    show afterEnd ('\r' :: rest) = rest
    rw [afterEnd]
    rintro after - rfl
    exact apart rfl rfl

theorem nextLine?_append (unbroken : Unbroken line) (stop : LineEnd) (apart : stop = .cr → rest.head? ≠ some '\n') :
    nextLine? (line ++ stop.chars ++ rest) = some (line, rest) := by
  obtain ⟨none_taken, all_left⟩ := stop.takeWhile_chars rest
  have ne_nil : line ++ stop.chars ++ rest ≠ [] := by
    cases stop <;> simp [LineEnd.chars]
  rw [nextLine?, if_neg ne_nil, List.append_assoc, List.takeWhile_append_of_pos unbroken.isInner,
    List.dropWhile_append_of_pos unbroken.isInner, none_taken, all_left, List.append_nil, afterEnd_chars stop apart]

theorem nextLine?_last (unbroken : Unbroken line) (ne_nil : line ≠ []) : nextLine? line = some (line, []) := by
  rw [nextLine?, if_neg ne_nil, List.takeWhile_eq_self_iff.mpr unbroken.isInner,
    List.dropWhile_eq_nil_iff.mpr unbroken.isInner, afterEnd]

/-- **Lines are cut off** one after the other. -/
theorem lines_eq_nextLine (text : List Char) : lines text = match nextLine? text with
    | none => []
    | some (line, rest) => line :: lines rest := by
  generalize hls : lines text = ls
  cases written_iff.mpr hls with
  | nil => rfl
  | last unbroken ne_nil => rw [nextLine?_last unbroken ne_nil]; rfl
  | line unbroken stop apart more =>
    rw [nextLine?_append unbroken stop apart]
    exact congrArg (_ :: ·) (lines_of_written more).symm

/-- With each line the text gets shorter. -/
theorem length_lt_of_nextLine? (h : nextLine? text = some (line, rest)) : rest.length < text.length := by
  generalize hls : lines text = ls
  cases written_iff.mpr hls with
  | nil => cases h
  | last unbroken ne_nil =>
    rw [nextLine?_last unbroken ne_nil] at h
    cases h
    exact List.length_pos_iff.mpr ne_nil
  | line unbroken stop apart more =>
    rw [nextLine?_append unbroken stop apart] at h
    cases h
    have : 0 < stop.chars.length := by cases stop <;> exact Nat.zero_lt_succ _
    simp only [List.length_append]
    omega

/-! ## Lines among bytes -/

/-- The lines of a text by its bytes: they are cut at the bytes of carriage returns and line feeds. -/
def byteLines : List UInt8 → List (List UInt8)
  | [] => []
  | 13 :: 10 :: rest => [] :: byteLines rest
  | b :: rest =>
    if b = 13 ∨ b = 10 then [] :: byteLines rest
    else match byteLines rest with
      | [] => [[b]]
      | line :: more => (b :: line) :: more

theorem byteLines_cons {b : UInt8} (inside : ¬(b = 13 ∨ b = 10)) (rest : List UInt8) : byteLines (b :: rest)
    = match byteLines rest with
      | [] => [[b]]
      | line :: more => (b :: line) :: more := by
  rw [byteLines]
  · exact if_neg inside
  · rintro - rfl
    exact absurd (Or.inl rfl) inside

/-- Bytes that end no line belong to the first line. -/
theorem byteLines_append {bytes : List UInt8} (ne_nil : bytes ≠ []) (inside : ∀ b ∈ bytes, ¬(b = 13 ∨ b = 10))
    (rest : List UInt8) : byteLines (bytes ++ rest)
      = match byteLines rest with
        | [] => [bytes]
        | line :: more => (bytes ++ line) :: more := by
  induction bytes with
  | nil => exact absurd rfl ne_nil
  | cons b bytes ih =>
    obtain ⟨own, others⟩ := List.forall_mem_cons.mp inside
    rw [List.cons_append, byteLines_cons own]
    cases bytes with
    | nil => rfl
    | cons d bytes =>
      rw [ih (List.cons_ne_nil d bytes) others]
      cases byteLines rest <;> rfl

/-- The bytes of carriage returns and line feeds stand in no other character. -/
theorem ne_of_mem_encodeChar (inside : ¬(c = '\r' ∨ c = '\n')) : ∀ b ∈ String.utf8EncodeChar c, ¬(b = 13 ∨ b = 10) := by
  intro b hb ends
  rcases Utf8.toNat_of_mem_encodeChar hb with same | above
  · have value {d : Char} (h : b.toNat = d.val.toNat) : c = d := Char.ext (UInt32.toNat_inj.mp (same.symm.trans h))
    exact inside (ends.imp (fun h => value (congrArg UInt8.toNat h)) fun h => value (congrArg UInt8.toNat h))
  · rcases ends with rfl | rfl <;> exact absurd above (by decide)

theorem byteLines_return {bytes : List UInt8} (apart : bytes.head? ≠ some 10) :
    byteLines (13 :: bytes) = [] :: byteLines bytes := by
  rw [byteLines]
  · exact if_pos (Or.inl rfl)
  · rintro after - rfl
    exact apart rfl

theorem byteLines_feed (bytes : List UInt8) : byteLines (10 :: bytes) = [] :: byteLines bytes := by
  rw [byteLines]
  · exact if_pos (Or.inr rfl)
  · intro _ same
    exact absurd same (by decide)

/-- The bytes of a text begin with a line feed only if the text does. -/
theorem head?_encode_ne (apart : text.head? ≠ some '\n') : (encode text).head? ≠ some 10 := by
  intro feed
  obtain ⟨back, hback⟩ := List.head?_eq_some_iff.mp feed
  have begun : encode text = encode ['\n'] ++ back := hback
  obtain ⟨after, rfl, -⟩ := Utf8.exists_of_encode_eq_encode_append begun
  exact apart rfl

/-- **The bytes of the lines** of a text are the lines of its bytes. -/
theorem byteLines_encode (text : List Char) : byteLines (encode text) = (lines text).map encode := by
  fun_induction lines text with
  | case1 => rfl
  | case2 rest ih =>
    show byteLines (13 :: 10 :: encode rest) = _
    rw [byteLines, ih]
    rfl
  | case3 c rest apart stop ih =>
    rcases stop with rfl | rfl
    · have lone : rest.head? ≠ some '\n' := head?_ne_feed fun after => apart after rfl
      show byteLines (13 :: encode rest) = _
      rw [byteLines_return (head?_encode_ne lone), ih]
      rfl
    · show byteLines (10 :: encode rest) = _
      rw [byteLines_feed, ih]
      rfl
  | case4 c rest _ inside none ih =>
    rw [encode_cons, byteLines_append String.utf8EncodeChar_ne_nil (ne_of_mem_encodeChar inside), ih, none]
    simp [encode]
  | case5 c rest _ inside line more some ih =>
    rw [encode_cons, byteLines_append String.utf8EncodeChar_ne_nil (ne_of_mem_encodeChar inside), ih, some]
    simp [encode]

/-! ## Lines that end at line feeds -/

/-- A text in pieces, each of them up to a line feed and with it. -/
def feedPieces : List Char → List (List Char)
  | [] => []
  | c :: rest =>
    if c = '\n' then [c] :: feedPieces rest
    else match feedPieces rest with
      | [] => [[c]]
      | piece :: more => (c :: piece) :: more

/-- A piece without the line feed at its end, and without a carriage return in front of that. -/
def withoutFeed : List Char → List Char
  | [] => []
  | ['\n'] => []
  | ['\r', '\n'] => []
  | c :: rest => c :: withoutFeed rest

/-- The lines of a text where only a line feed ends a line, alone or with a carriage return in front of it. -/
def feedLines (text : List Char) : List (List Char) :=
  (feedPieces text).map withoutFeed

/-- A text with a line feed for every carriage return that no line feed follows. -/
def feedLoneReturns : List Char → List Char
  | [] => []
  | c :: rest => (if c = '\r' ∧ rest.head? ≠ some '\n' then '\n' else c) :: feedLoneReturns rest

theorem feedLoneReturns_cons (h : ¬(c = '\r' ∧ rest.head? ≠ some '\n')) :
    feedLoneReturns (c :: rest) = c :: feedLoneReturns rest := by
  rw [feedLoneReturns, if_neg h]

theorem feedLines_feed (rest : List Char) : feedLines ('\n' :: rest) = [] :: feedLines rest :=
  rfl

theorem feedLines_return_feed (rest : List Char) : feedLines ('\r' :: '\n' :: rest) = [] :: feedLines rest :=
  rfl

/-- A character that ends no line belongs to the first line. -/
theorem feedLines_cons (inside : ¬(c = '\r' ∨ c = '\n')) (rest : List Char) : feedLines (c :: rest)
    = match feedLines rest with
      | [] => [[c]]
      | line :: more => (c :: line) :: more := by
  obtain ⟨cr, lf⟩ := not_or.mp inside
  rw [feedLines, feedPieces, if_neg lf, feedLines]
  have own (piece : List Char) : withoutFeed (c :: piece) = c :: withoutFeed piece := by
    rw [withoutFeed]
    · rintro rfl
      exact absurd rfl lf
    · rintro rfl
      exact absurd rfl cr
  cases feedPieces rest <;> simp [own, withoutFeed]

/-- **The lines of a text** are those that end at line feeds, once each lone carriage return is one. -/
theorem lines_eq_feedLines (text : List Char) : lines text = feedLines (feedLoneReturns text) := by
  fun_induction lines text with
  | case1 => rfl
  | case2 rest ih =>
    rw [feedLoneReturns_cons (by simp), feedLoneReturns_cons (by simp), feedLines_return_feed, ih]
  | case3 c rest apart stop ih =>
    rcases stop with rfl | rfl
    · have lone : rest.head? ≠ some '\n' := head?_ne_feed fun after => apart after rfl
      rw [feedLoneReturns, if_pos ⟨rfl, lone⟩, feedLines_feed, ih]
    · rw [feedLoneReturns_cons (by simp), feedLines_feed, ih]
  | case4 c rest _ inside none ih =>
    rw [feedLoneReturns_cons fun h => inside (Or.inl h.1), feedLines_cons inside, ← ih, none]
  | case5 c rest _ inside line more some ih =>
    rw [feedLoneReturns_cons fun h => inside (Or.inl h.1), feedLines_cons inside, ← ih, some]

/-! ## All ways together -/

/-- **The lines of a text**: it is written with them and with no others, and without lines only if it is empty. They
are cut off one after the other, each time leaving less of the text; cutting the bytes gives the bytes of the lines;
and they end at line feeds once each lone carriage return is one. -/
theorem lines_unique (text : List Char) :
    (∀ ls, Written ls text ↔ ls = lines text)
      ∧ (lines text = [] ↔ text = [])
      ∧ (lines text = match nextLine? text with
          | none => []
          | some (line, rest) => line :: lines rest)
      ∧ (∀ line rest, nextLine? text = some (line, rest) → rest.length < text.length)
      ∧ byteLines (encode text) = (lines text).map encode
      ∧ lines text = feedLines (feedLoneReturns text) := by
  refine ⟨fun ls => ?_, lines_eq_nil_iff, lines_eq_nextLine text, ?_, byteLines_encode text, lines_eq_feedLines text⟩
  · rw [written_iff, eq_comm]
  · intro line rest h
    exact length_lt_of_nextLine? h

end PackageAudit.Text
