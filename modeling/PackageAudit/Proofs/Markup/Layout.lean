import PackageAudit.Proofs.Markup.Tag

/-!
# Documents in any layout

A forest is written in one way only. Here are the documents that others write: attributes between quotes of either
kind, blanks wherever markup allows them, values and texts with any references in them, and around the root element
a declaration, comments and blanks. Each part carries the proof that it does not end early, so every document has a
text, `Whole.print`.

A tag in any layout is read as the token it stands for (`readMarkup_opening`, `readMarkup_single`,
`readMarkup_closing`).
-/

namespace PackageAudit.Markup.Layout

/-! ## Tags -/

/-- Blanks, as many as there are. -/
structure Blanks where
  chars : List Char
  blank : ∀ c ∈ chars, isSpace c = true

/-- The quotes that a value can stand between. -/
inductive Quote where
  | single
  | double
  deriving DecidableEq, Repr

def Quote.mark : Quote → Char
  | .single => '\''
  | .double => '"'

/-- An attribute in a tag. The value is as it is written, with its references; it does not hold its quote. -/
structure Attribute where
  before : Blanks
  separated : before.chars ≠ []
  name : Name
  beforeEquals : Blanks
  afterEquals : Blanks
  quote : Quote
  value : String
  closed : quote.mark ∉ value.toList

def Attribute.print (a : Attribute) : List Char :=
  a.before.chars ++ a.name.text.toList ++ a.beforeEquals.chars ++ ['='] ++ a.afterEquals.chars
    ++ (a.quote.mark :: a.value.toList ++ [a.quote.mark])

/-- What stands between the angle brackets of a tag that opens an element. -/
structure Tag where
  name : Name
  attributes : List Attribute
  after : Blanks

namespace Tag

/-- The content of a tag as it is written. -/
def content (t : Tag) : List Char :=
  t.name.text.toList ++ (t.attributes.flatMap Attribute.print ++ t.after.chars)

def opening (t : Tag) : List Char :=
  '<' :: (t.content ++ ['>'])

/-- A tag of an element without content. -/
def single (t : Tag) : List Char :=
  '<' :: (t.content ++ ['/', '>'])

end Tag

def closing (name : Name) (after : Blanks) : List Char :=
  '<' :: '/' :: (name.text.toList ++ after.chars ++ ['>'])

/-! ## Documents -/

/-- A run of characters without tags. -/
structure Run where
  chars : String
  plain : '<' ∉ chars.toList

/-- What stands between two tags, in any layout. -/
inductive Content where
  | nil
  | text (run : Run) (rest : Content)
  | aside (a : Aside) (rest : Content)
  /-- An element without content, written with one tag. -/
  | leaf (tag : Tag) (rest : Content)
  /-- An element written with two tags; blanks may stand at the end of the second. -/
  | element (tag : Tag) (children : Content) (after : Blanks) (rest : Content)

/-- Content as it is written. -/
def Content.print : Content → List Char
  | .nil => []
  | .text run rest => run.chars.toList ++ rest.print
  | .aside a rest => a.print ++ rest.print
  | .leaf tag rest => tag.single ++ rest.print
  | .element tag children after rest => tag.opening ++ (children.print ++ (closing tag.name after ++ rest.print))

/-- What stands before or after the root element: a declaration, comments, and blanks around them. -/
structure Margin where
  lead : Run
  asides : List (Aside × Run)

def Margin.print (m : Margin) : List Char :=
  m.lead.chars.toList ++ m.asides.flatMap fun p => p.1.print ++ p.2.chars.toList

/-- A document: one element written with two tags, and what stands around it. -/
structure Whole where
  before : Margin
  tag : Tag
  children : Content
  closingBlanks : Blanks
  after : Margin

namespace Whole

/-- The root element as it is written. -/
def root (d : Whole) : List Char :=
  d.tag.opening ++ (d.children.print ++ closing d.tag.name d.closingBlanks)

def print (d : Whole) : List Char :=
  d.before.print ++ (d.root ++ d.after.print)

end Whole

/-! ## Tags are read -/

theorem Blanks.plain (b : Blanks) : ∀ c ∈ b.chars, c ≠ '>' ∧ c ≠ '"' ∧ c ≠ '\'' := by
  intro c hc
  have h := b.blank c hc
  refine ⟨?_, ?_, ?_⟩ <;> rintro rfl <;> exact absurd h (by decide)

theorem tagSpans_attribute (a : Attribute) : TagSpans a.print := by
  have mark : a.quote.mark = '"' ∨ a.quote.mark = '\'' := by cases a.quote <;> simp [Quote.mark]
  have equals : TagSpans ['='] := tagSpans_plain (by simp)
  exact (((((tagSpans_plain a.before.plain).append (tagSpans_plain a.name.plain)).append
    (tagSpans_plain a.beforeEquals.plain)).append equals).append (tagSpans_plain a.afterEquals.plain)).append
    (tagSpans_quoted mark a.closed)

namespace Tag

variable (t : Tag)

theorem tagSpans_content : TagSpans t.content :=
  (tagSpans_plain t.name.plain).append
    ((tagSpans_flatMap fun a _ => tagSpans_attribute a).append (tagSpans_plain t.after.plain))

theorem name_prefix_content (rest : List Char) : t.name.text.toList <+: t.content ++ rest := by
  rw [content, List.append_assoc]
  exact List.prefix_append _ _

/-- The content of a tag does not end in a slash. -/
theorem getLast?_content : t.content.getLast? ≠ some '/' := by
  have attributes : (t.attributes.flatMap Attribute.print).getLast? ≠ some '/' := by
    rcases List.eq_nil_or_concat t.attributes with h | ⟨init, last, h⟩
    · simp [h]
    · have mark : last.quote.mark ≠ '/' := by cases last.quote <;> decide
      rw [h, List.concat_eq_append, List.flatMap_append, List.flatMap_singleton, Attribute.print, ← List.append_assoc,
        ← List.append_assoc, List.getLast?_concat]
      simpa using mark
  intro h
  rw [content, List.getLast?_append, List.getLast?_append] at h
  rcases Option.or_eq_some_iff.mp h with h | ⟨-, h⟩
  · rcases Option.or_eq_some_iff.mp h with h | ⟨-, h⟩
    · exact absurd (t.after.blank _ (List.mem_of_getLast? h)) (by decide)
    · exact attributes h
  · exact absurd (t.name.not_reserved _ (List.mem_of_getLast? h)) (by decide)

/-- **A start tag is read** as the token it stands for. -/
theorem readMarkup_opening : readMarkup (t.content ++ ['>']) = .ok (.start t.content, []) := by
  have cut := t.tagSpans_content.cut []
  rw [readMarkup_of_name (t.name_prefix_content _) cut, if_neg t.getLast?_content]

/-- **A tag without content is read** as the token it stands for. -/
theorem readMarkup_single : readMarkup (t.content ++ ['/', '>']) = .ok (.empty t.content, []) := by
  have cut := t.tagSpans_content.cut_slash []
  rw [readMarkup_of_name (t.name_prefix_content _) cut, if_pos List.getLast?_concat, List.dropLast_concat]

end Tag

/-- **An end tag is read** as the token it stands for. -/
theorem readMarkup_closing (name : Name) (after : Blanks) :
    readMarkup ('/' :: (name.text.toList ++ after.chars ++ ['>']))
      = .ok (.close (closeName (name.text.toList ++ after.chars)), []) := by
  have spans : TagSpans (name.text.toList ++ after.chars) :=
    (tagSpans_plain name.plain).append (tagSpans_plain after.plain)
  have cut := spans.cut []
  simp only [readMarkup, cut]

end PackageAudit.Markup.Layout
