import Mathlib.Data.List.Nodup
import PackageAudit.Markup.Token
import PackageAudit.Markup.Writer

/-!
# Forests of elements

A forest is what can stand between two tags: elements in any nesting, text, and the asides that a reader passes
over (comments, instructions, character data). Names, attributes and asides carry the proof that they can be
written, so every forest has a text, `Forest.print`: values and texts are escaped, and an element without content is
written with one tag (`leaf`) or with two (`element` with nothing inside).
-/

namespace PackageAudit.Markup

/-! ## Names -/

/-- Whether a name may begin with a character. -/
def isNameStart (c : Char) : Bool :=
  let n := c.toNat
  c == ':' || c == '_' || ('A' ≤ c && c ≤ 'Z') || ('a' ≤ c && c ≤ 'z')
    || (0xC0 ≤ n && n ≤ 0xD6) || (0xD8 ≤ n && n ≤ 0xF6) || (0xF8 ≤ n && n ≤ 0x2FF)
    || (0x370 ≤ n && n ≤ 0x37D) || (0x37F ≤ n && n ≤ 0x1FFF) || (0x200C ≤ n && n ≤ 0x200D)
    || (0x2070 ≤ n && n ≤ 0x218F) || (0x2C00 ≤ n && n ≤ 0x2FEF) || (0x3001 ≤ n && n ≤ 0xD7FF)
    || (0xF900 ≤ n && n ≤ 0xFDCF) || (0xFDF0 ≤ n && n ≤ 0xFFFD) || (0x10000 ≤ n && n ≤ 0xEFFFF)

/-- Whether a name may go on with a character. -/
def isNameChar (c : Char) : Bool :=
  let n := c.toNat
  isNameStart c || c == '-' || c == '.' || ('0' ≤ c && c ≤ '9') || n == 0xB7 || (0x300 ≤ n && n ≤ 0x36F)
    || (0x203F ≤ n && n ≤ 0x2040)

def isName : List Char → Bool
  | [] => false
  | c :: rest => isNameStart c && rest.all isNameChar

/-- The name of an element or an attribute. -/
structure Name where
  text : String
  legal : isName text.toList = true
  deriving DecidableEq

/-- Whether a character has a meaning in a tag. -/
def isReserved (c : Char) : Bool :=
  isSpace c || ['<', '>', '/', '=', '"', '\'', '!', '?'].contains c

theorem isReserved_of_isNameChar {c : Char} (h : isNameChar c = true) : isReserved c = false := by
  rw [← Bool.not_eq_true]
  intro hc
  have : c ∈ [' ', '\t', '\r', '\n', '<', '>', '/', '=', '"', '\'', '!', '?'] := by
    simpa [isReserved, isSpace, or_assoc] using hc
  revert h
  simp only [List.mem_cons, List.not_mem_nil, or_false] at this
  rcases this with rfl | rfl | rfl | rfl | rfl | rfl | rfl | rfl | rfl | rfl | rfl | rfl <;> decide

namespace Name

theorem exists_cons (name : Name) : ∃ c rest, name.text.toList = c :: rest := by
  have h := name.legal
  cases hs : name.text.toList with
  | nil => simp [hs, isName] at h
  | cons c rest => exact ⟨c, rest, rfl⟩

theorem not_reserved (name : Name) : ∀ c ∈ name.text.toList, isReserved c = false := by
  intro c hc
  have h := name.legal
  obtain ⟨d, rest, hs⟩ := name.exists_cons
  rw [hs] at h hc
  simp only [isName, Bool.and_eq_true, List.all_eq_true] at h
  apply isReserved_of_isNameChar
  rcases List.mem_cons.mp hc with rfl | hc
  · simp [isNameChar, h.1]
  · exact h.2 c hc

theorem not_space (name : Name) : ∀ c ∈ name.text.toList, isSpace c = false := by
  intro c hc
  exact (Bool.or_eq_false_iff.mp (name.not_reserved c hc)).1

theorem eq_of_text {a b : Name} (h : a.text = b.text) : a = b := by
  cases a
  cases b
  cases h
  rfl

end Name

/-! ## Attributes and asides -/

/-- The attributes of an element, in order, each name once. The values are any texts. -/
structure Attributes where
  pairs : List (Name × String)
  distinct : (pairs.map (·.1)).Nodup

namespace Attributes

def none : Attributes := ⟨[], List.nodup_nil⟩

def texts (a : Attributes) : List (String × String) :=
  a.pairs.map fun p => (p.1.text, p.2)

theorem texts_none : none.texts = [] := rfl

/-- Attributes from texts, given the keys alone once more. -/
def ofTexts (pairs : List (String × String)) (keys : List String) (h : pairs.map (·.1) = keys)
    (legal : ∀ key ∈ keys, isName key.toList = true) (distinct : keys.Nodup) : Attributes where
  pairs := pairs.attach.map fun p => (⟨p.1.1, legal _ (h ▸ List.mem_map_of_mem p.2)⟩, p.1.2)
  distinct := by
    subst h
    refine List.Nodup.of_map Name.text ?_
    have texts : (pairs.attach.map fun p => p.1.1) = pairs.map (·.1) := List.attach_map_val
    rw [List.map_map, List.map_map]
    show (pairs.attach.map fun p => p.1.1).Nodup
    rwa [texts]

@[simp] theorem texts_ofTexts {pairs : List (String × String)} {keys : List String} (h : pairs.map (·.1) = keys)
    (legal : ∀ key ∈ keys, isName key.toList = true) (distinct : keys.Nodup) :
    (ofTexts pairs keys h legal distinct).texts = pairs := by
  rw [texts, ofTexts, List.map_map]
  exact List.attach_map_subtype_val pairs

end Attributes

/-- The kinds of markup that a reader passes over. -/
inductive AsideKind where
  | comment
  | instruction
  | characterData
  deriving DecidableEq, Repr

namespace AsideKind

/-- What an aside begins with, after its angle bracket. -/
def opening : AsideKind → List Char
  | .comment => ['!', '-', '-']
  | .instruction => ['?']
  | .characterData => ['!', '[', 'C', 'D', 'A', 'T', 'A', '[']

/-- What an aside ends with. -/
def closing : AsideKind → List Char
  | .comment => ['-', '-', '>']
  | .instruction => ['?', '>']
  | .characterData => [']', ']', '>']

end AsideKind

/-- A comment, an instruction or character data. It does not contain its own end, and an instruction does not begin
as if it ended. -/
structure Aside where
  kind : AsideKind
  body : String
  unended : ¬kind.closing <:+: body.toList
  begun : kind = .instruction → body.toList.head? ≠ some '>'

def Aside.print (a : Aside) : List Char :=
  '<' :: a.kind.opening ++ a.body.toList ++ a.kind.closing

/-! ## Forests -/

/-- Elements in their order, with texts and asides between them. -/
inductive Forest where
  | nil
  | text (chars : String) (rest : Forest)
  | aside (a : Aside) (rest : Forest)
  /-- An element without content, written with one tag. -/
  | leaf (name : Name) (attributes : Attributes) (rest : Forest)
  /-- An element written with two tags. -/
  | element (name : Name) (attributes : Attributes) (children : Forest) (rest : Forest)

namespace Forest

/-- A forest as it is written. -/
def print : Forest → List Char
  | .nil => []
  | .text chars rest => escape chars.toList ++ rest.print
  | .aside a rest => a.print ++ rest.print
  | .leaf name attributes rest => emptyTag name.text attributes.texts ++ rest.print
  | .element name attributes children rest =>
    startTag name.text attributes.texts ++ children.print ++ endTag name.text ++ rest.print

/-- An element at the top of a forest. -/
structure Tree where
  name : Name
  attributes : Attributes
  children : Forest

/-- The elements at the top of a forest, in order. -/
def trees : Forest → List Tree
  | .nil => []
  | .text _ rest => rest.trees
  | .aside _ rest => rest.trees
  | .leaf name attributes rest => ⟨name, attributes, .nil⟩ :: rest.trees
  | .element name attributes children rest => ⟨name, attributes, children⟩ :: rest.trees

/-- The elements of one name at the top of a forest, in order. -/
def treesNamed (f : Forest) (name : String) : List Tree :=
  f.trees.filter (·.name.text == name)

/-- Elements of one name without content. -/
def leaves (name : Name) : List Attributes → Forest
  | [] => .nil
  | attributes :: rest => .leaf name attributes (leaves name rest)

theorem trees_leaves (name : Name) : ∀ items : List Attributes,
    (leaves name items).trees = items.map fun attributes => ⟨name, attributes, .nil⟩
  | [] => rfl
  | attributes :: rest => by rw [leaves, trees, trees_leaves name rest, List.map_cons]

end Forest

end PackageAudit.Markup
