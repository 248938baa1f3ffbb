import PackageAudit.Proofs.Markup.Tag

/-!
# Marked-up texts as trees

What a marked-up text stands for are elements, their attributes, and the characters between them (`Nodes`). They are
built from the tokens of the text: end tags have to pair with start tags, attributes are read as they are everywhere,
entities stand for their characters, and no blank is dropped or changed (`Nodes.read`). Asides are passed over.

A forest that was written is read as its nodes (`Nodes.read_forest`). The reader goes over the tokens with the list of
open elements; `Builds opened text result` says what it makes of a text from inside a document, one lemma for each kind
of token puts what stands in front of a text (`builds_text`, `builds_aside`, `builds_startTag`, `builds_emptyTag`,
`builds_endTag`), and `builds_forest` puts a whole forest there, by induction on the forest.
-/

namespace PackageAudit.Markup

/-! ## Nodes -/

/-- Elements in their order, with the characters between them. -/
inductive Nodes where
  | nil
  | text (chars : List Char) (rest : Nodes)
  | element (name : String) (attributes : List (String × String)) (children rest : Nodes)
  deriving DecidableEq, Repr

namespace Nodes

/-- An element with what stands in it. -/
structure Tree where
  name : String
  attributes : List (String × String)
  children : Nodes
  deriving DecidableEq, Repr

/-- Nodes with characters in front of them. Characters that stand together are one text. -/
def addText (chars : List Char) (nodes : Nodes) : Nodes :=
  match chars, nodes with
  | [], nodes => nodes
  | c :: chars, .text more rest => .text (c :: chars ++ more) rest
  | c :: chars, nodes => .text (c :: chars) nodes

/-- The elements, if there are only blanks between them. -/
def trees? : Nodes → Option (List Tree)
  | .nil => some []
  | .text chars rest => if chars.all isSpace then rest.trees? else none
  | .element name attributes children rest => rest.trees?.map (⟨name, attributes, children⟩ :: ·)

/-- The characters, if there are no elements between them. -/
def text? : Nodes → Option String
  | .nil => some ""
  | .text chars .nil => some (String.ofList chars)
  | _ => none

theorem addText_append (front back : List Char) (nodes : Nodes) :
    nodes.addText (front ++ back) = (nodes.addText back).addText front := by
  cases front with
  | nil => rfl
  | cons c front =>
    cases back with
    | nil => rw [List.append_nil]; rfl
    | cons d back => cases nodes <;> simp [addText]

theorem trees?_addText {chars : List Char} (h : chars.all isSpace) (nodes : Nodes) :
    (nodes.addText chars).trees? = nodes.trees? := by
  cases chars with
  | nil => rfl
  | cons c chars =>
    cases nodes with
    | text more rest => rw [addText, trees?, trees?, List.all_append, h, Bool.true_and]
    | nil => exact if_pos h
    | element name attributes children rest => exact if_pos h

theorem text?_addText_nil (text : String) : (nil.addText text.toList).text? = some text := by
  cases h : text.toList with
  | nil => simp [addText, text?, ← String.toList_inj, h]
  | cons c chars => simp [addText, text?, ← h]

/-! ## Reading -/

/-- Builds nodes from tokens. `opened` are the open elements, innermost first. The result is what is left of the
innermost one, and of each element around it. -/
def ofTokens (opened : List String) : List (Nat × Token) → Except Fault (Nodes × List Nodes)
  | [] => .ok (.nil, [])
  | (_, token) :: rest =>
    match token with
    | .text chars => do
      let chars ← unescape chars
      let (nodes, outer) ← ofTokens opened rest
      .ok (nodes.addText chars, outer)
    | .start content => do
      let name := String.ofList (tagName content)
      let attributes ← readAttributes content
      match ← ofTokens (name :: opened) rest with
      | (children, nodes :: outer) => .ok (.element name attributes children nodes, outer)
      | (_, []) => .error (.unclosedElement name)
    | .empty content => do
      let attributes ← readAttributes content
      let (nodes, outer) ← ofTokens opened rest
      .ok (.element (String.ofList (tagName content)) attributes .nil nodes, outer)
    | .close name =>
      match opened with
      | [] => .error (.unmatchedEnd (String.ofList name))
      | expected :: around =>
        if expected = String.ofList name then do
          let (nodes, outer) ← ofTokens around rest
          .ok (.nil, nodes :: outer)
        else .error (.mismatchedEnd expected (String.ofList name))
    | .other => ofTokens opened rest
    | .broken fault => .error fault
    | .finish =>
      match opened with
      | [] => .ok (.nil, [])
      | name :: _ => .error (.unclosedElement name)

def read (text : List Char) : Except Fault Nodes :=
  (ofTokens [] (tokens text)).map (·.1)

/-! ## Reading from inside a document -/

variable {opened : List String} {nodes : Nodes} {outer : List Nodes}

/-- From inside a document, with some elements open, this is what is built from the rest of the text. -/
def Builds (opened : List String) (text : List Char) (result : Nodes × List Nodes) : Prop :=
  ∀ fuel offset, text.length < fuel → ofTokens opened (tokensFrom fuel offset text) = .ok result

theorem builds_nil : Builds [] [] (.nil, []) := by
  intro fuel offset hf
  obtain ⟨fuel, rfl⟩ : ∃ n, fuel = n + 1 := ⟨fuel - 1, by simp at hf; omega⟩
  rfl

/-- Markup builds what its token does before what follows it. -/
theorem builds_markup {token : Token} {text rest : List Char} {result : Nodes × List Nodes}
    (h : readMarkup text = .ok (token, rest)) (hlen : rest.length ≤ text.length)
    (step : ∀ fuel offset offset', rest.length < fuel →
      ofTokens opened ((offset, token) :: tokensFrom fuel offset' rest) = .ok result) :
    Builds opened ('<' :: text) result := by
  intro fuel offset hf
  obtain ⟨fuel, rfl⟩ : ∃ n, fuel = n + 1 := ⟨fuel - 1, by omega⟩
  rw [tokensFrom_markup h]
  exact step fuel offset _ (by simp at hf; omega)

/-- An escaped text in front of markup, or at the end, gives its characters. -/
theorem builds_text (chars : List Char) {text : List Char} (ht : ∀ c ∈ text.head?, c = '<')
    (h : Builds opened text (nodes, outer)) : Builds opened (escape chars ++ text) (nodes.addText chars, outer) := by
  cases he : escape chars with
  | nil =>
    have none : chars = [] := by
      have := unescape_escape chars
      rw [he] at this
      exact (Except.ok.inj this).symm
    rwa [none]
  | cons c rest =>
    intro fuel offset hf
    obtain ⟨fuel, rfl⟩ : ∃ n, fuel = n + 1 := ⟨fuel - 1, by simp at hf; omega⟩
    have hc : '<' ∉ c :: rest := fun hm => (mem_escape (he ▸ hm)).1 rfl
    rw [tokensFrom_text hc ht, ofTokens]
    simp only [← he, unescape_escape, h fuel _ (by simp at hf; omega)]
    rfl

theorem builds_aside (a : Aside) {text : List Char} (h : Builds opened text (nodes, outer)) :
    Builds opened (a.print ++ text) (nodes, outer) := by
  unfold Aside.print
  rw [List.cons_append, List.cons_append, List.cons_append]
  refine builds_markup (readMarkup_aside a text) (by simp; omega) fun fuel _ offset' hf => ?_
  exact h fuel offset' hf

theorem builds_endTag (name : Name) {text : List Char} (h : Builds opened text (nodes, outer)) :
    Builds (name.text :: opened) (endTag name.text ++ text) (.nil, nodes :: outer) := by
  have written : endTag name.text ++ text = '<' :: ('/' :: name.text.toList ++ '>' :: text) := by simp [endTag]
  rw [written]
  refine builds_markup (readMarkup_endTag name text) (by simp; omega) fun fuel _ offset' hf => ?_
  simp only [ofTokens, String.ofList_toList, if_true, h fuel offset' hf]
  rfl

/-- A start tag makes an element of what stands before its end tag. -/
theorem builds_startTag (name : Name) (attributes : Attributes) {text : List Char} {children : Nodes}
    (h : Builds (name.text :: opened) text (children, nodes :: outer)) :
    Builds opened (startTag name.text attributes.texts ++ text)
      (.element name.text attributes.texts children nodes, outer) := by
  have written : startTag name.text attributes.texts ++ text
      = '<' :: (tagContent name.text attributes.texts ++ '>' :: text) := by simp [startTag]
  rw [written]
  refine builds_markup (readMarkup_startTag name attributes text) (by simp; omega) fun fuel _ offset' hf => ?_
  simp only [ofTokens, tagName_tagContent, readAttributes_tagContent, String.ofList_toList]
  rw [h fuel offset' hf]
  rfl

/-- A tag without content is an element with nothing in it. -/
theorem builds_emptyTag (name : Name) (attributes : Attributes) {text : List Char}
    (h : Builds opened text (nodes, outer)) :
    Builds opened (emptyTag name.text attributes.texts ++ text)
      (.element name.text attributes.texts .nil nodes, outer) := by
  have written : emptyTag name.text attributes.texts ++ text
      = '<' :: (tagContent name.text attributes.texts ++ '/' :: '>' :: text) := by simp [emptyTag]
  rw [written]
  refine builds_markup (readMarkup_emptyTag name attributes text) (by simp; omega) fun fuel _ offset' hf => ?_
  simp only [ofTokens, tagName_tagContent, readAttributes_tagContent, String.ofList_toList]
  rw [h fuel offset' hf]
  rfl

end Nodes

/-! ## Written forests -/

/-- What a forest stands for. -/
def Forest.nodes : Forest → Nodes
  | .nil => .nil
  | .text chars rest => rest.nodes.addText chars.toList
  | .aside _ rest => rest.nodes
  | .leaf name attributes rest => .element name.text attributes.texts .nil rest.nodes
  | .element name attributes children rest => .element name.text attributes.texts children.nodes rest.nodes

namespace Nodes

/-- **A forest in front of an end tag or of the end**: its nodes are built. The characters in `front` are those between
the last tag and the forest, which one token holds together with the first text of the forest. -/
theorem builds_forest (f : Forest) : ∀ {opened : List String} {text : List Char} {outer : List Nodes}
    (front : List Char), (∀ c ∈ text.head?, c = '<') → Builds opened text (.nil, outer) →
    Builds opened (escape front ++ (f.print ++ text)) (f.nodes.addText front, outer) := by
  induction f with
  | nil =>
    intro opened text outer front ht h
    exact builds_text front ht h
  | text s rest ih =>
    intro opened text outer front ht h
    have := ih (front ++ s.toList) ht h
    rw [addText_append, escape, List.flatMap_append, List.append_assoc] at this
    rw [Forest.print, List.append_assoc]
    exact this
  | aside a rest ih =>
    intro opened text outer front ht h
    rw [Forest.print, List.append_assoc]
    exact builds_text front (by simp [Aside.print]) (builds_aside a (ih [] ht h))
  | leaf name attributes rest ih =>
    intro opened text outer front ht h
    rw [Forest.print, List.append_assoc]
    exact builds_text front (by simp [emptyTag]) (builds_emptyTag name attributes (ih [] ht h))
  | element name attributes children rest ihc ihr =>
    intro opened text outer front ht h
    have after := builds_endTag name (ihr [] ht h)
    have whole := builds_startTag name attributes (ihc [] (by simp [endTag]) after)
    rw [Forest.print]
    simp only [List.append_assoc]
    exact builds_text front (by simp [startTag]) whole

/-- **A written forest is read as its nodes**, unless it begins with a byte order mark. -/
theorem read_forest {f : Forest} (h : f.print.head? ≠ some '\uFEFF') : read f.print = .ok f.nodes := by
  have whole : Builds [] f.print (f.nodes, []) := by
    have := builds_forest f [] (by simp) builds_nil
    rwa [List.append_nil] at this
  unfold read tokens
  split
  next rest hp => exact absurd (by rw [hp]; rfl) h
  next => rw [whole _ 0 (Nat.lt_succ_self _)]; rfl

end Nodes

end PackageAudit.Markup
