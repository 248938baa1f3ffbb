import PackageAudit.Proofs.Catalog.RoundTrip
import PackageAudit.Proofs.Lists
import PackageAudit.Proofs.Markup.Layout
import PackageAudit.Proofs.Markup.Read

/-!
# Documents that are cut short

A document that ends anywhere inside its root element is malformed, whatever its layout and whatever entries were
collected before the end; so it never passes as a catalog with some of its rules (`Catalog.parse_truncated`).

From inside a document reading fails (`Fails`) if it fails behind the next piece (`fails_piece`), or if the next piece
is cut short. `FailsAnywhere` says that it fails wherever the text ends. While an element is open that is kept by
putting a piece in front (`failsAnywhere_piece`), and so by any content (`failsAnywhere_content`, by induction on the
content).
-/

namespace PackageAudit

open Markup Markup.Layout

namespace Document

variable {sectionName : String} {opened : List String}

/-- From inside a document, with some elements open, reading the rest of the text fails. -/
def Fails (sectionName : String) (opened : List String) (text : List Char) : Prop :=
  Ends sectionName opened (fun result => ∃ m, result = .error m) text

/-! ## One piece -/

theorem fails_nil (h : opened ≠ []) : Fails sectionName opened [] := by
  intro fuel offset position hf
  obtain ⟨fuel, rfl⟩ : ∃ n, fuel = n + 1 := ⟨fuel - 1, by simp at hf; omega⟩
  obtain ⟨name, outer, rfl⟩ := List.exists_cons_of_ne_nil h
  exact ⟨_, rfl⟩

theorem fails_broken {text : List Char} {fault : Fault} (h : readMarkup text = .error fault) :
    Fails sectionName opened ('<' :: text) := by
  intro fuel offset position hf
  obtain ⟨fuel, rfl⟩ : ∃ n, fuel = n + 1 := ⟨fuel - 1, by omega⟩
  rw [tokensFrom, if_pos rfl, h]
  exact ⟨_, rfl⟩

/-- The elements that are open behind a token, if it is accepted. -/
def afterToken (opened : List String) : Token → List String
  | .start content => String.ofList (tagName content) :: opened
  | .close _ => opened.tail
  | _ => opened

/-- A tag does not undo a failure behind it. -/
theorem exists_collect_error (content : List Char) {rest : Except Malformed Document} {position : Nat}
    (h : ∃ m, rest = .error m) :
    ∃ m, (match groupOf? sectionName opened with
      | none => rest
      | some group => do
        let entry ← (readEntry content).mapError (⟨position, ·⟩)
        rest.map (cons group entry)) = .error m := by
  obtain ⟨m, rfl⟩ := h
  cases groupOf? sectionName opened with
  | none => exact ⟨m, rfl⟩
  | some group =>
    cases readEntry content with
    | error fault => exact ⟨_, rfl⟩
    | ok entry => exact ⟨m, rfl⟩

/-- A token does not undo a failure behind it. -/
theorem exists_ofTokens_error {token : Token} {rest : List (Nat × Token)} (offset : Nat) (position : Option Nat)
    (unfinished : token ≠ .finish)
    (h : ∀ position, ∃ m, ofTokens sectionName (afterToken opened token) position rest = .error m) :
    ∃ m, ofTokens sectionName opened position ((offset, token) :: rest) = .error m := by
  cases token with
  | text chars => exact h _
  | other => exact h none
  | start content => exact exists_collect_error content (h none)
  | empty content => exact exists_collect_error content (h none)
  | broken fault => exact ⟨_, rfl⟩
  | finish => exact absurd rfl unfinished
  | close name =>
    cases opened with
    | nil => exact ⟨_, rfl⟩
    | cons expected outer =>
      simp only [ofTokens]
      split
      · exact h none
      · exact ⟨_, rfl⟩

theorem ne_finish_of_readMarkup {text rest : List Char} {token : Token} (h : readMarkup text = .ok (token, rest)) :
    token ≠ .finish := by
  rintro rfl
  cases (isMarkup_of_readMarkup h).1

variable {piece text : List Char} {token : Token}

theorem fails_piece (whole : readMarkup piece = .ok (token, []))
    (h : Fails sectionName (afterToken opened token) text) : Fails sectionName opened ('<' :: (piece ++ text)) :=
  ends_markup (readMarkup_append text whole) (by simp) fun _ offset offset' position hf =>
    exists_ofTokens_error offset position (ne_finish_of_readMarkup whole) fun position => h _ offset' position hf

/-! ## Wherever the text ends -/

/-- From inside a document, with some elements open, reading fails wherever the text ends; where no element is open,
at least one character has to be there. -/
def FailsAnywhere (sectionName : String) (opened : List String) (text : List Char) : Prop :=
  ∀ part, part <+: text → (part = [] → opened ≠ []) → Fails sectionName opened part

theorem fails_cut {part : List Char} (whole : readMarkup piece = .ok (token, [])) (short : part <+: piece)
    (proper : part ≠ piece) : Fails sectionName opened ('<' :: part) := by
  obtain ⟨fault, hf⟩ := exists_readMarkup_error whole short proper
  exact fails_broken hf

/-- Reading fails anywhere in a piece without its last character. -/
theorem failsAnywhere_cut {last : Char} (whole : readMarkup (piece ++ [last]) = .ok (token, [])) :
    FailsAnywhere sectionName opened ('<' :: piece) := by
  intro part hp hne
  rcases List.prefix_cons_iff.mp hp with rfl | ⟨part, rfl, short⟩
  · exact fails_nil (hne rfl)
  · refine fails_cut whole (short.trans (List.prefix_append _ _)) ?_
    rintro rfl
    have := short.length_le
    simp only [List.length_append, List.length_singleton] at this
    omega

/-- Reading fails in a piece, and behind it if it fails from there. -/
theorem failsAnywhere_piece (whole : readMarkup piece = .ok (token, []))
    (inside : afterToken opened token ≠ []) (h : FailsAnywhere sectionName (afterToken opened token) text) :
    FailsAnywhere sectionName opened ('<' :: (piece ++ text)) := by
  intro part hp hne
  rcases List.prefix_cons_iff.mp hp with rfl | ⟨part, rfl, within⟩
  · exact fails_nil (hne rfl)
  · rcases prefix_append_cases within with ⟨short, proper⟩ | ⟨tail, rfl, ht⟩
    · exact fails_cut whole short proper
    · exact fails_piece whole (h tail ht fun _ => inside)

/-- With an element open reading fails in a text without tags, and behind it if it fails from there. -/
theorem failsAnywhere_text {chars : List Char} (hc : '<' ∉ chars) (ht : ∀ c ∈ text.head?, c = '<')
    (inside : opened ≠ []) (h : FailsAnywhere sectionName opened text) :
    FailsAnywhere sectionName opened (chars ++ text) := by
  intro part hp _
  rcases prefix_append_cases hp with ⟨short, -⟩ | ⟨tail, rfl, within⟩
  · have plain : '<' ∉ part := fun hm => hc (short.subset hm)
    have := ends_text plain (by simp) (fails_nil inside : Fails sectionName opened [])
    rwa [List.append_nil] at this
  · refine ends_text hc (fun c hm => ?_) (h tail within fun _ => inside)
    obtain ⟨more, rfl⟩ := within
    exact ht c (by rw [List.head?_append, hm]; rfl)

/-- Reading fails in an aside, and behind it if it fails from there. -/
theorem failsAnywhere_aside (a : Aside) (inside : opened ≠ []) (h : FailsAnywhere sectionName opened text) :
    FailsAnywhere sectionName opened (a.print ++ text) := by
  have whole := readMarkup_aside a []
  rw [List.append_nil] at whole
  exact failsAnywhere_piece whole inside h

theorem failsAnywhere_single (tag : Tag) (inside : opened ≠ []) (h : FailsAnywhere sectionName opened text) :
    FailsAnywhere sectionName opened (tag.single ++ text) :=
  failsAnywhere_piece tag.readMarkup_single inside h

/-- Reading fails in a start tag, and behind it if it fails from there with the element open. -/
theorem failsAnywhere_opening (tag : Tag)
    (h : FailsAnywhere sectionName (String.ofList (tagName tag.content) :: opened) text) :
    FailsAnywhere sectionName opened (tag.opening ++ text) :=
  failsAnywhere_piece tag.readMarkup_opening (List.cons_ne_nil _ _) h

/-- Reading fails in an end tag, and behind it if it fails from there with one element less open. -/
theorem failsAnywhere_closing (name : Name) (after : Blanks) (expected : String) (inside : opened ≠ [])
    (h : FailsAnywhere sectionName opened text) :
    FailsAnywhere sectionName (expected :: opened) (closing name after ++ text) :=
  failsAnywhere_piece (readMarkup_closing name after) inside h

/-- **With an element open reading fails anywhere in content**, and behind it if it fails from there. The characters in
`chars` are those between the last tag and the content. -/
theorem failsAnywhere_content (c : Content) : ∀ {opened : List String} {chars text : List Char}, '<' ∉ chars →
    (∀ c ∈ text.head?, c = '<') → opened ≠ [] → FailsAnywhere sectionName opened text →
    FailsAnywhere sectionName opened (chars ++ (c.print ++ text)) := by
  induction c with
  | nil =>
    intro opened chars text hc ht inside h
    exact failsAnywhere_text hc ht inside h
  | text run rest ih =>
    intro opened chars text hc ht inside h
    have plain : '<' ∉ chars ++ run.chars.toList := by
      rw [List.mem_append, not_or]
      exact ⟨hc, run.plain⟩
    have := ih plain ht inside h
    rw [List.append_assoc] at this
    rwa [Content.print, List.append_assoc]
  | aside a rest ih =>
    intro opened chars text hc ht inside h
    have tail := failsAnywhere_aside a inside (ih List.not_mem_nil ht inside h)
    rw [Content.print, List.append_assoc]
    exact failsAnywhere_text hc (by simp [Aside.print]) inside tail
  | leaf tag rest ih =>
    intro opened chars text hc ht inside h
    have tail := failsAnywhere_single tag inside (ih List.not_mem_nil ht inside h)
    rw [Content.print, List.append_assoc]
    exact failsAnywhere_text hc (by simp [Tag.single]) inside tail
  | element tag children after rest ihc ihr =>
    intro opened chars text hc ht inside h
    have behind := failsAnywhere_closing tag.name after (String.ofList (tagName tag.content)) inside
      (ihr List.not_mem_nil ht inside h)
    have within := ihc List.not_mem_nil (by simp [closing]) (List.cons_ne_nil _ _) behind
    have tail := failsAnywhere_opening tag within
    rw [Content.print]
    simp only [List.append_assoc, List.nil_append] at tail ⊢
    exact failsAnywhere_text hc (by simp [Tag.opening]) inside tail

/-! ## Whole documents -/

/-- Reading fails anywhere in the root element if at least one character of it is there and its last one is not. -/
theorem fails_root (d : Whole) {part : List Char} (hp : part <+: d.root) (hne : part ≠ []) (proper : part ≠ d.root) :
    Fails sectionName [] part := by
  let closingPart := '/' :: (d.tag.name.text.toList ++ d.closingBlanks.chars)
  have root_eq : d.root = d.tag.opening ++ (d.children.print ++ '<' :: closingPart) ++ ['>'] := by
    simp [Whole.root, closing, closingPart]
  have cut : FailsAnywhere sectionName [String.ofList (tagName d.tag.content)] ('<' :: closingPart) :=
    failsAnywhere_cut (readMarkup_closing d.tag.name d.closingBlanks)
  have within := failsAnywhere_content d.children List.not_mem_nil (by simp) (List.cons_ne_nil _ _) cut
  rw [root_eq] at hp proper
  have short := (List.prefix_concat_iff.mp hp).resolve_left proper
  exact failsAnywhere_opening d.tag within part short fun he => absurd he hne

/-- Asides and texts in front of markup do not undo a failure behind them. -/
theorem fails_asides {text : List Char} (ht : ∀ c ∈ text.head?, c = '<') (h : Fails sectionName opened text) :
    ∀ (asides : List (Aside × Run)) {chars : List Char}, '<' ∉ chars →
      Fails sectionName opened (chars ++ (asides.flatMap (fun p => p.1.print ++ p.2.chars.toList) ++ text))
  | [], chars, hc => ends_text hc ht h
  | (a, run) :: asides, chars, hc => by
    have whole := readMarkup_aside a []
    rw [List.append_nil] at whole
    have tail := fails_piece whole (fails_asides ht h asides run.plain)
    rw [List.flatMap_cons, List.append_assoc, List.append_assoc]
    exact ends_text hc (by simp [Aside.print]) tail

/-- A document cannot be read if reading fails behind its margin. -/
theorem exists_read_error (m : Margin) {text : List Char} (h : Fails sectionName [] ('<' :: text)) :
    ∃ e, read (String.ofList (m.print ++ '<' :: text)) sectionName = .error e := by
  have tail {chars : List Char} (hc : '<' ∉ chars) := fails_asides (by simp) h m.asides hc
  have fails {chars : List Char} (hc : '<' ∉ chars) := tail hc _ 0 none (Nat.lt_succ_self _)
  unfold read tokens Margin.print
  rw [String.toList_ofList, List.append_assoc]
  split
  next rest mark =>
    -- a byte order mark belongs to the text in front of the first aside
    have plain := m.lead.plain
    cases hl : m.lead.chars.toList with
    | nil =>
      rw [hl, List.nil_append] at mark
      cases ha : m.asides with
      | nil => simp [ha] at mark
      | cons p asides => simp [ha, Aside.print] at mark
    | cons c lead =>
      rw [hl] at mark plain
      obtain ⟨-, rfl⟩ := List.cons.inj mark
      exact fails fun hm => plain (List.mem_cons_of_mem _ hm)
  next => exact fails m.lead.plain

/-- A document that ends inside its root element cannot be read. -/
theorem exists_read_take_error (d : Whole) (sectionName : String) {n : Nat} (begun : d.before.print.length < n)
    (unfinished : n < d.before.print.length + d.root.length) :
    ∃ e, read (String.ofList (d.print.take n)) sectionName = .error e := by
  obtain ⟨k, rfl⟩ := Nat.exists_eq_add_of_lt begun
  have cut : d.print.take (d.before.print.length + k + 1) = d.before.print ++ d.root.take (k + 1) := by
    rw [Whole.print, Nat.add_assoc, List.take_length_add_append, List.take_append_of_le_length (by omega)]
  have first : d.root.take (k + 1) = '<' :: (d.root.take (k + 1)).tail := rfl
  have fails : Fails sectionName [] (d.root.take (k + 1)) := by
    refine fails_root d (List.take_prefix _ _) (by rw [first]; exact List.cons_ne_nil _ _) fun he => ?_
    have := congrArg List.length he
    rw [List.length_take] at this
    omega
  rw [cut]
  rw [first] at fails ⊢
  exact exists_read_error d.before fails

end Document

namespace Catalog

/-- **A document that is cut short is no catalog.** Where a document ends inside its root element, behind the first
character of it and before the last, it is malformed, and loading it gives the catalog without any definitions. -/
theorem parse_truncated (d : Whole) (sectionName : String) (n : Nat) (begun : d.before.print.length < n)
    (unfinished : n < d.before.print.length + d.root.length) :
    (∃ position fault, parse (String.ofList (d.print.take n)) sectionName = .error (.malformed position fault))
      ∧ load (some (String.ofList (d.print.take n))) sectionName = .ok empty := by
  obtain ⟨⟨position, fault⟩, hr⟩ := Document.exists_read_take_error d sectionName begun unfinished
  have malformed : parse (String.ofList (d.print.take n)) sectionName = .error (.malformed position fault) := by
    rw [parse, hr]
    rfl
  refine ⟨⟨position, fault, malformed⟩, ?_⟩
  rw [load, malformed]
  rfl

theorem unended_of_notMem (kind : AsideKind) {body : List Char} (h : '>' ∉ body) : ¬kind.closing <:+: body :=
  fun hi => h (hi.subset (by cases kind <;> decide))

/-- A document with a byte order mark, a declaration and a comment; an angle bracket stands in a value, blanks in two
end tags. Its only action is complete when it is cut in the next end tag. -/
def halfWritten : Whole :=
  let blank : Blanks := ⟨[' '], by simp [isSpace]⟩
  let none : Blanks := ⟨[], by simp⟩
  let name (quote : Quote) (value : String) (h : quote.mark ∉ value.toList) : Layout.Attribute :=
    ⟨blank, by simp [blank], Key.name.tag, none, blank, quote, value, h⟩
  let action : Content := .leaf ⟨Element.action.tag, [name .double "a&lt;b" (by decide)], none⟩ .nil
  let actions : Content := .element ⟨Group.actions.tag, [], none⟩ action blank .nil
  { before :=
      { lead := ⟨"\uFEFF", by decide⟩
        asides :=
          [(⟨.instruction, "xml version='1.0'", unended_of_notMem _ (by decide), by decide⟩, ⟨"\n", by decide⟩),
            (⟨.comment, " <catalog ", unended_of_notMem _ (by decide), by decide⟩, ⟨"\n", by decide⟩)] }
    tag := ⟨Document.sampleRoot, [name .single "x>y" (by decide)], none⟩
    children := .element ⟨Document.sampleSection, [], none⟩ (.text ⟨"&amp; ", by decide⟩ actions) none .nil
    closingBlanks := blank
    after := ⟨⟨"\n", by decide⟩, []⟩ }

/-- Cut in the end tag behind its action, the document is no catalog. -/
theorem load_halfWritten : halfWritten.before.print.length < 112
    ∧ 112 < halfWritten.before.print.length + halfWritten.root.length
    ∧ (∃ position fault,
        parse (String.ofList (halfWritten.print.take 112)) "checks" = .error (.malformed position fault))
    ∧ load (some (String.ofList (halfWritten.print.take 112))) "checks" = .ok empty := by
  have begun : halfWritten.before.print.length < 112 := by decide
  have unfinished : 112 < halfWritten.before.print.length + halfWritten.root.length := by decide
  exact ⟨begun, unfinished, parse_truncated halfWritten "checks" 112 begun unfinished⟩

end Catalog
end PackageAudit
