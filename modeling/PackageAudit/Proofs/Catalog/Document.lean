import PackageAudit.Catalog.Load
import PackageAudit.Proofs.Failure
import PackageAudit.Proofs.Lists
import PackageAudit.Proofs.Markup.Nodes

/-!
# The entries of a written document

`Forest.entries` says which elements of a forest are the entries of a group: those that stand in a group element of
the wanted section of a root element, in document order. A document that was written is read as the entries of its
forest, and a catalog depends on nothing else in it (`read_print`).

The reader goes over the tokens of the text with the list of open elements. `Ends` says what becomes of that, whatever
the fuel and the offsets, and `Reads opened text d` that it ends with the entries `d`; one lemma for each kind of token
puts what stands in front of a text that is read (`ends_text`, `reads_aside`, `reads_startTag`, `reads_emptyTag`,
`reads_endTag`), and `reads_forest` puts a whole forest there, by induction on the forest.
Any other text that stands for nodes is accepted as well, whatever the section (`exists_read_of_nodes`).
-/

namespace PackageAudit

open Markup

/-! ## The entries of a forest -/

namespace Markup.Forest

/-- The entries of a group: the attributes of the elements that stand in an element with the name of the group, in an
element with the name of the section, in an element at the top. -/
def entries (f : Forest) (sectionName : String) (group : Group) : List Entry :=
  f.trees.flatMap fun root =>
    (root.children.treesNamed sectionName).flatMap fun part =>
      (part.children.treesNamed group.token).flatMap fun groupTree =>
        groupTree.children.trees.map fun entry => ⟨entry.attributes.texts⟩

/-- The entries of all groups. -/
def document (f : Forest) (sectionName : String) : Document where
  whens := f.entries sectionName .whens
  actions := f.entries sectionName .actions
  rules := f.entries sectionName .rules

end Markup.Forest

namespace Document

/-- A document with more entries in front of each group. -/
def prepend (front : Group → List Entry) (d : Document) : Document where
  whens := front .whens ++ d.whens
  actions := front .actions ++ d.actions
  rules := front .rules ++ d.rules

theorem prepend_prepend (front back : Group → List Entry) (d : Document) :
    (d.prepend back).prepend front = d.prepend fun group => front group ++ back group := by
  simp [prepend]

/-! ## What an element adds -/

variable {sectionName : String} {opened : List String} {d : Document}

/-- The entries that an element is by itself, given the open elements. -/
def own (sectionName : String) (opened : List String) (attributes : Attributes) (group : Group) : List Entry :=
  if groupOf? sectionName opened = some group then [⟨attributes.texts⟩] else []

/-- The entries in a forest, given the elements that are open around it. -/
def found (sectionName : String) : List String → Forest → Group → List Entry
  | _, .nil, _ => []
  | opened, .text _ rest, group => found sectionName opened rest group
  | opened, .aside _ rest, group => found sectionName opened rest group
  | opened, .leaf _ attributes rest, group =>
    own sectionName opened attributes group ++ found sectionName opened rest group
  | opened, .element name attributes children rest, group =>
    own sectionName opened attributes group
      ++ (found sectionName (name.text :: opened) children group ++ found sectionName opened rest group)

/-- An element is put in front of the group that it is an entry of. -/
theorem prepend_own (attributes : Attributes) :
    d.prepend (own sectionName opened attributes)
      = match groupOf? sectionName opened with
        | none => d
        | some group => d.cons group ⟨attributes.texts⟩ := by
  unfold own
  cases groupOf? sectionName opened with
  | none => simp [prepend]
  | some group => cases group <;> simp [prepend, cons]

/-! ## Reading from inside a document -/

/-- From inside a document, with some elements open, reading the rest of the text ends as `outcome` says. -/
def Ends (sectionName : String) (opened : List String) (outcome : Except Malformed Document → Prop)
    (text : List Char) : Prop :=
  ∀ fuel offset position, text.length < fuel →
    outcome (ofTokens sectionName opened position (tokensFrom fuel offset text))

/-- From inside a document, with some elements open, the rest of the text is read as the entries of `d`. -/
def Reads (sectionName : String) (opened : List String) (text : List Char) (d : Document) : Prop :=
  Ends sectionName opened (· = .ok d) text

theorem reads_nil (sectionName : String) : Reads sectionName [] [] {} := by
  intro fuel offset position hf
  obtain ⟨fuel, rfl⟩ : ∃ n, fuel = n + 1 := ⟨fuel - 1, by simp at hf; omega⟩
  rfl

section Ends

variable {outcome : Except Malformed Document → Prop}

/-- Markup ends as its token does before what follows it. -/
theorem ends_markup {token : Token} {text rest : List Char} (h : readMarkup text = .ok (token, rest))
    (hlen : rest.length ≤ text.length)
    (step : ∀ fuel offset offset' position, rest.length < fuel →
      outcome (ofTokens sectionName opened position ((offset, token) :: tokensFrom fuel offset' rest))) :
    Ends sectionName opened outcome ('<' :: text) := by
  intro fuel offset position hf
  obtain ⟨fuel, rfl⟩ : ∃ n, fuel = n + 1 := ⟨fuel - 1, by omega⟩
  rw [tokensFrom_markup h]
  exact step fuel offset _ position (by simp at hf; omega)

/-- Text in front of markup, or at the end, is passed over. -/
theorem ends_text {chars text : List Char} (hc : '<' ∉ chars) (ht : ∀ c ∈ text.head?, c = '<')
    (h : Ends sectionName opened outcome text) : Ends sectionName opened outcome (chars ++ text) := by
  cases chars with
  | nil => exact h
  | cons c chars =>
    intro fuel offset position hf
    obtain ⟨fuel, rfl⟩ : ∃ n, fuel = n + 1 := ⟨fuel - 1, by simp at hf; omega⟩
    rw [tokensFrom_text hc ht]
    simp only [ofTokens]
    exact h fuel _ _ (by simp at hf; omega)

end Ends

theorem reads_aside (a : Aside) {text : List Char} (h : Reads sectionName opened text d) :
    Reads sectionName opened (a.print ++ text) d := by
  unfold Aside.print
  rw [List.cons_append, List.cons_append, List.cons_append]
  refine ends_markup (readMarkup_aside a text) (by simp; omega) fun fuel _ offset' _ hf => ?_
  simp only [ofTokens]
  exact h fuel offset' none hf

theorem reads_endTag (name : Name) {text : List Char} (h : Reads sectionName opened text d) :
    Reads sectionName (name.text :: opened) (endTag name.text ++ text) d := by
  have written : endTag name.text ++ text = '<' :: ('/' :: name.text.toList ++ '>' :: text) := by simp [endTag]
  rw [written]
  refine ends_markup (readMarkup_endTag name text) (by simp; omega) fun fuel _ offset' _ hf => ?_
  simp only [ofTokens, String.ofList_toList, if_true]
  exact h fuel offset' none hf

/-- What a tag adds is put in front of the entries that follow it. -/
theorem ofTokens_collect (attributes : Attributes) {rest : Except Malformed Document} {name : Name} {position : Nat}
    (h : rest = .ok d) :
    (match groupOf? sectionName opened with
      | none => rest
      | some group => do
        let entry ← (readEntry (tagContent name.text attributes.texts)).mapError (⟨position, ·⟩)
        rest.map (cons group entry)) = .ok (d.prepend (own sectionName opened attributes)) := by
  rw [prepend_own, readEntry, readAttributes_tagContent, h]
  cases groupOf? sectionName opened with
  | none => rfl
  | some group => rfl

theorem reads_startTag (name : Name) (attributes : Attributes) {text : List Char}
    (h : Reads sectionName (name.text :: opened) text d) :
    Reads sectionName opened (startTag name.text attributes.texts ++ text)
      (d.prepend (own sectionName opened attributes)) := by
  have written : startTag name.text attributes.texts ++ text
      = '<' :: (tagContent name.text attributes.texts ++ '>' :: text) := by simp [startTag]
  rw [written]
  refine ends_markup (readMarkup_startTag name attributes text) (by simp; omega) fun fuel _ offset' _ hf => ?_
  have rest := h fuel offset' none hf
  simp only [ofTokens, tagName_tagContent, String.ofList_toList]
  exact ofTokens_collect attributes rest

theorem reads_emptyTag (name : Name) (attributes : Attributes) {text : List Char}
    (h : Reads sectionName opened text d) :
    Reads sectionName opened (emptyTag name.text attributes.texts ++ text)
      (d.prepend (own sectionName opened attributes)) := by
  have written : emptyTag name.text attributes.texts ++ text
      = '<' :: (tagContent name.text attributes.texts ++ '/' :: '>' :: text) := by simp [emptyTag]
  rw [written]
  refine ends_markup (readMarkup_emptyTag name attributes text) (by simp; omega) fun fuel _ offset' _ hf => ?_
  have rest := h fuel offset' none hf
  simp only [ofTokens]
  exact ofTokens_collect attributes rest

/-- **A forest in front of a text**: its entries are put in front of those of the text. The characters in `chars` are
those between the last tag and the forest, which one token holds together with the first text of the forest. -/
theorem reads_forest (f : Forest) : ∀ {opened : List String} {chars text : List Char} {d : Document}, '<' ∉ chars →
    (∀ c ∈ text.head?, c = '<') → Reads sectionName opened text d →
    Reads sectionName opened (chars ++ (f.print ++ text)) (d.prepend (found sectionName opened f)) := by
  induction f with
  | nil =>
    intro opened chars text d hc ht h
    exact ends_text hc ht h
  | text s rest ih =>
    intro opened chars text d hc ht h
    have hs : '<' ∉ chars ++ escape s.toList := by
      rw [List.mem_append, not_or]
      exact ⟨hc, fun hm => (mem_escape hm).1 rfl⟩
    have := ih hs ht h
    rw [List.append_assoc] at this
    rw [Forest.print, List.append_assoc]
    exact this
  | aside a rest ih =>
    intro opened chars text d hc ht h
    rw [Forest.print, List.append_assoc]
    refine ends_text hc (by simp [Aside.print]) (reads_aside a ?_)
    exact ih List.not_mem_nil ht h
  | leaf name attributes rest ih =>
    intro opened chars text d hc ht h
    have tail := reads_emptyTag name attributes (ih List.not_mem_nil ht h)
    rw [prepend_prepend] at tail
    rw [Forest.print, List.append_assoc]
    exact ends_text hc (by simp [emptyTag]) tail
  | element name attributes children rest ihc ihr =>
    intro opened chars text d hc ht h
    have after := reads_endTag name (ihr List.not_mem_nil ht h)
    have inside := ihc List.not_mem_nil (by simp [endTag]) after
    have tail := reads_startTag name attributes inside
    rw [prepend_prepend, prepend_prepend] at tail
    rw [Forest.print]
    simp only [List.append_assoc, List.nil_append] at tail ⊢
    exact ends_text hc (by simp [startTag]) tail

/-! ## The whole text -/

/-- A byte order mark in front is the first character of a text, and the forest without it has the same entries. -/
theorem exists_print_eq_append (sectionName : String) {f : Forest} {c : Char} {rest : List Char}
    (h : f.print = c :: rest) (hc : c ≠ '<') :
    ∃ chars g, '<' ∉ chars ∧ rest = chars ++ g.print
      ∧ ∀ opened, found sectionName opened f = found sectionName opened g := by
  induction f with
  | nil => cases h
  | text s tail ih =>
    rw [Forest.print] at h
    cases hs : escape s.toList with
    | nil =>
      rw [hs] at h
      exact ih h
    | cons d chars =>
      rw [hs] at h
      refine ⟨chars, tail, fun hm => (mem_escape (hs ▸ List.mem_cons_of_mem _ hm)).1 rfl, ?_, fun _ => rfl⟩
      exact (List.cons.inj h).2.symm
  | aside a tail => exact absurd (List.cons.inj h).1.symm hc
  | leaf name attributes tail => exact absurd (List.cons.inj h).1.symm hc
  | element name attributes children tail => exact absurd (List.cons.inj h).1.symm hc

/-- **A written forest is read as its entries.** -/
theorem read_eq_found (sectionName : String) (f : Forest) :
    read (String.ofList f.print) sectionName = .ok (prepend (found sectionName [] f) {}) := by
  have whole (chars : List Char) (g : Forest) (hc : '<' ∉ chars) :
      Reads sectionName [] (chars ++ g.print) (prepend (found sectionName [] g) {}) := by
    have := reads_forest g hc (by simp) (reads_nil sectionName)
    rwa [List.append_nil] at this
  unfold read tokens
  rw [String.toList_ofList]
  split
  next rest h =>
    obtain ⟨chars, g, hc, hr, hg⟩ := exists_print_eq_append sectionName h (by decide)
    rw [hr, hg]
    exact whole chars g hc _ 0 none (Nat.lt_succ_self _)
  next => exact whole [] f List.not_mem_nil _ 0 none (Nat.lt_succ_self _)

/-! ## Where entries stand -/

/-- The entries in a forest are those that its elements are and those inside them. -/
theorem found_eq_flatMap (sectionName : String) (opened : List String) (f : Forest) (group : Group) :
    found sectionName opened f group = f.trees.flatMap fun t =>
      own sectionName opened t.attributes group ++ found sectionName (t.name.text :: opened) t.children group := by
  induction f with
  | nil => rfl
  | text _ rest ih => exact ih
  | aside _ rest ih => exact ih
  | leaf name attributes rest ih => simp [found, Forest.trees, ih]
  | element name attributes children rest _ ih => simp [found, Forest.trees, ih]

theorem ofToken?_eq_some_iff {name : String} {group : Group} :
    Group.ofToken? name = some group ↔ name = group.token := by
  constructor
  · intro h
    have := List.find?_some h
    exact (eq_of_beq this).symm
  · rintro rfl
    cases group <;> rfl

/-- Elements that are opened deeper than the entries add nothing. -/
theorem found_deep (group : Group) (f : Forest) : ∀ {opened : List String}, 4 ≤ opened.length →
    found sectionName opened f group = [] := by
  have none_of_deep : ∀ {opened : List String}, 4 ≤ opened.length → groupOf? sectionName opened = none := by
    intro opened h
    match opened, h with
    | _ :: _ :: _ :: _ :: _, _ => rfl
  induction f with
  | nil => intro opened _; rfl
  | text _ rest ih => exact ih
  | aside _ rest ih => exact ih
  | leaf name attributes rest ih =>
    intro opened h
    simp [found, own, none_of_deep h, ih h]
  | element name attributes children rest ihc ihr =>
    intro opened h
    have inside : found sectionName (name.text :: opened) children group = [] := ihc (by simp; omega)
    simp [found, own, none_of_deep h, inside, ihr h]

/-- Inside a group of the section every element is an entry. -/
theorem found_in_group (name parent root : String) (f : Forest) (group : Group) :
    found sectionName [name, parent, root] f group
      = if parent = sectionName ∧ name = group.token then f.trees.map fun t => ⟨t.attributes.texts⟩ else [] := by
  have one (t : Forest.Tree) : own sectionName [name, parent, root] t.attributes group
      ++ found sectionName (t.name.text :: [name, parent, root]) t.children group
        = if parent = sectionName ∧ name = group.token then [⟨t.attributes.texts⟩] else [] := by
    rw [found_deep group t.children (by simp), List.append_nil]
    unfold own groupOf?
    by_cases hp : parent = sectionName
    · simp [hp, ofToken?_eq_some_iff]
    · simp [hp]
  rw [found_eq_flatMap]
  simp only [one]
  split
  · exact List.map_eq_flatMap.symm
  · simp

/-- An element that fewer than three elements are open around is no entry. -/
theorem own_shallow (attributes : Attributes) (group : Group) :
    ∀ opened : List String, opened.length < 3 → own sectionName opened attributes group = []
  | [], _ => rfl
  | [_], _ => rfl
  | [_, _], _ => rfl

/-- Inside the section the entries are those in the group elements. -/
theorem found_in_section (parent root : String) (f : Forest) (group : Group) :
    found sectionName [parent, root] f group
      = if parent = sectionName then
          (f.treesNamed group.token).flatMap fun t => t.children.trees.map fun entry => ⟨entry.attributes.texts⟩
        else [] := by
  rw [found_eq_flatMap, Forest.treesNamed, flatMap_filter]
  simp only [own_shallow _ group [parent, root] (by simp), List.nil_append, found_in_group]
  by_cases h : parent = sectionName <;> simp [h]

/-- **The entries found in a whole forest** are those of its groups. -/
theorem found_eq_entries (sectionName : String) (f : Forest) (group : Group) :
    found sectionName [] f group = f.entries sectionName group := by
  have inRoot (root : Forest.Tree) : found sectionName [root.name.text] root.children group
      = (root.children.treesNamed sectionName).flatMap fun part =>
          (part.children.treesNamed group.token).flatMap fun t =>
            t.children.trees.map fun entry => ⟨entry.attributes.texts⟩ := by
    rw [found_eq_flatMap, Forest.treesNamed, flatMap_filter]
    simp only [own_shallow _ group [root.name.text] (by simp), List.nil_append, found_in_section, beq_iff_eq]
  rw [found_eq_flatMap, Forest.entries]
  simp only [own_shallow _ group [] (by simp), List.nil_append, inRoot]

theorem read_forest (sectionName : String) (f : Forest) :
    read (String.ofList f.print) sectionName = .ok (f.document sectionName) := by
  rw [read_eq_found]
  simp [prepend, Forest.document, found_eq_entries]

end Document

namespace Catalog

theorem parse_forest (sectionName : String) (f : Forest) :
    parse (String.ofList f.print) sectionName = ofDocument (f.document sectionName) := by
  rw [parse, Document.read_forest]
  rfl

end Catalog

namespace Document

/-- **Reading what was written.** A written forest is read as the document of its entries, and so forests with the
same entries in each group define the same catalog, or fail with the same error. -/
theorem read_print (sectionName : String) :
    (∀ f : Forest, read (String.ofList f.print) sectionName = .ok (f.document sectionName))
    ∧ ∀ f g : Forest, (∀ group, f.entries sectionName group = g.entries sectionName group) →
      Catalog.parse (String.ofList f.print) sectionName = Catalog.parse (String.ofList g.print) sectionName := by
  refine ⟨read_forest sectionName, fun f g h => ?_⟩
  rw [Catalog.parse_forest, Catalog.parse_forest]
  unfold Forest.document
  rw [h .whens, h .actions, h .rules]

/-- A catalog with two actions in one group. -/
def together : Forest :=
  let actions : Forest := .leaf ⟨"action", by decide⟩ ⟨[(⟨"name", by decide⟩, "a<b")], by decide⟩
    (.leaf ⟨"action", by decide⟩ ⟨[(⟨"name", by decide⟩, "c")], by decide⟩ .nil)
  .element ⟨"catalog", by decide⟩ .none
    (.element ⟨"checks", by decide⟩ .none (.element ⟨"actions", by decide⟩ .none actions .nil) .nil) .nil

/-- The same actions in two groups, with an empty group and a text between them. The first action has content, and a
section of another name stands behind. -/
def apart : Forest :=
  let inner : Forest := .leaf ⟨"action", by decide⟩ ⟨[(⟨"name", by decide⟩, "inside")], by decide⟩ .nil
  let first : Forest := .element ⟨"action", by decide⟩ ⟨[(⟨"name", by decide⟩, "a<b")], by decide⟩ inner .nil
  let second : Forest := .leaf ⟨"call", by decide⟩ ⟨[(⟨"name", by decide⟩, "c")], by decide⟩ .nil
  let groups : Forest := .element ⟨"actions", by decide⟩ .none first
    (.leaf ⟨"rules", by decide⟩ .none (.text "&" (.element ⟨"actions", by decide⟩ .none second .nil)))
  .element ⟨"catalog", by decide⟩ .none
    (.element ⟨"checks", by decide⟩ .none groups
      (.element ⟨"others", by decide⟩ .none (.element ⟨"actions", by decide⟩ .none inner .nil) .nil)) .nil

/-- Splitting a group and adding content elsewhere leaves the catalog as it is. -/
theorem parse_together_eq_parse_apart :
    (∀ group, together.entries "checks" group = apart.entries "checks" group)
      ∧ Catalog.parse (String.ofList together.print) "checks"
        = Catalog.parse (String.ofList apart.print) "checks" := by
  have same : ∀ group, together.entries "checks" group = apart.entries "checks" group := by
    intro group
    cases group <;> rfl
  exact ⟨same, (read_print "checks").2 together apart same⟩

def sampleRoot : Name := ⟨"catalog", by decide⟩

def sampleSection : Name := ⟨"checks", by decide⟩

/-! ## Other documents -/

/-- A tag with attributes is accepted in front of entries that are. -/
theorem exists_collect {content : List Char} {attributes : List (String × String)} {rest : Except Malformed Document}
    {position : Nat} (ha : readAttributes content = .ok attributes) (hr : ∃ d, rest = .ok d) :
    ∃ d, (match groupOf? sectionName opened with
      | none => rest
      | some group => do
        let entry ← (readEntry content).mapError (⟨position, ·⟩)
        rest.map (cons group entry)) = .ok d := by
  obtain ⟨d, rfl⟩ := hr
  rw [readEntry, ha]
  cases groupOf? sectionName opened with
  | none => exact ⟨_, rfl⟩
  | some group => exact ⟨_, rfl⟩

/-- Tokens that stand for nodes are accepted by the reader of catalogs, whatever the section. -/
theorem exists_ofTokens_of_nodes (sectionName : String) : ∀ {tokens : List (Nat × Token)}
    {opened : List String} {position : Option Nat} {result : Nodes × List Nodes},
    Nodes.ofTokens opened tokens = .ok result → ∃ d, ofTokens sectionName opened position tokens = .ok d
  | [], _, _, _, _ => ⟨_, rfl⟩
  | (offset, token) :: rest, opened, position, result, h => by
    cases token with
    | text chars =>
      obtain ⟨_, -, h⟩ := exists_of_bind_eq_ok h
      obtain ⟨_, hr, -⟩ := exists_of_bind_eq_ok h
      simp only [ofTokens]
      exact exists_ofTokens_of_nodes sectionName hr
    | start content =>
      obtain ⟨_, ha, h⟩ := exists_of_bind_eq_ok h
      obtain ⟨_, hr, -⟩ := exists_of_bind_eq_ok h
      exact exists_collect ha (exists_ofTokens_of_nodes sectionName hr)
    | empty content =>
      obtain ⟨_, ha, h⟩ := exists_of_bind_eq_ok h
      obtain ⟨_, hr, -⟩ := exists_of_bind_eq_ok h
      exact exists_collect ha (exists_ofTokens_of_nodes sectionName hr)
    | close name =>
      cases opened with
      | nil => cases h
      | cons expected around =>
        simp only [Nodes.ofTokens] at h
        split at h
        next same =>
          obtain ⟨_, hr, -⟩ := exists_of_bind_eq_ok h
          simp only [ofTokens, if_pos same]
          exact exists_ofTokens_of_nodes sectionName hr
        next => cases h
    | other =>
      simp only [ofTokens]
      exact exists_ofTokens_of_nodes sectionName h
    | broken fault => cases h
    | finish =>
      cases opened with
      | nil => exact ⟨_, rfl⟩
      | cons name around => cases h

theorem exists_read_of_nodes (sectionName : String) {text : String} {nodes : Nodes}
    (h : Nodes.read text.toList = .ok nodes) : ∃ d, read text sectionName = .ok d := by
  obtain ⟨_, hr, -⟩ := exists_of_map_eq_ok h
  exact exists_ofTokens_of_nodes sectionName hr

end Document
end PackageAudit
