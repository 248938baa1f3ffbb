import PackageAudit.Markup.Attribute
import PackageAudit.Text.Blank

/-!
# Catalog documents

A catalog document lists entries at one place only: an entry is an element that stands directly in a group
(`whens`, `actions` or `rules`) of the wanted section of the root element, whatever its own name is.
`Document.read` collects the attributes of the entries; the rest of the document has to be balanced markup
and is otherwise ignored.
-/

namespace PackageAudit

/-- An entry of a catalog document: its attributes, in order. -/
structure Entry where
  attributes : List (String × String)
  deriving DecidableEq, Repr

/-- The groups of entries. -/
inductive Group where
  | whens
  | actions
  | rules
  deriving DecidableEq, Repr

namespace Group

/-- The name of the element that holds a group. -/
def token : Group → String
  | .whens => "whens"
  | .actions => "actions"
  | .rules => "rules"

/-- The group whose element has a name. -/
def ofToken? (name : String) : Option Group :=
  [whens, actions, rules].find? (·.token == name)

end Group

/-- The entries of a catalog document, each kind in document order. -/
structure Document where
  whens : List Entry := []
  actions : List Entry := []
  rules : List Entry := []
  deriving DecidableEq, Repr

namespace Document

/-- Adds an entry in front of its group. -/
def cons (group : Group) (entry : Entry) (d : Document) : Document :=
  match group with
  | .whens => { d with whens := entry :: d.whens }
  | .actions => { d with actions := entry :: d.actions }
  | .rules => { d with rules := entry :: d.rules }

/-- A fault in a document and the byte offset that it is reported at. -/
structure Malformed where
  position : Nat
  fault : Markup.Fault
  deriving DecidableEq, Repr

/-- The group that an element is an entry of, given the open elements, innermost first. -/
def groupOf? (sectionName : String) : List String → Option Group
  | [group, parent, _] => if parent = sectionName then Group.ofToken? group else none
  | _ => none

/-- The attributes of a start tag as an entry. -/
def readEntry (content : List Char) : Except Markup.Fault Entry :=
  (Markup.readAttributes content).map fun attributes => { attributes }

/-- Collects the entries from tokens. `opened` are the open elements, innermost first. A run of blanks is no
token of its own: `position`, if given, is where the one before the current token began. -/
def ofTokens (sectionName : String) (opened : List String) (position : Option Nat) :
    List (Nat × Markup.Token) → Except Malformed Document
  | [] => .ok {}
  | (offset, token) :: rest =>
    let position := position.getD offset
    let collect (content : List Char) (opened' : List String) : Except Malformed Document :=
      match groupOf? sectionName opened with
      | none => ofTokens sectionName opened' none rest
      | some group => do
        let entry ← (readEntry content).mapError (⟨position, ·⟩)
        (ofTokens sectionName opened' none rest).map (cons group entry)
    match token with
    | .text chars =>
      ofTokens sectionName opened (if chars.all Markup.isSpace then some offset else none) rest
    | .start content => collect content (String.ofList (Markup.tagName content) :: opened)
    | .empty content => collect content opened
    | .close name =>
      match opened with
      | [] => .error ⟨position, .unmatchedEnd (String.ofList name)⟩
      | expected :: outer =>
        if expected = String.ofList name then ofTokens sectionName outer none rest
        else .error ⟨position, .mismatchedEnd expected (String.ofList name)⟩
    | .other => ofTokens sectionName opened none rest
    | .broken fault => .error ⟨position, fault⟩
    | .finish =>
      match opened with
      | [] => .ok {}
      | name :: _ => .error ⟨position, .unclosedElement name⟩

/-- Reads the entries of one section of a catalog document. -/
def read (text sectionName : String) : Except Malformed Document :=
  ofTokens sectionName [] none (Markup.tokens text.toList)

end Document
end PackageAudit
