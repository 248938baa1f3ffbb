import PackageAudit.Catalog.Basic
import PackageAudit.Catalog.Document

/-!
# Loading catalogs

A document becomes a catalog entry by entry: first the conditions, then the actions, then the rules, whatever
their order in the document, so a rule may stand before what it names. The first error counts. `Catalog.load`
lets a broken document pass as a catalog without rules; only broken references are errors for it.
-/

namespace PackageAudit

namespace Entry

/-- The value of an attribute, the first one if it stands twice. -/
def get? (e : Entry) (key : String) : Option String :=
  (e.attributes.find? (·.1 == key)).map (·.2)

/-- The name that messages give to an entry. -/
def shownName (e : Entry) : String :=
  (e.get? "name").getD "<unnamed>"

/-- The value of an attribute that has to be there. -/
def required (e : Entry) (element : Element) (key : String) : Except CatalogError String :=
  match e.get? key with
  | some value => .ok value
  | none => .error (.missingAttribute element e.shownName key)

/-- The value of an attribute that has to be one of a few words. -/
def word {α : Type} (e : Entry) (element : Element) (key : String)
    (ofToken? : String → Except UnknownToken α) : Except CatalogError α := do
  (ofToken? (← e.required element key)).mapError
    (.invalidAttribute element e.shownName key)

/-- The condition that an entry defines. -/
def condition (e : Entry) : Except CatalogError Condition := do
  let name ← e.required .when "name"
  let value ← e.required .when "value"
  let type ← e.word .when "type" MatchType.ofToken?
  let scope ← e.word .when "scope" Scope.ofToken?
  let filter ← e.word .when "filter" Filter.ofToken?
  (Condition.make name value type scope filter).mapError (.invalidPattern .when name)

/-- The key that names the kind of an action, with its value: of the keys that are there, the first in the
order of `ActionKey.values`. -/
def actionKey? (e : Entry) : Option (ActionKey × String) :=
  ActionKey.values.findSome? fun key => (e.get? key.token).map (key, ·)

/-- The action that an entry defines; without a key it checks nothing. -/
def action (e : Entry) : Except CatalogError Action := do
  let name ← e.required .action "name"
  match e.actionKey? with
  | none => .ok { name, kind := .unknown, data := "" }
  | some (key, data) =>
    let kind ← (ActionKind.ofKey key data).mapError (.invalidPattern .action name)
    .ok { name, kind, data }

end Entry

namespace Catalog

/-- Adds the rule that an entry defines. -/
def addRuleEntry (c : Catalog) (e : Entry) : Except CatalogError Catalog := do
  let condition ← e.required .rule "when"
  let action ← e.required .rule "action"
  let level ← e.word .rule "level" Level.ofToken?
  let message ← e.required .rule "message"
  c.addRule condition action level message

/-- The catalog that the entries of a document define. -/
def ofDocument (d : Document) : Except CatalogError Catalog := do
  let c ← d.whens.foldlM (fun c e => c.addCondition <$> e.condition) Catalog.empty
  let c ← d.actions.foldlM (fun c e => c.addAction <$> e.action) c
  d.rules.foldlM addRuleEntry c

/-- The section that holds the rules for assembled packages. -/
def defaultSection : String := "assembledTeradataPackageChecks"

/-- Reads one section of a catalog document. -/
def parse (text sectionName : String) : Except CatalogError Catalog := do
  let d ← (Document.read text sectionName).mapError fun m => .malformed m.position m.fault
  ofDocument d

/-- The catalog of a file, given its text; a file that cannot be read has none. Only broken references are
errors; any other leaves the catalog empty. -/
def load (text : Option String) (sectionName : String) : Except CatalogError Catalog :=
  match text with
  | none => .ok empty
  | some text =>
    match parse text sectionName with
    | .ok c => .ok c
    | .error e => if e.isFatal then .error e else .ok empty

end Catalog
end PackageAudit
