import PackageAudit.Proofs.Catalog.Built
import PackageAudit.Proofs.Catalog.Document

/-!
# Catalogs as documents

A catalog is written as a document with one element for each condition, action and rule, in the order of their
numbers; a rule names its condition and its action (`Catalog.toForest`). A catalog that was built is read back from
what is written, with every number and every name as it was (`Catalog.parse_print`).

An entry that was written is read as what it was written for (`condition_entry`, `action_entry`,
`addRuleEntry_entry`). The entries of a group are put in one after another: names are distinct, so the definitions
come back in their places, and with all of them there a rule finds the numbers that it had.
-/

namespace PackageAudit

open Markup

/-! ## What is written -/

/-- An action whose kind is what its data says: the one that some key names, or none without data. -/
def Action.Coherent (a : Action) : Prop :=
  (∃ key, ActionKind.ofKey key a.data = .ok a.kind) ∨ (a.kind = .unknown ∧ a.data = "")

/-- The name of the element for an entry. -/
def Element.tag (e : Element) : Name := ⟨e.token, by cases e <;> decide⟩

/-- The name of the element for a group. -/
def Group.tag (g : Group) : Name := ⟨g.token, by cases g <;> decide⟩

/-- The name of the attribute for the kind of an action. -/
def ActionKey.tag (k : ActionKey) : Name := ⟨k.token, by cases k <;> decide⟩

/-- The attributes that entries are read from, apart from the kind of an action. -/
inductive Key where
  | name
  | value
  | type
  | scope
  | filter
  | when
  | action
  | level
  | message
  deriving DecidableEq

/-- The word for an attribute. -/
def Key.token : Key → String
  | .name => "name"
  | .value => "value"
  | .type => "type"
  | .scope => "scope"
  | .filter => "filter"
  | .when => "when"
  | .action => "action"
  | .level => "level"
  | .message => "message"

def Key.tag (k : Key) : Name := ⟨k.token, by cases k <;> decide⟩

theorem Key.tag_injective : Function.Injective Key.tag := by
  intro k l h
  have token : k.token = l.token := congrArg Name.text h
  revert token
  cases k <;> cases l <;> decide

/-- Attributes by their keys, each key once. -/
def Key.attributes (items : List (Key × String)) (distinct : (items.map (·.1)).Nodup) : Attributes where
  pairs := items.map fun p => (p.1.tag, p.2)
  distinct := by
    have := distinct.map Key.tag_injective
    rwa [List.map_map] at this ⊢

def Condition.attributes (c : Condition) : Attributes :=
  Key.attributes [(.name, c.name), (.value, c.value), (.type, c.matchType.token), (.scope, c.scope.token),
    (.filter, c.filter.token)] (by simp)

/-- An action as attributes; its data stands under the key of its kind. -/
def Action.attributes (a : Action) : Attributes where
  pairs := (Key.name.tag, a.name) :: (a.kind.key?.map fun key => (key.tag, a.data)).toList
  distinct := by
    cases a.kind.key? with
    | none => simp
    | some key => cases key <;> simp [ActionKey.tag, ActionKey.token, Key.tag, Key.token]

namespace Catalog

/-- A rule as attributes, with the names of its condition and its action. -/
def ruleAttributes (c : Catalog) (r : Rule) : Attributes :=
  Key.attributes [(.when, ((c.conditions.get? r.condition).map Condition.name).getD ""),
    (.action, ((c.actions.get? r.action).map Action.name).getD ""), (.level, r.level.token), (.message, r.message)]
    (by simp)

/-- A catalog as the only section of a document. -/
def toForest (c : Catalog) (root sectionName : Name) : Forest :=
  let whens := Forest.leaves Element.when.tag (c.conditions.items.map Condition.attributes)
  let actions := Forest.leaves Element.action.tag (c.actions.items.map Action.attributes)
  let rules := Forest.leaves Element.rule.tag (c.rules.map c.ruleAttributes)
  .element root .none
    (.element sectionName .none
      (.element Group.whens.tag .none whens
        (.element Group.actions.tag .none actions (.element Group.rules.tag .none rules .nil))) .nil) .nil

end Catalog

/-! ## What is found -/

def Markup.Attributes.entry (a : Attributes) : Entry := ⟨a.texts⟩

theorem Catalog.document_toForest (c : Catalog) (root sectionName : Name) :
    (c.toForest root sectionName).document sectionName.text
      = { whens := c.conditions.items.map (·.attributes.entry)
          actions := c.actions.items.map (·.attributes.entry)
          rules := c.rules.map (c.ruleAttributes · |>.entry) } := by
  simp [toForest, Forest.document, Forest.entries, Forest.trees, Forest.treesNamed, Forest.trees_leaves, Group.tag,
    Group.token, Attributes.entry, Function.comp_def]

/-! ## Entries -/

namespace Entry

theorem required_of_get? {e : Entry} {element : Element} {key value : String} (h : e.get? key = some value) :
    e.required element key = .ok value := by
  rw [required, h]

theorem word_of_get? {α : Type} {e : Entry} {element : Element} {key value : String}
    {ofToken? : String → Except UnknownToken α} {a : α} (h : e.get? key = some value) (ha : ofToken? value = .ok a) :
    e.word element key ofToken? = .ok a := by
  rw [word, required_of_get? h]
  show (ofToken? value).mapError _ = _
  rw [ha]
  rfl

end Entry

/-- A condition that was made is read from its entry. -/
theorem Condition.Made.condition_entry {c : Condition} (h : c.Made) : c.attributes.entry.condition = .ok c := by
  have name : c.attributes.entry.required .when "name" = .ok c.name := Entry.required_of_get? rfl
  have value : c.attributes.entry.required .when "value" = .ok c.value := Entry.required_of_get? rfl
  have type : c.attributes.entry.word .when "type" MatchType.ofToken? = .ok c.matchType :=
    Entry.word_of_get? rfl (MatchType.ofToken?_token _)
  have scope : c.attributes.entry.word .when "scope" Scope.ofToken? = .ok c.scope :=
    Entry.word_of_get? rfl (Scope.ofToken?_token _)
  have filter : c.attributes.entry.word .when "filter" Filter.ofToken? = .ok c.filter :=
    Entry.word_of_get? rfl (Filter.ofToken?_token _)
  rw [Entry.condition, name, value, type, scope, filter]
  show (make c.name c.value c.matchType c.scope c.filter).mapError _ = _
  rw [h]
  rfl

theorem Action.actionKey?_entry (a : Action) : a.attributes.entry.actionKey? = a.kind.key?.map (·, a.data) := by
  have texts : a.attributes.texts = ("name", a.name) :: (a.kind.key?.map fun key => (key.token, a.data)).toList := by
    simp [attributes, Attributes.texts, ActionKey.tag, Key.tag, Key.token, Option.toList_map]
  rw [Entry.actionKey?, Attributes.entry, texts]
  cases a.kind.key? with
  | none => rfl
  | some key => cases key <;> rfl

theorem Action.Coherent.action_entry {a : Action} (h : a.Coherent) : a.attributes.entry.action = .ok a := by
  have name : a.attributes.entry.required .action "name" = .ok a.name := Entry.required_of_get? rfl
  rw [Entry.action, name, a.actionKey?_entry]
  obtain ⟨a_name, kind, data⟩ := a
  rcases h with ⟨key, hk⟩ | ⟨hk, hd⟩
  · rw [ActionKind.key?_of_ofKey hk]
    show ((ActionKind.ofKey key data).mapError _ >>= _) = _
    rw [hk]
    rfl
  · obtain rfl : kind = .unknown := hk
    obtain rfl : data = "" := hd
    rfl

/-- A rule is added from its entry by the names of its condition and its action. -/
theorem Catalog.addRuleEntry_entry (c d : Catalog) {r : Rule} {condition : Condition} {action : Action}
    (hc : c.conditions.get? r.condition = some condition) (ha : c.actions.get? r.action = some action) :
    d.addRuleEntry (c.ruleAttributes r).entry = d.addRule condition.name action.name r.level r.message := by
  have attributes : (c.ruleAttributes r).entry.attributes
      = [("when", condition.name), ("action", action.name), ("level", r.level.token), ("message", r.message)] := by
    simp [ruleAttributes, Key.attributes, Attributes.entry, Attributes.texts, Key.tag, Key.token, hc, ha]
  generalize (c.ruleAttributes r).entry = e at attributes ⊢
  obtain ⟨_⟩ := e
  cases attributes
  rw [addRuleEntry, Entry.required_of_get? rfl, Entry.required_of_get? rfl,
    Entry.word_of_get? rfl (Level.ofToken?_token _), Entry.required_of_get? rfl]
  rfl

/-! ## Groups of entries -/

namespace Catalog

theorem foldlM_entries {α : Type} {read : Entry → Except CatalogError α} {write : α → Entry}
    (add : Catalog → α → Catalog) : ∀ (items : List α) (c : Catalog), (∀ a ∈ items, read (write a) = .ok a) →
    (items.map write).foldlM (fun c e => add c <$> read e) c = .ok (items.foldl add c)
  | [], _, _ => rfl
  | a :: items, c, h => by
    rw [List.map_cons, List.foldlM_cons, h a List.mem_cons_self]
    exact foldlM_entries add items (add c a) fun b hb => h b (List.mem_cons_of_mem _ hb)

/-- The catalog of a document, once its conditions and its actions are there. -/
theorem ofDocument_eq_rules {d : Document} {c₁ c₂ : Catalog}
    (whens : d.whens.foldlM (fun c e => c.addCondition <$> e.condition) empty = .ok c₁)
    (actions : d.actions.foldlM (fun c e => c.addAction <$> e.action) c₁ = .ok c₂) :
    ofDocument d = d.rules.foldlM addRuleEntry c₂ := by
  rw [ofDocument, whens]
  show (d.actions.foldlM (fun c e => c.addAction <$> e.action) c₁ >>= fun c => d.rules.foldlM addRuleEntry c) = _
  rw [actions]
  rfl

theorem foldl_addCondition (items : List Condition) : ∀ c : Catalog,
    (items.foldl addCondition c).conditions = items.foldl Roster.put c.conditions
      ∧ (items.foldl addCondition c).actions = c.actions ∧ (items.foldl addCondition c).rules = c.rules := by
  induction items with
  | nil => exact fun c => ⟨rfl, rfl, rfl⟩
  | cons condition items ih => exact fun c => ih (c.addCondition condition)

theorem foldl_addAction (items : List Action) : ∀ c : Catalog,
    (items.foldl addAction c).actions = items.foldl Roster.put c.actions
      ∧ (items.foldl addAction c).conditions = c.conditions ∧ (items.foldl addAction c).rules = c.rules := by
  induction items with
  | nil => exact fun c => ⟨rfl, rfl, rfl⟩
  | cons action items ih => exact fun c => ih (c.addAction action)

/-- Once the definitions of a catalog are there, its rules are added with the numbers that they had. -/
theorem exists_addRuleEntry {c d : Catalog} (hc : d.conditions = c.conditions) (ha : d.actions = c.actions) {r : Rule}
    (hr : r ∈ c.rules) : ∃ d', d.addRuleEntry (c.ruleAttributes r).entry = .ok d' ∧ d'.conditions = c.conditions
      ∧ d'.actions = c.actions ∧ d'.rules = d.rules ++ [r] := by
  obtain ⟨hlc, hla⟩ := c.valid r hr
  have condition : c.conditions.get? r.condition = some c.conditions.items[r.condition] := List.getElem?_eq_getElem hlc
  have action : c.actions.get? r.action = some c.actions.items[r.action] := List.getElem?_eq_getElem hla
  have hi : d.conditionId? c.conditions.items[r.condition].name = some r.condition := by
    rw [conditionId?, hc]
    exact Roster.id?_of_get? condition
  have hj : d.actionId? c.actions.items[r.action].name = some r.action := by
    rw [actionId?, ha]
    exact Roster.id?_of_get? action
  obtain ⟨d', hd⟩ := exists_addRule r.level r.message hi hj
  obtain ⟨i, j, hi', hj', hdc, hda, hdr⟩ := addRule_eq_ok_iff.mp hd
  obtain rfl : r.condition = i := Option.some.inj (hi.symm.trans hi')
  obtain rfl : r.action = j := Option.some.inj (hj.symm.trans hj')
  exact ⟨d', (addRuleEntry_entry c d condition action).trans hd, hdc.trans hc, hda.trans ha, hdr⟩

/-- All rules of a catalog, one after another. -/
theorem foldlM_addRuleEntry {c : Catalog} : ∀ {rules : List Rule}, (∀ r ∈ rules, r ∈ c.rules) →
    ∀ {d : Catalog}, d.conditions = c.conditions → d.actions = c.actions →
    ∃ d', (rules.map (c.ruleAttributes · |>.entry)).foldlM addRuleEntry d = .ok d' ∧ d'.conditions = c.conditions
      ∧ d'.actions = c.actions ∧ d'.rules = d.rules ++ rules
  | [], _, d, hc, ha => ⟨d, rfl, hc, ha, (List.append_nil _).symm⟩
  | r :: rules, h, d, hc, ha => by
    obtain ⟨d₁, h₁, hc₁, ha₁, hr₁⟩ := exists_addRuleEntry hc ha (h r List.mem_cons_self)
    obtain ⟨d₂, h₂, hc₂, ha₂, hr₂⟩ := foldlM_addRuleEntry (fun s hs => h s (List.mem_cons_of_mem _ hs)) hc₁ ha₁
    refine ⟨d₂, ?_, hc₂, ha₂, ?_⟩
    · rw [List.map_cons, List.foldlM_cons, h₁]
      exact h₂
    · rw [hr₂, hr₁, List.append_assoc]
      rfl

/-- **A catalog is read back from what is written**: with the same conditions, actions and rules, all with the numbers
that they had. -/
theorem parse_print {c : Catalog} (h : c.Built) (coherent : ∀ a ∈ c.actions.items, a.Coherent)
    (root sectionName : Name) :
    parse (String.ofList (c.toForest root sectionName).print) sectionName.text = .ok c := by
  have whens := foldlM_entries addCondition c.conditions.items empty fun x hx => (h.made x hx).condition_entry
  obtain ⟨hc₁, ha₁, hr₁⟩ := foldl_addCondition c.conditions.items empty
  generalize c.conditions.items.foldl addCondition empty = c₁ at whens hc₁ ha₁ hr₁
  have actions := foldlM_entries addAction c.actions.items c₁ fun a ha => (coherent a ha).action_entry
  obtain ⟨ha₂, hc₂, hr₂⟩ := foldl_addAction c.actions.items c₁
  generalize c.actions.items.foldl addAction c₁ = c₂ at actions hc₂ ha₂ hr₂
  have conditions_eq : c₂.conditions = c.conditions := by
    rw [hc₂, hc₁]
    exact Roster.eq_of_items (Roster.items_foldl_put _ {} c.conditions.nodup)
  have actions_eq : c₂.actions = c.actions := by
    rw [ha₂, ha₁]
    exact Roster.eq_of_items (Roster.items_foldl_put _ {} c.actions.nodup)
  obtain ⟨c₃, rules, hc₃, ha₃, hr₃⟩ := foldlM_addRuleEntry (fun _ hr => hr) conditions_eq actions_eq
  have same : c₃ = c := by
    refine eq_of_items (congrArg _ hc₃) (congrArg _ ha₃) ?_
    rw [hr₃, hr₂, hr₁]
    rfl
  rw [parse_forest, document_toForest, ofDocument_eq_rules whens actions, rules, same]

/-- A catalog with characters that have to be escaped, and an action of no kind. -/
def sample : Catalog where
  conditions := ⟨[⟨"a<b", "say \"x\"\n", .line, .all, .contains "say \"x\"\n".toList⟩], by decide⟩
  actions := ⟨[⟨"none", .unknown, ""⟩, ⟨"it\x27s", .textMatch "&amp;".toList, "&amp;"⟩], by decide⟩
  rules := [⟨0, 1, .error, "> here"⟩]
  valid := by decide

/-- The sample is a catalog that was built, and it is read back. -/
theorem parse_print_sample : sample.Built ∧ (∀ a ∈ sample.actions.items, a.Coherent)
    ∧ parse (String.ofList (sample.toForest ⟨"catalog", by decide⟩ ⟨"checks", by decide⟩).print) "checks"
      = .ok sample := by
  have condition : Condition.make "a<b" "say \"x\"\n" .contains .line .all = .ok sample.conditions.items[0] := rfl
  have rule : ((((empty.addCondition sample.conditions.items[0]).addAction ⟨"none", .unknown, ""⟩).addAction
      ⟨"it\x27s", .textMatch "&amp;".toList, "&amp;"⟩).addRule "a<b" "it\x27s" .error "> here") = .ok sample := rfl
  have built : sample.Built := (((Built.empty.addCondition condition).addAction _).addAction _).addRule rule
  have coherent : ∀ a ∈ sample.actions.items, a.Coherent := by
    intro a ha
    rcases List.mem_pair.mp ha with rfl | rfl
    · exact .inr ⟨rfl, rfl⟩
    · exact .inl ⟨.textMatch, rfl⟩
  exact ⟨built, coherent, parse_print built coherent _ ⟨"checks", by decide⟩⟩

end Catalog
end PackageAudit
