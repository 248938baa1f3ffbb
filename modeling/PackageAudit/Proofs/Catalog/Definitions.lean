import PackageAudit.Proofs.Audit.Bound
import PackageAudit.Proofs.Catalog.History

/-!
# Catalogs from definitions and rules

A catalog is built from definitions with distinct names and then from rules that name them (`Catalog.build`). If every
rule names what is defined, building succeeds, and the rules are bound to the definitions with their names
(`exists_build`). Which number a definition has depends on the order of the definitions, but what a name stands for does
not (`find?_congr_of_perm`), so the bound rules are the same in every order (`resolve_congr`).
-/

namespace PackageAudit

/-- A definition of a catalog. -/
inductive Definition where
  | condition (x : Condition)
  | action (a : Action)

namespace Definition

def condition? : Definition → Option Condition
  | condition x => some x
  | action _ => none

def action? : Definition → Option Action
  | condition _ => none
  | action a => some a

/-- The conditions among definitions. -/
def conditions (definitions : List Definition) : List Condition :=
  definitions.filterMap condition?

def actions (definitions : List Definition) : List Action :=
  definitions.filterMap action?

/-- Whether definitions have distinct names and rules name what is defined. -/
structure Names (definitions : List Definition) (rules : List NamedRule) : Prop where
  conditions : ((conditions definitions).map Condition.name).Nodup
  actions : ((actions definitions).map Action.name).Nodup
  rules : ∀ rule ∈ rules, rule.condition ∈ (Definition.conditions definitions).map Condition.name
    ∧ rule.action ∈ (Definition.actions definitions).map Action.name

/-- The order of definitions and rules does not matter to their names. -/
theorem Names.of_perm {definitions definitions' : List Definition} {rules rules' : List NamedRule}
    (h : Names definitions rules) (hd : definitions.Perm definitions') (hr : rules.Perm rules') :
    Names definitions' rules' where
  conditions := ((hd.filterMap _).map _).nodup h.conditions
  actions := ((hd.filterMap _).map _).nodup h.actions
  rules rule hrule := by
    obtain ⟨hc, ha⟩ := h.rules rule (hr.mem_iff.mpr hrule)
    exact ⟨((hd.filterMap _).map _).mem_iff.mp hc, ((hd.filterMap _).map _).mem_iff.mp ha⟩

end Definition

/-! ## What a name stands for -/

namespace Roster

variable {α κ : Type} [DecidableEq κ] {name : α → κ}

theorem find?_congr_of_perm {r s : Roster α name} (h : r.items.Perm s.items) (n : κ) : r.find? n = s.find? n := by
  refine Option.ext fun a => ?_
  rw [find?_eq_some_iff, find?_eq_some_iff, h.mem_iff]

theorem find?_eq_get? {r : Roster α name} {n : κ} {id : Nat} (h : r.id? n = some id) : r.find? n = r.get? id := by
  obtain ⟨a, ha, hn⟩ := id?_eq_some_iff.mp h
  rw [ha]
  exact find?_eq_some_iff.mpr ⟨List.mem_of_getElem? ha, hn⟩

end Roster

/-! ## Building -/

namespace Catalog

variable {c d : Catalog} {definitions definitions' : List Definition} {rules rules' : List NamedRule}

def define (c : Catalog) : Definition → Catalog
  | .condition x => c.addCondition x
  | .action a => c.addAction a

/-- Adds a rule under the names of its condition and its action. -/
def bindRule (c : Catalog) (rule : NamedRule) : Except CatalogError Catalog :=
  c.addRule rule.condition rule.action rule.level rule.message

/-- The catalog of some definitions and then of some rules. -/
def build (definitions : List Definition) (rules : List NamedRule) : Except CatalogError Catalog :=
  rules.foldlM bindRule (definitions.foldl define empty)

/-- A rule with the condition and the action that its names stand for. -/
def resolve? (c : Catalog) (rule : NamedRule) : Option BoundRule :=
  match c.conditions.find? rule.condition, c.actions.find? rule.action with
  | some condition, some action => some ⟨condition, action, rule.level, rule.message⟩
  | _, _ => none

/-- Definitions are put in one after the other, conditions and actions apart, and bring no rules. -/
theorem foldl_define (definitions : List Definition) : ∀ c : Catalog,
    (definitions.foldl define c).conditions = (Definition.conditions definitions).foldl Roster.put c.conditions
      ∧ (definitions.foldl define c).actions = (Definition.actions definitions).foldl Roster.put c.actions
      ∧ (definitions.foldl define c).rules = c.rules := by
  induction definitions with
  | nil => exact fun c => ⟨rfl, rfl, rfl⟩
  | cons x definitions ih =>
    intro c
    cases x with
    | condition x => exact ih (c.addCondition x)
    | action a => exact ih (c.addAction a)

/-- Definitions with distinct names stand in the catalog in their order. -/
theorem items_define (h : Definition.Names definitions rules) :
    (definitions.foldl define empty).conditions.items = Definition.conditions definitions
      ∧ (definitions.foldl define empty).actions.items = Definition.actions definitions := by
  obtain ⟨conditions, actions, -⟩ := foldl_define definitions empty
  rw [conditions, actions]
  exact ⟨Roster.items_foldl_put _ _ h.conditions, Roster.items_foldl_put _ _ h.actions⟩

/-- A rule that names what is there can be added, and comes last, bound to what its names stand for. -/
theorem exists_bindRule {rule : NamedRule} (hc : rule.condition ∈ c.conditions.items.map Condition.name)
    (ha : rule.action ∈ c.actions.items.map Action.name) : ∃ d, c.bindRule rule = .ok d
      ∧ d.conditions = c.conditions ∧ d.actions = c.actions
      ∧ d.boundRules = c.boundRules ++ (c.resolve? rule).toList := by
  obtain ⟨i, hi⟩ := Option.isSome_iff_exists.mp (Roster.isSome_id?_iff.mpr hc)
  obtain ⟨j, hj⟩ := Option.isSome_iff_exists.mp (Roster.isSome_id?_iff.mpr ha)
  obtain ⟨d, hd⟩ := exists_addRule (c := c) rule.level rule.message hi hj
  obtain ⟨i', j', hi', hj', conditions, actions, rules⟩ := addRule_eq_ok_iff.mp hd
  obtain rfl : i = i' := Option.some.inj (hi.symm.trans hi')
  obtain rfl : j = j' := Option.some.inj (hj.symm.trans hj')
  refine ⟨d, hd, conditions, actions, ?_⟩
  have bind : d.bind? = c.bind? := by
    funext rule
    rw [bind?, bind?, conditions, actions]
  have bound : c.bind? ⟨i, j, rule.level, rule.message⟩ = c.resolve? rule := by
    rewrite [bind?, resolve?, Roster.find?_eq_get? hi, Roster.find?_eq_get? hj]
    rfl
  unfold boundRules
  rw [rules, List.filterMap_append, bind, List.filterMap_eq_flatMap_toList c.bind? [_], List.flatMap_singleton, bound]

/-- Rules that name what is there can be added one after the other. -/
theorem exists_foldlM_bindRule (rules : List NamedRule) : ∀ c : Catalog,
    (∀ rule ∈ rules, rule.condition ∈ c.conditions.items.map Condition.name
      ∧ rule.action ∈ c.actions.items.map Action.name) →
    ∃ d, rules.foldlM bindRule c = .ok d ∧ d.boundRules = c.boundRules ++ rules.filterMap c.resolve? := by
  induction rules with
  | nil => exact fun c _ => ⟨c, rfl, (List.append_nil _).symm⟩
  | cons rule rules ih =>
    intro c h
    obtain ⟨hc, ha⟩ := h rule List.mem_cons_self
    obtain ⟨e, he, conditions, actions, bound⟩ := exists_bindRule hc ha
    obtain ⟨d, hd, rest⟩ := ih e fun r hr => by
      rw [conditions, actions]
      exact h r (List.mem_cons_of_mem rule hr)
    refine ⟨d, ?_, ?_⟩
    · rw [List.foldlM_cons, he]
      exact hd
    · have resolve : e.resolve? = c.resolve? := by
        funext rule
        rw [resolve?, resolve?, conditions, actions]
      rw [rest, bound, resolve, List.append_assoc, List.filterMap_eq_flatMap_toList, List.filterMap_eq_flatMap_toList,
        List.flatMap_cons]

/-- **A catalog can be built** from definitions with distinct names and rules that name them; its bound rules are what
the rules name. -/
theorem exists_build (h : Definition.Names definitions rules) : ∃ c, build definitions rules = .ok c
    ∧ c.boundRules = rules.filterMap (definitions.foldl define empty).resolve? := by
  obtain ⟨conditions, actions⟩ := items_define h
  have none_yet : (definitions.foldl define empty).boundRules = [] := by
    rw [boundRules, (foldl_define definitions empty).2.2]
    rfl
  obtain ⟨c, hc, bound⟩ := exists_foldlM_bindRule rules (definitions.foldl define empty) fun rule hr => by
    rw [conditions, actions]
    exact h.rules rule hr
  rw [none_yet, List.nil_append] at bound
  exact ⟨c, hc, bound⟩

/-- What rules name does not depend on the order of the definitions. -/
theorem resolve_congr (h : Definition.Names definitions rules) (h' : Definition.Names definitions' rules')
    (hd : definitions.Perm definitions') :
    (definitions'.foldl define empty).resolve? = (definitions.foldl define empty).resolve? := by
  obtain ⟨conditions, actions⟩ := items_define h
  obtain ⟨conditions', actions'⟩ := items_define h'
  have same_conditions : (definitions.foldl define empty).conditions.items.Perm
      (definitions'.foldl define empty).conditions.items := by
    rw [conditions, conditions']
    exact hd.filterMap _
  have same_actions : (definitions.foldl define empty).actions.items.Perm
      (definitions'.foldl define empty).actions.items := by
    rw [actions, actions']
    exact hd.filterMap _
  funext rule
  rw [resolve?, resolve?, Roster.find?_congr_of_perm same_conditions, Roster.find?_congr_of_perm same_actions]

end Catalog
end PackageAudit
