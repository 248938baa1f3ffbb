import PackageAudit.Proofs.Catalog.Built
import PackageAudit.Proofs.Ordered.Arena

/-!
# Catalogs and their history

A catalog comes from a list of additions (`Catalog.ofAdditions`), of which a rule with an unknown name is refused and
leaves no trace. What a catalog holds is said from the list alone (`Reflects`): for each name the last definition, in
the order of the first ones, and the rules whose names were defined before them, under those names. One addition keeps
this (`Reflects.add`), so every history does (`reflects_ofAdditions`).

- Whatever is added later, a name keeps its number and a rule keeps its names (`extends_foldl_add`);
- a catalog kept in two arenas takes every addition without failure, and answers and holds the same
  (`Arenas.Holds.add`).
-/

namespace PackageAudit

/-- One addition to a catalog. -/
inductive Addition where
  | defineCondition (x : Condition)
  | defineAction (a : Action)
  | bindRule (condition action : String) (level : Level) (message : String)

/-- A rule under the names that it was added with. -/
structure NamedRule where
  condition : String
  action : String
  level : Level
  message : String
  deriving DecidableEq, Repr

/-! ## What a history says -/

namespace Addition

def condition? : Addition → Option Condition
  | .defineCondition x => some x
  | _ => none

def action? : Addition → Option Action
  | .defineAction a => some a
  | _ => none

/-- Whether a condition and an action with these names have been added. -/
def Defined (past : List Addition) (condition action : String) : Prop :=
  condition ∈ (past.filterMap condition?).map Condition.name ∧ action ∈ (past.filterMap action?).map Action.name

instance (past : List Addition) (condition action : String) : Decidable (Defined past condition action) :=
  inferInstanceAs (Decidable (_ ∧ _))

/-- The rule that is added, if its names are defined by then. -/
def rule? (past : List Addition) : Addition → Option NamedRule
  | .bindRule condition action level message =>
    if Defined past condition action then some ⟨condition, action, level, message⟩ else none
  | _ => none

/-- The rules that are added after a past. -/
def rules (past : List Addition) : List Addition → List NamedRule
  | [] => []
  | x :: later => (x.rule? past).toList ++ rules (past ++ [x]) later

/-- The rules of a history are those of its first part and those of what follows it. -/
theorem rules_append (h more : List Addition) : ∀ past : List Addition,
    rules past (h ++ more) = rules past h ++ rules (past ++ h) more := by
  induction h with
  | nil => intro past; simp [rules]
  | cons x h ih => intro past; simp [rules, ih]

theorem rules_concat (h : List Addition) (x : Addition) :
    rules [] (h ++ [x]) = rules [] h ++ (x.rule? h).toList := by
  rw [rules_append, List.nil_append, rules, rules, List.append_nil]

end Addition

namespace Catalog

/-- The catalog after an addition. A rule that is refused changes nothing. -/
def add (c : Catalog) : Addition → Catalog
  | .defineCondition x => c.addCondition x
  | .defineAction a => c.addAction a
  | .bindRule condition action level message =>
    match c.addRule condition action level message with
    | .ok d => d
    | .error _ => c

/-- The catalog that comes from a history. -/
def ofAdditions (h : List Addition) : Catalog :=
  h.foldl add empty

/-- The names that a rule refers to. -/
def named? (c : Catalog) (r : Rule) : Option NamedRule :=
  match (c.conditions.get? r.condition).map Condition.name, (c.actions.get? r.action).map Action.name with
  | some condition, some action => some ⟨condition, action, r.level, r.message⟩
  | _, _ => none

/-- What a catalog holds is what its history says. -/
structure Reflects (h : List Addition) (c : Catalog) : Prop where
  conditions : c.conditions.items = Roster.lastOfEach Condition.name (h.filterMap Addition.condition?)
  actions : c.actions.items = Roster.lastOfEach Action.name (h.filterMap Addition.action?)
  rules : c.rules.map c.named? = (Addition.rules [] h).map some

/-- A catalog that has grown: names keep their numbers, and the rules stand first with the names that they had. -/
structure Extends (c d : Catalog) : Prop where
  conditionId? : ∀ {n id}, c.conditionId? n = some id → d.conditionId? n = some id
  actionId? : ∀ {n id}, c.actionId? n = some id → d.actionId? n = some id
  rules : c.rules <+: d.rules
  named? : ∀ r ∈ c.rules, d.named? r = c.named? r

/-! ## Later additions -/

theorem Extends.refl (c : Catalog) : c.Extends c :=
  ⟨id, id, List.prefix_refl _, fun _ _ => rfl⟩

theorem Extends.trans {c d e : Catalog} (h : c.Extends d) (h' : d.Extends e) : c.Extends e where
  conditionId? hn := h'.conditionId? (h.conditionId? hn)
  actionId? hn := h'.actionId? (h.actionId? hn)
  rules := h.rules.trans h'.rules
  named? r hr := (h'.named? r (h.rules.subset hr)).trans (h.named? r hr)

theorem exists_named {c : Catalog} {r : Rule} (hr : r ∈ c.rules) : ∃ condition action,
    (c.conditions.get? r.condition).map Condition.name = some condition
      ∧ (c.actions.get? r.action).map Action.name = some action := by
  obtain ⟨hc, ha⟩ := c.valid r hr
  exact ⟨_, _, congrArg _ (List.getElem?_eq_getElem hc), congrArg _ (List.getElem?_eq_getElem ha)⟩

/-- The names of a rule, once its condition and its action are known. -/
theorem named?_eq {c : Catalog} {r : Rule} {condition action : String}
    (hc : (c.conditions.get? r.condition).map Condition.name = some condition)
    (ha : (c.actions.get? r.action).map Action.name = some action) :
    c.named? r = some ⟨condition, action, r.level, r.message⟩ := by
  rw [named?, hc, ha]

theorem named?_congr {c d : Catalog} {r : Rule} (hr : r ∈ c.rules)
    (hc : ∀ {id n}, (c.conditions.get? id).map Condition.name = some n →
      (d.conditions.get? id).map Condition.name = some n)
    (ha : ∀ {id n}, (c.actions.get? id).map Action.name = some n → (d.actions.get? id).map Action.name = some n) :
    d.named? r = c.named? r := by
  obtain ⟨condition, action, hcondition, haction⟩ := exists_named hr
  rw [named?_eq hcondition haction, named?_eq (hc hcondition) (ha haction)]

/-- **One addition**: names keep their numbers and rules keep their names. -/
theorem extends_add (c : Catalog) (x : Addition) : c.Extends (c.add x) := by
  cases x with
  | defineCondition x =>
    exact ⟨Roster.id?_put_of_id? x, id, List.prefix_refl _, fun r hr =>
      named?_congr hr (Roster.map_get?_put x) id⟩
  | defineAction a =>
    exact ⟨id, Roster.id?_put_of_id? a, List.prefix_refl _, fun r hr =>
      named?_congr hr id (Roster.map_get?_put a)⟩
  | bindRule condition action level message =>
    rw [add]
    split
    next d hd =>
      obtain ⟨i, j, -, -, hc, ha, hrules⟩ := addRule_eq_ok_iff.mp hd
      refine ⟨fun h => ?_, fun h => ?_, ⟨_, hrules.symm⟩, fun r hr => ?_⟩
      · rwa [Catalog.conditionId?, hc]
      · rwa [Catalog.actionId?, ha]
      · rw [Catalog.named?, Catalog.named?, hc, ha]
    next => exact Extends.refl c

/-- **Whatever is added later**, names keep their numbers and rules keep their names. -/
theorem extends_foldl_add (more : List Addition) : ∀ c : Catalog, c.Extends (more.foldl add c) := by
  induction more with
  | nil => exact Extends.refl
  | cons x more ih => exact fun c => (c.extends_add x).trans (ih (c.add x))

/-! ## A catalog reflects its history -/

theorem Reflects.isSome_iff {h : List Addition} {c : Catalog} (hc : c.Reflects h) (condition action : String) :
    ((c.conditionId? condition).isSome ∧ (c.actionId? action).isSome) ↔ Addition.Defined h condition action := by
  unfold conditionId? actionId? Addition.Defined
  rw [Roster.isSome_id?_iff, Roster.isSome_id?_iff, hc.conditions, hc.actions, Roster.map_lastOfEach,
    Roster.map_lastOfEach, List.mem_eraseDups, List.mem_eraseDups]

theorem Reflects.exists_addRule_iff {h : List Addition} {c : Catalog} (hc : c.Reflects h) (condition action : String)
    (level : Level) (message : String) :
    (∃ d, c.addRule condition action level message = .ok d) ↔ Addition.Defined h condition action := by
  rw [← hc.isSome_iff]
  constructor
  · rintro ⟨d, hd⟩
    obtain ⟨i, j, hi, hj, -⟩ := addRule_eq_ok_iff.mp hd
    exact ⟨hi ▸ rfl, hj ▸ rfl⟩
  · rintro ⟨hi, hj⟩
    obtain ⟨i, hi⟩ := Option.isSome_iff_exists.mp hi
    obtain ⟨j, hj⟩ := Option.isSome_iff_exists.mp hj
    exact exists_addRule level message hi hj

theorem map_named?_add (c : Catalog) (x : Addition) : c.rules.map (c.add x).named? = c.rules.map c.named? :=
  List.map_congr_left (c.extends_add x).named?

theorem reflects_empty : empty.Reflects [] :=
  ⟨rfl, rfl, rfl⟩

/-- An addition changes the conditions if it defines one. -/
theorem conditions_add (c : Catalog) (x : Addition) :
    (c.add x).conditions = x.condition?.elim c.conditions c.conditions.put := by
  cases x with
  | defineCondition | defineAction => rfl
  | bindRule condition action level message =>
    rw [add]
    split
    next d hd =>
      obtain ⟨_, _, -, -, hconditions, -, -⟩ := addRule_eq_ok_iff.mp hd
      exact hconditions
    next => rfl

theorem actions_add (c : Catalog) (x : Addition) :
    (c.add x).actions = x.action?.elim c.actions c.actions.put := by
  cases x with
  | defineCondition | defineAction => rfl
  | bindRule condition action level message =>
    rw [add]
    split
    next d hd =>
      obtain ⟨_, _, -, -, -, hactions, -⟩ := addRule_eq_ok_iff.mp hd
      exact hactions
    next => rfl

/-- An addition adds its rule, under its names, if the history defines them. -/
theorem Reflects.map_named?_add {h : List Addition} {c : Catalog} (hc : c.Reflects h) (x : Addition) :
    (c.add x).rules.map (c.add x).named? = c.rules.map c.named? ++ (x.rule? h).toList.map some := by
  -- the rules that were there keep their names, so only the rule that is added counts
  rw [← c.map_named?_add x]
  cases x with
  | defineCondition | defineAction => exact (List.append_nil _).symm
  | bindRule condition action level message =>
    have taken := hc.exists_addRule_iff condition action level message
    rw [add, Addition.rule?]
    split
    next d hd =>
      obtain ⟨i, j, hi, hj, hconditions, hactions, hrules⟩ := addRule_eq_ok_iff.mp hd
      have named : d.named? ⟨i, j, level, message⟩ = some ⟨condition, action, level, message⟩ :=
        named?_eq (hconditions ▸ Roster.map_get?_of_id? hi) (hactions ▸ Roster.map_get?_of_id? hj)
      rw [if_pos (taken.mp ⟨d, hd⟩), hrules, List.map_append, List.map_singleton, named]
      rfl
    next e he =>
      have refused : ¬Addition.Defined h condition action := by
        intro hdefined
        obtain ⟨d, hd⟩ := taken.mpr hdefined
        rw [hd] at he
        cases he
      rw [if_neg refused]
      exact (List.append_nil _).symm

/-- **One addition**: what a catalog holds stays what its history says. -/
theorem Reflects.add {h : List Addition} {c : Catalog} (hc : c.Reflects h) (x : Addition) :
    (c.add x).Reflects (h ++ [x]) where
  conditions := by
    rw [conditions_add, List.filterMap_append, List.filterMap_eq_flatMap_toList (l := [x]), List.flatMap_singleton]
    exact Roster.items_elim_put hc.conditions x.condition?
  actions := by
    rw [actions_add, List.filterMap_append, List.filterMap_eq_flatMap_toList (l := [x]), List.flatMap_singleton]
    exact Roster.items_elim_put hc.actions x.action?
  rules := by rw [hc.map_named?_add, hc.rules, Addition.rules_concat, List.map_append]

/-- **What a catalog holds is what its history says.** -/
theorem reflects_ofAdditions (h : List Addition) : (ofAdditions h).Reflects h := by
  induction h using List.reverseRecOn with
  | nil => exact reflects_empty
  | append_singleton h x ih =>
    unfold ofAdditions
    rw [List.foldl_concat]
    exact ih.add x

end Catalog
end PackageAudit
