import PackageAudit.Catalog.Action
import PackageAudit.Catalog.Condition
import PackageAudit.Markup.Fault
import PackageAudit.Ordered.Roster

/-!
# Catalogs

A catalog holds conditions, actions and rules. Conditions and actions are numbered in the order in which their
names first appear, and a later definition of a name replaces the earlier one in its place; so a number stands
for one name for ever, and names are distinct (`Roster`). A rule refers to one condition and one action by
number; the numbers are always valid, which is part of the type.
-/

namespace PackageAudit

/-- One check: each text that the condition selects is judged by the action, and a violation is reported with
the level and the message. -/
structure Rule where
  condition : Nat
  action : Nat
  level : Level
  message : String
  deriving DecidableEq, Repr

/-- The elements that stand for the three kinds of entries. -/
inductive Element where
  | when
  | action
  | rule
  deriving DecidableEq, Repr

/-- The word for an element. -/
def Element.token : Element → String
  | .when => "when"
  | .action => "action"
  | .rule => "rule"

/-- Why a document is no catalog. -/
inductive CatalogError where
  | malformed (position : Nat) (fault : Markup.Fault)
  | missingAttribute (element : Element) (name key : String)
  | invalidAttribute (element : Element) (name key : String) (cause : UnknownToken)
  | unknownCondition (name : String)
  | unknownAction (name : String)
  | invalidPattern (element : Element) (name : String) (fault : Pattern.Fault)
  deriving DecidableEq, Repr

namespace CatalogError

/-- Broken references stop a run; every other error leaves it without rules. -/
def isFatal : CatalogError → Bool
  | .unknownCondition _ | .unknownAction _ => true
  | _ => false

/-- The message for an error. What is wrong with a pattern is not said. -/
def message : CatalogError → String
  | .malformed position fault =>
    "Malformed rule catalog at byte " ++ toString position ++ ": " ++ fault.message
  | .missingAttribute element name key =>
    element.token ++ " '" ++ name ++ "' is missing attribute '" ++ key ++ "'"
  | .invalidAttribute element name key cause =>
    element.token ++ " '" ++ name ++ "' has invalid attribute '" ++ key ++ "': " ++ cause.message
  | .unknownCondition name => "Rule references unknown condition '" ++ name ++ "'"
  | .unknownAction name => "Rule references unknown action '" ++ name ++ "'"
  | .invalidPattern element name _ => element.token ++ " '" ++ name ++ "' has an invalid pattern"

end CatalogError

/-- Conditions, actions, and the rules that bind one of each. -/
structure Catalog where
  conditions : Roster Condition Condition.name := {}
  actions : Roster Action Action.name := {}
  rules : List Rule := []
  valid : ∀ r ∈ rules, r.condition < conditions.size ∧ r.action < actions.size := by simp

namespace Catalog

/-- The catalog without any definitions. -/
def empty : Catalog := {}

/-- Whether a catalog holds nothing at all. -/
def isEmpty (c : Catalog) : Bool :=
  c.conditions.items.isEmpty && c.actions.items.isEmpty && c.rules.isEmpty

/-- Adds a condition. -/
def addCondition (c : Catalog) (condition : Condition) : Catalog :=
  { c with
    conditions := c.conditions.put condition
    valid := fun r hr =>
      ⟨Nat.lt_of_lt_of_le (c.valid r hr).1 (c.conditions.size_le_size_put condition), (c.valid r hr).2⟩ }

/-- Adds an action. -/
def addAction (c : Catalog) (action : Action) : Catalog :=
  { c with
    actions := c.actions.put action
    valid := fun r hr =>
      ⟨(c.valid r hr).1, Nat.lt_of_lt_of_le (c.valid r hr).2 (c.actions.size_le_size_put action)⟩ }

/-- The number of the condition with a name. -/
def conditionId? (c : Catalog) (name : String) : Option Nat :=
  c.conditions.id? name

/-- The number of the action with a name. -/
def actionId? (c : Catalog) (name : String) : Option Nat :=
  c.actions.id? name

/-- Adds a rule that names its condition and its action. -/
def addRule (c : Catalog) (condition action : String) (level : Level) (message : String) :
    Except CatalogError Catalog :=
  match hc : c.conditionId? condition with
  | none => .error (.unknownCondition condition)
  | some conditionId =>
    match ha : c.actionId? action with
    | none => .error (.unknownAction action)
    | some actionId =>
      .ok { c with
        rules := c.rules ++ [{ condition := conditionId, action := actionId, level, message }]
        valid := fun r hr => by
          rcases List.mem_append.mp hr with h | h
          · exact c.valid r h
          · rw [List.mem_singleton.mp h]
            exact ⟨Roster.lt_size_of_id? hc, Roster.lt_size_of_id? ha⟩ }

end Catalog
end PackageAudit
