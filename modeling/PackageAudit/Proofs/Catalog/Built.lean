import PackageAudit.Catalog.Basic
import PackageAudit.Proofs.Ordered.Roster

/-!
# Catalogs that are built

A catalog is built (`Catalog.Built`) if it comes from the empty one by adding conditions that were made from their
parts, actions, and rules whose names are known. Every condition in it is what its own parts make
(`Built.made`), whatever was replaced on the way.

`addRule_eq_ok_iff` says when adding a rule succeeds and what it gives, `addRule_eq_error_iff` when and why it is
refused.
-/

namespace PackageAudit

/-- Whether a condition is what its parts make, so that its matcher was compiled from its value. -/
def Condition.Made (c : Condition) : Prop :=
  Condition.make c.name c.value c.matchType c.scope c.filter = .ok c

theorem Condition.made_of_make {name value : String} {type : MatchType} {scope : Scope} {filter : Filter}
    {c : Condition} (h : Condition.make name value type scope filter = .ok c) : c.Made := by
  obtain ⟨rfl, rfl, rfl, rfl, rfl⟩ := Condition.of_make h
  exact h

namespace Catalog

theorem eq_of_items {c d : Catalog} (hc : c.conditions.items = d.conditions.items)
    (ha : c.actions.items = d.actions.items) (hr : c.rules = d.rules) : c = d := by
  obtain ⟨conditions, actions, rules, valid⟩ := c
  obtain ⟨conditions', actions', rules', valid'⟩ := d
  obtain rfl : conditions = conditions' := Roster.eq_of_items hc
  obtain rfl : actions = actions' := Roster.eq_of_items ha
  obtain rfl : rules = rules' := hr
  rfl

/-- A rule can be added if both names are known; the rule comes last and nothing else changes. -/
theorem addRule_eq_ok_iff {c d : Catalog} {condition action : String} {level : Level} {message : String} :
    c.addRule condition action level message = .ok d
      ↔ ∃ i j, c.conditionId? condition = some i ∧ c.actionId? action = some j ∧ d.conditions = c.conditions
          ∧ d.actions = c.actions ∧ d.rules = c.rules ++ [⟨i, j, level, message⟩] := by
  unfold addRule
  split
  next hc => simp [hc]
  next i hc =>
    split
    next ha => simp [ha]
    next j ha =>
      rw [Except.ok.injEq]
      constructor
      · rintro rfl
        exact ⟨i, j, hc, ha, rfl, rfl, rfl⟩
      · rintro ⟨i', j', hi, hj, hdc, hda, hdr⟩
        obtain rfl : i = i' := Option.some.inj (hc.symm.trans hi)
        obtain rfl : j = j' := Option.some.inj (ha.symm.trans hj)
        exact eq_of_items (congrArg _ hdc.symm) (congrArg _ hda.symm) hdr.symm

theorem exists_addRule {c : Catalog} {condition action : String} {i j : Nat} (level : Level) (message : String)
    (hi : c.conditionId? condition = some i) (hj : c.actionId? action = some j) :
    ∃ d, c.addRule condition action level message = .ok d := by
  unfold addRule
  split
  next hc => simp [hi] at hc
  next =>
    split
    next ha => simp [hj] at ha
    next => exact ⟨_, rfl⟩

/-- A rule is refused for its condition, or else for its action. -/
theorem addRule_eq_error_iff {c : Catalog} {condition action : String} {level : Level} {message : String}
    {e : CatalogError} : c.addRule condition action level message = .error e
      ↔ c.conditionId? condition = none ∧ e = .unknownCondition condition
          ∨ (∃ i, c.conditionId? condition = some i) ∧ c.actionId? action = none ∧ e = .unknownAction action := by
  unfold addRule
  split
  next hc => simp [hc, eq_comm]
  next i hc =>
    split
    next ha => simp [hc, ha, eq_comm]
    next j ha => simp [hc, ha]

/-- The catalogs that can be built. -/
inductive Built : Catalog → Prop
  | empty : Built Catalog.empty
  | addCondition {c : Catalog} (h : Built c) {name value : String} {type : MatchType} {scope : Scope} {filter : Filter}
      {condition : Condition} (hm : Condition.make name value type scope filter = .ok condition) :
      Built (c.addCondition condition)
  | addAction {c : Catalog} (h : Built c) (action : Action) : Built (c.addAction action)
  | addRule {c d : Catalog} (h : Built c) {condition action : String} {level : Level} {message : String}
      (hr : c.addRule condition action level message = .ok d) : Built d

/-- **The conditions of a catalog that was built** are what their parts make. -/
theorem Built.made {c : Catalog} (h : Built c) : ∀ condition ∈ c.conditions.items, condition.Made := by
  induction h with
  | empty => exact fun _ hm => absurd hm List.not_mem_nil
  | addCondition _ hm ih =>
    intro condition hc
    rcases Roster.mem_putItems hc with hc | rfl
    · exact ih condition hc
    · exact Condition.made_of_make hm
  | addAction _ _ ih => exact ih
  | addRule _ hr ih =>
    obtain ⟨_, _, -, -, hc, -, -⟩ := addRule_eq_ok_iff.mp hr
    rw [hc]
    exact ih

end Catalog
end PackageAudit
