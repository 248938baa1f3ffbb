import PackageAudit.Proofs.Catalog.History

/-!
# Catalogs kept in two arenas

The conditions and the actions of a catalog can be kept in arenas, each with a table of names beside the definitions.
Every addition then goes through without a number that leads nowhere, answers what the catalog answers, and leaves the
arenas in step with the catalog (`Arenas.Holds.add`, `holds_ofAdditions`). A rule that is refused leaves them as they
are (`add_of_refused`).
-/

namespace PackageAudit

/-- What an addition answers: the number of the definition, or whether the rule was taken. -/
inductive Answer where
  | number (id : Nat)
  | taken
  | refused (e : CatalogError)

/-- What a catalog answers to an addition. -/
def Catalog.answer? (c : Catalog) : Addition → Option Answer
  | .defineCondition x => ((c.addCondition x).conditionId? x.name).map .number
  | .defineAction a => ((c.addAction a).actionId? a.name).map .number
  | .bindRule condition action level message =>
    match c.addRule condition action level message with
    | .ok _ => some .taken
    | .error e => some (.refused e)

/-- A refused addition changes nothing. -/
theorem Catalog.add_of_refused {c : Catalog} {x : Addition} {e : CatalogError} (h : c.answer? x = some (.refused e)) :
    c.add x = c := by
  cases x with
  | defineCondition | defineAction =>
    obtain ⟨_, -, h⟩ := Option.map_eq_some_iff.mp h
    cases h
  | bindRule condition action level message =>
    rw [answer?] at h
    rw [add]
    split
    next d hd =>
      rw [hd] at h
      cases h
    next => rfl

/-- Two arenas, and rules that refer to them by number. -/
structure Arenas where
  conditions : Arena Condition := {}
  actions : Arena Action := {}
  rules : List Rule := []

namespace Arenas

/-- Takes an addition and answers it. There is no answer if a number leads nowhere. -/
def add (s : Arenas) : Addition → Option (Answer × Arenas)
  | .defineCondition x =>
    (s.conditions.put Condition.name x).map fun (id, conditions) => (.number id, { s with conditions })
  | .defineAction a => (s.actions.put Action.name a).map fun (id, actions) => (.number id, { s with actions })
  | .bindRule condition action level message =>
    match s.conditions.numbers.get? condition with
    | none => some (.refused (.unknownCondition condition), s)
    | some i =>
      match s.actions.numbers.get? action with
      | none => some (.refused (.unknownAction action), s)
      | some j => some (.taken, { s with rules := s.rules ++ [⟨i, j, level, message⟩] })

/-- Takes the additions of a history. -/
def ofAdditions (h : List Addition) : Option Arenas :=
  h.foldlM (fun s x => (s.add x).map (·.2)) {}

/-- Two arenas in step with a catalog. -/
structure Holds (s : Arenas) (c : Catalog) : Prop where
  conditions : s.conditions.Holds c.conditions
  actions : s.actions.Holds c.actions
  rules : s.rules = c.rules

/-- A refusal leaves the arenas as they are. -/
theorem add_of_refused {s s' : Arenas} {x : Addition} {e : CatalogError} (h : s.add x = some (.refused e, s')) :
    s' = s := by
  cases x with
  | defineCondition | defineAction =>
    obtain ⟨_, -, h⟩ := Option.map_eq_some_iff.mp h
    cases h
  | bindRule condition action level message =>
    rw [add] at h
    split at h
    next =>
      cases h
      rfl
    next =>
      split at h
      next =>
        cases h
        rfl
      next => cases h

/-- **One addition** goes through, is answered as the catalog answers it, and leaves the arenas in step. -/
theorem Holds.add {s : Arenas} {c : Catalog} (h : s.Holds c) (x : Addition) :
    ∃ answer s', s.add x = some (answer, s') ∧ c.answer? x = some answer ∧ s'.Holds (c.add x) := by
  cases x with
  | defineCondition x =>
    obtain ⟨id, conditions, hput, hholds, hid⟩ := h.conditions.put x
    exact ⟨.number id, { s with conditions }, by rw [Arenas.add, hput]; rfl,
      congrArg (Option.map Answer.number) hid, hholds, h.actions, h.rules⟩
  | defineAction a =>
    obtain ⟨id, actions, hput, hholds, hid⟩ := h.actions.put a
    exact ⟨.number id, { s with actions }, by rw [Arenas.add, hput]; rfl,
      congrArg (Option.map Answer.number) hid, h.conditions, hholds, h.rules⟩
  | bindRule condition action level message =>
    rw [Arenas.add, Catalog.answer?, Catalog.add, h.conditions.numbers, h.actions.numbers]
    cases hadd : c.addRule condition action level message with
    | ok d =>
      obtain ⟨i, j, hi, hj, hconditions, hactions, hrules⟩ := Catalog.addRule_eq_ok_iff.mp hadd
      rw [show c.conditions.id? condition = some i from hi, show c.actions.id? action = some j from hj]
      exact ⟨.taken, _, rfl, rfl, hconditions ▸ h.conditions, hactions ▸ h.actions, by rw [hrules, h.rules]⟩
    | error e =>
      refine ⟨.refused e, s, ?_, rfl, h⟩
      obtain ⟨hi, rfl⟩ | ⟨⟨i, hi⟩, hj, rfl⟩ := Catalog.addRule_eq_error_iff.mp hadd
      · rw [show c.conditions.id? condition = none from hi]
      · rw [show c.conditions.id? condition = some i from hi, show c.actions.id? action = none from hj]

/-- **No number leads nowhere**, whatever is added: the arenas take the whole history and hold what the catalog holds. -/
theorem holds_ofAdditions (h : List Addition) : ∃ s, ofAdditions h = some s ∧ s.Holds (Catalog.ofAdditions h) := by
  induction h using List.reverseRecOn with
  | nil => exact ⟨{}, rfl, Arena.holds_empty, Arena.holds_empty, rfl⟩
  | append_singleton h x ih =>
    obtain ⟨s, hs, hholds⟩ := ih
    obtain ⟨answer, s', hadd, -, hholds'⟩ := hholds.add x
    refine ⟨s', ?_, ?_⟩
    · unfold ofAdditions at hs ⊢
      rw [List.foldlM_append, hs]
      simp [hadd]
    · unfold Catalog.ofAdditions at hholds' ⊢
      rwa [List.foldl_concat]

end Arenas
end PackageAudit
