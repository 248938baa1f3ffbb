import PackageAudit.Catalog.Load
import PackageAudit.Proofs.Failure
import PackageAudit.Proofs.Lists

/-!
# What is wrong with the entries of a document

`Document.faults` lists what is wrong with the entries of a document: first the conditions, then the actions, then the
rules, where a rule may name any condition and action of the document (`Entry.ruleFault?`). There is nothing wrong with
a document if every condition and action can be read and every rule can be added (`Document.faults_eq_nil_iff`).

A condition or an action that cannot be read never stops a run, and so the first fault of a document does not if there
is one among them (`Document.exists_fault_of_definition`).
-/

namespace PackageAudit

/-! ## Faults of entries -/

/-- A level is read from its word only. -/
theorem Level.ofToken?_eq_ok_iff {word : String} {level : Level} :
    Level.ofToken? word = .ok level ↔ word = level.token := by
  constructor
  · intro h
    unfold Level.ofToken? at h
    split at h
    next value found =>
      cases h
      have := List.find?_some found
      exact (eq_of_beq this).symm
    next => cases h
  · rintro rfl
    exact Level.ofToken?_token level

namespace Entry

/-- The fault of an entry without an attribute that has to be there. -/
def missing? (e : Entry) (element : Element) (key : String) : Option CatalogError :=
  if (e.get? key).isSome then none else some (.missingAttribute element e.shownName key)

/-- The fault of a rule whose level is no level. -/
def badLevel? (e : Entry) : Option CatalogError :=
  (e.get? "level").bind fun word =>
    (failure? (Level.ofToken? word)).map (.invalidAttribute .rule e.shownName "level" ·)

/-- The fault of an entry with an attribute that names none of some entries. -/
def unknown? (e : Entry) (key : String) (entries : List Entry) (fault : String → CatalogError) : Option CatalogError :=
  (e.get? key).bind fun name => if entries.any (·.get? "name" == some name) then none else some (fault name)

/-- What is wrong with a rule of a document: of these the first. -/
def ruleFault? (d : Document) (e : Entry) : Option CatalogError :=
  [e.missing? .rule "when", e.missing? .rule "action", e.missing? .rule "level", e.badLevel?,
    e.missing? .rule "message", e.unknown? "when" d.whens .unknownCondition,
    e.unknown? "action" d.actions .unknownAction].findSome? id

end Entry

/-- A rule entry of a document that can be added: it has its four attributes, its level is one, and it names a condition
and an action of the document, wherever they stand. -/
def Entry.Resolves (d : Document) (e : Entry) : Prop :=
  ∃ condition action message, ∃ level : Level,
    e.get? "when" = some condition ∧ e.get? "action" = some action ∧ e.get? "level" = some level.token
      ∧ e.get? "message" = some message ∧ (∃ w ∈ d.whens, w.get? "name" = some condition)
      ∧ ∃ a ∈ d.actions, a.get? "name" = some action

/-- What is wrong with the entries of a document: the conditions, then the actions, then the rules. -/
def Document.faults (d : Document) : List CatalogError :=
  d.whens.filterMap (failure? ·.condition) ++ d.actions.filterMap (failure? ·.action)
    ++ d.rules.filterMap (Entry.ruleFault? d)

namespace Entry

theorem missing?_eq_none_iff {e : Entry} {element : Element} {key : String} :
    e.missing? element key = none ↔ ∃ value, e.get? key = some value := by
  unfold missing?
  cases e.get? key <;> simp

theorem badLevel?_eq_none_iff {e : Entry} {word : String} (h : e.get? "level" = some word) :
    e.badLevel? = none ↔ ∃ level : Level, word = level.token := by
  rw [badLevel?, h, Option.bind_some, Option.map_eq_none_iff, failure?_eq_none_iff]
  simp only [Level.ofToken?_eq_ok_iff]

theorem unknown?_eq_none_iff {e : Entry} {key name : String} {entries : List Entry} {fault : String → CatalogError}
    (h : e.get? key = some name) :
    e.unknown? key entries fault = none ↔ ∃ entry ∈ entries, entry.get? "name" = some name := by
  rw [unknown?, h, Option.bind_some]
  split
  next known => simpa using known
  next unknown => simpa using unknown

theorem ruleFault?_eq_none_iff {d : Document} {e : Entry} : e.ruleFault? d = none ↔ e.Resolves d := by
  unfold ruleFault? Resolves
  simp only [findSome?_id_cons, List.findSome?_nil, Option.or_none, Option.or_eq_none_iff, missing?_eq_none_iff]
  constructor
  · rintro ⟨⟨condition, hc⟩, ⟨action, ha⟩, ⟨word, hw⟩, hl, ⟨message, hm⟩, known, known'⟩
    obtain ⟨level, rfl⟩ := (badLevel?_eq_none_iff hw).mp hl
    exact ⟨condition, action, message, level, hc, ha, hw, hm, (unknown?_eq_none_iff hc).mp known,
      (unknown?_eq_none_iff ha).mp known'⟩
  · rintro ⟨condition, action, message, level, hc, ha, hw, hm, known, known'⟩
    exact ⟨⟨condition, hc⟩, ⟨action, ha⟩, ⟨_, hw⟩, (badLevel?_eq_none_iff hw).mpr ⟨level, rfl⟩, ⟨message, hm⟩,
      (unknown?_eq_none_iff hc).mpr known, (unknown?_eq_none_iff ha).mpr known'⟩

end Entry

/-- A document has no faults if every entry can be read and every rule can be added. -/
theorem Document.faults_eq_nil_iff {d : Document} : d.faults = [] ↔
    (∀ e ∈ d.whens, ∃ condition, e.condition = .ok condition) ∧ (∀ e ∈ d.actions, ∃ action, e.action = .ok action)
      ∧ ∀ e ∈ d.rules, e.Resolves d := by
  simp only [faults, List.append_eq_nil_iff, List.filterMap_eq_nil_iff, failure?_eq_none_iff,
    Entry.ruleFault?_eq_none_iff, and_assoc]

/-! ## Reading entries -/

namespace Entry

variable {e : Entry}

theorem failure?_required (element : Element) (key : String) :
    failure? (e.required element key) = e.missing? element key := by
  unfold required missing?
  cases e.get? key <;> rfl

theorem get?_of_required {element : Element} {key value : String} (h : e.required element key = .ok value) :
    e.get? key = some value := by
  unfold required at h
  cases hg : e.get? key with
  | none => rw [hg] at h; cases h
  | some v => rw [hg] at h; cases h; rfl

theorem failure?_level :
    failure? (e.word .rule "level" Level.ofToken?) = (e.missing? .rule "level").or e.badLevel? := by
  rw [← failure?_required]
  refine failure?_bind fun word hw => ?_
  rw [badLevel?, get?_of_required hw, failure?_mapError]
  rfl

/-- An entry gives its name to the condition that it defines. -/
theorem get?_name_of_condition {condition : Condition} (h : e.condition = .ok condition) :
    e.get? "name" = some condition.name := by
  obtain ⟨name, hn, h⟩ := exists_of_bind_eq_ok h
  obtain ⟨value, -, h⟩ := exists_of_bind_eq_ok h
  obtain ⟨type, -, h⟩ := exists_of_bind_eq_ok h
  obtain ⟨scope, -, h⟩ := exists_of_bind_eq_ok h
  obtain ⟨filter, -, h⟩ := exists_of_bind_eq_ok h
  cases hm : Condition.make name value type scope filter with
  | error fault => rw [hm] at h; cases h
  | ok made =>
    rw [hm] at h
    cases h
    rw [(Condition.of_make hm).1]
    exact get?_of_required hn

theorem get?_name_of_action {action : Action} (h : e.action = .ok action) : e.get? "name" = some action.name := by
  obtain ⟨name, hn, h⟩ := exists_of_bind_eq_ok h
  split at h
  next => cases h; exact get?_of_required hn
  next =>
    obtain ⟨kind, -, h⟩ := exists_of_bind_eq_ok h
    cases h
    exact get?_of_required hn

end Entry

/-! ## Errors that stop a run -/

theorem CatalogError.isFatal_iff {x : CatalogError} :
    x.isFatal = true ↔ (∃ name, x = .unknownCondition name) ∨ ∃ name, x = .unknownAction name := by
  cases x <;> simp [isFatal]

/-- A result whose error, if it is one, does not stop a run. -/
def Degrades {α : Type} (result : Except CatalogError α) : Prop :=
  ∀ x, result = .error x → x.isFatal = false

section Degrades

variable {α β ε : Type}

theorem degrades_ok (a : α) : Degrades (.ok a) := by
  rintro x ⟨⟩

theorem Degrades.bind {first : Except CatalogError α} {next : α → Except CatalogError β} (h : Degrades first)
    (hn : ∀ a, Degrades (next a)) : Degrades (first >>= next) := by
  cases first with
  | error e => exact fun x hx => h x (by cases hx; rfl)
  | ok a => exact hn a

theorem degrades_mapError {f : ε → CatalogError} (hf : ∀ e, (f e).isFatal = false) (result : Except ε α) :
    Degrades (result.mapError f) := by
  cases result with
  | error e => rintro x ⟨⟩; exact hf e
  | ok a => exact degrades_ok a

end Degrades

namespace Entry

theorem degrades_required (e : Entry) (element : Element) (key : String) : Degrades (e.required element key) := by
  unfold required
  split
  · exact degrades_ok _
  · rintro x ⟨⟩; rfl

theorem degrades_word {α : Type} (e : Entry) (element : Element) (key : String)
    (ofToken? : String → Except UnknownToken α) : Degrades (e.word element key ofToken?) :=
  (e.degrades_required element key).bind fun _ => degrades_mapError (fun _ => rfl) _

theorem degrades_condition (e : Entry) : Degrades e.condition :=
  (e.degrades_required _ _).bind fun _ => (e.degrades_required _ _).bind fun _ => (e.degrades_word _ _ _).bind fun _ =>
    (e.degrades_word _ _ _).bind fun _ => (e.degrades_word _ _ _).bind fun _ => degrades_mapError (fun _ => rfl) _

theorem degrades_action (e : Entry) : Degrades e.action := by
  refine (e.degrades_required _ _).bind fun name => ?_
  split
  · exact degrades_ok _
  · exact (degrades_mapError (fun _ => rfl) _).bind fun _ => degrades_ok _

end Entry

/-- With a fault in a condition or an action, the first fault of a document does not stop a run. -/
theorem Document.exists_fault_of_definition {d : Document}
    (h : (∃ e ∈ d.whens, ∃ x, e.condition = .error x) ∨ ∃ e ∈ d.actions, ∃ x, e.action = .error x) :
    ∃ x, d.faults.head? = some x ∧ x.isFatal = false := by
  have harmless : ∀ x ∈ d.whens.filterMap (failure? ·.condition) ++ d.actions.filterMap (failure? ·.action),
      x.isFatal = false := by
    intro x hx
    rcases List.mem_append.mp hx with hx | hx
    · obtain ⟨e, -, he⟩ := List.mem_filterMap.mp hx
      exact e.degrades_condition x (failure?_eq_some_iff.mp he)
    · obtain ⟨e, -, he⟩ := List.mem_filterMap.mp hx
      exact e.degrades_action x (failure?_eq_some_iff.mp he)
  have found : ∃ x, x ∈ d.whens.filterMap (failure? ·.condition) ++ d.actions.filterMap (failure? ·.action) := by
    rcases h with ⟨e, he, x, hx⟩ | ⟨e, he, x, hx⟩
    · exact ⟨x, List.mem_append_left _ (List.mem_filterMap.mpr ⟨e, he, failure?_eq_some_iff.mpr hx⟩)⟩
    · exact ⟨x, List.mem_append_right _ (List.mem_filterMap.mpr ⟨e, he, failure?_eq_some_iff.mpr hx⟩)⟩
  unfold faults
  rw [List.head?_append]
  cases hf : d.whens.filterMap (failure? ·.condition) ++ d.actions.filterMap (failure? ·.action) with
  | nil => simp [hf] at found
  | cons x rest => exact ⟨x, rfl, harmless x (by rw [hf]; exact List.mem_cons_self)⟩

end PackageAudit
