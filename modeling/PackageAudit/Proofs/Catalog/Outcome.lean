import PackageAudit.Proofs.Catalog.Fault
import PackageAudit.Proofs.Catalog.RoundTrip

/-!
# What loading a catalog ends with

Reading a catalog is all or nothing: a text is a catalog if it is a document without faults, and then there is one rule
for each entry; otherwise the first fault is the error (`Catalog.parse_outcome`).

The entries are added one after another. A run over them fails with the first fault of an entry if each step fails with
the fault of its entry, and keeps what each step keeps (`run_foldlM`). What is kept is `Catalog.Holds`: the names that
the catalog knows are those of the entries so far, and its rules are what their entries say.
-/

namespace PackageAudit

/-! ## Runs over entries -/

section Runs

variable {ε α σ : Type} {step : σ → α → Except ε σ}

/-- A run over items fails with the first fault of an item if each step fails with the fault of its item, and it keeps
what each step keeps; `done` are the items so far. -/
theorem run_foldlM_from (kept : List α → σ → Prop) {fault : α → Option ε}
    (fails : ∀ done a s, kept done s → failure? (step s a) = fault a)
    (keeps : ∀ done a s s', kept done s → step s a = .ok s' → kept (done ++ [a]) s') :
    ∀ (items : List α) {done : List α} {s : σ}, kept done s →
      failure? (items.foldlM step s) = (items.filterMap fault).head?
        ∧ ∀ s', items.foldlM step s = .ok s' → kept (done ++ items) s'
  | [], done, s, hs => by
    refine ⟨rfl, fun s' hr => ?_⟩
    cases hr
    rwa [List.append_nil]
  | a :: items, done, s, hs => by
    have rest (s₁ : σ) (ha : step s a = .ok s₁) := run_foldlM_from kept fails keeps items (keeps done a s s₁ hs ha)
    rw [List.foldlM_cons]
    constructor
    · rw [failure?_bind fun s₁ ha => (rest s₁ ha).1, fails done a s hs, List.filterMap_cons]
      cases fault a <;> rfl
    · intro s' hr
      obtain ⟨s₁, ha, hr⟩ := exists_of_bind_eq_ok hr
      have := (rest s₁ ha).2 s' hr
      rwa [List.append_assoc] at this

theorem run_foldlM (kept : List α → σ → Prop) {fault : α → Option ε} {s : σ} (hs : kept [] s)
    (fails : ∀ done a s, kept done s → failure? (step s a) = fault a)
    (keeps : ∀ done a s s', kept done s → step s a = .ok s' → kept (done ++ [a]) s') (items : List α) :
    failure? (items.foldlM step s) = (items.filterMap fault).head?
      ∧ ∀ s', items.foldlM step s = .ok s' → kept items s' :=
  run_foldlM_from kept fails keeps items hs

end Runs

/-! ## Names that are known -/

namespace Catalog

variable {c c' : Catalog} {whens actions : List Entry} {d : Document} {e : Entry}

/-- The names of the definitions in a catalog are those of some entries. -/
def Knows (c : Catalog) (whens actions : List Entry) : Prop :=
  (∀ name, (c.conditionId? name).isSome = whens.any (·.get? "name" == some name))
    ∧ ∀ name, (c.actionId? name).isSome = actions.any (·.get? "name" == some name)

theorem knows_empty : empty.Knows [] [] := ⟨fun _ => rfl, fun _ => rfl⟩

theorem Knows.addCondition (h : c.Knows whens actions) {condition : Condition} (he : e.condition = .ok condition) :
    (c.addCondition condition).Knows (whens ++ [e]) actions := by
  refine ⟨fun name => ?_, h.2⟩
  rw [List.any_append, ← h.1 name, List.any_cons, Entry.get?_name_of_condition he, List.any_nil, Bool.or_false]
  exact Roster.isSome_id?_put c.conditions condition name

theorem Knows.addAction (h : c.Knows whens actions) {action : Action} (he : e.action = .ok action) :
    (c.addAction action).Knows whens (actions ++ [e]) := by
  refine ⟨h.1, fun name => ?_⟩
  rw [List.any_append, ← h.2 name, List.any_cons, Entry.get?_name_of_action he, List.any_nil, Bool.or_false]
  exact Roster.isSome_id?_put c.actions action name

theorem Knows.congr (h : c.Knows whens actions) (hc : c'.conditions = c.conditions) (ha : c'.actions = c.actions) :
    c'.Knows whens actions := by
  unfold Knows conditionId? actionId?
  rw [hc, ha]
  exact h

/-! ## Rules -/

/-- A rule is what an entry says: it refers to the definitions that the entry names and has its level and message. -/
def Follows (c : Catalog) (e : Entry) (r : Rule) : Prop :=
  (c.conditions.get? r.condition).map Condition.name = e.get? "when"
    ∧ (c.actions.get? r.action).map Action.name = e.get? "action"
    ∧ e.get? "level" = some r.level.token ∧ e.get? "message" = some r.message

/-- Adding a rule fails if one of its names is not known, the condition first. -/
theorem failure?_addRule (h : c.Knows d.whens d.actions) {condition action : String} (level : Level) (message : String)
    (hc : e.get? "when" = some condition) (ha : e.get? "action" = some action) :
    failure? (c.addRule condition action level message)
      = (e.unknown? "when" d.whens .unknownCondition).or (e.unknown? "action" d.actions .unknownAction) := by
  unfold Entry.unknown?
  rw [hc, ha, Option.bind_some, Option.bind_some, ← h.1, ← h.2]
  unfold addRule
  split
  next hi => simp [hi, failure?]
  next i hi =>
    split
    next hj => simp [hi, hj, failure?]
    next j hj => simp [hi, hj, failure?]

theorem failure?_addRuleEntry (h : c.Knows d.whens d.actions) : failure? (c.addRuleEntry e) = e.ruleFault? d := by
  unfold Entry.ruleFault?
  simp only [findSome?_id_cons, List.findSome?_nil, Option.or_none, ← Entry.failure?_required]
  refine failure?_bind fun condition hc => failure?_bind fun action ha => ?_
  rw [Entry.failure?_required, ← Option.or_assoc, ← Entry.failure?_level]
  refine failure?_bind fun level _ => failure?_bind fun message _ => ?_
  exact failure?_addRule h level message (Entry.get?_of_required hc) (Entry.get?_of_required ha)

/-- A rule that was added is what its entry says, and nothing else changed. -/
theorem follows_of_addRuleEntry (h : c.addRuleEntry e = .ok c') :
    c'.conditions = c.conditions ∧ c'.actions = c.actions ∧ ∃ r, c'.rules = c.rules ++ [r] ∧ c.Follows e r := by
  obtain ⟨condition, hc, h⟩ := exists_of_bind_eq_ok h
  obtain ⟨action, ha, h⟩ := exists_of_bind_eq_ok h
  obtain ⟨level, hl, h⟩ := exists_of_bind_eq_ok h
  obtain ⟨message, hm, h⟩ := exists_of_bind_eq_ok h
  obtain ⟨word, hw, hl⟩ := exists_of_bind_eq_ok hl
  have level_eq : word = level.token := by
    rw [← Level.ofToken?_eq_ok_iff]
    cases ho : Level.ofToken? word with
    | error cause => rw [ho] at hl; cases hl
    | ok l => rw [ho] at hl; cases hl; rfl
  obtain ⟨i, j, hi, hj, hcs, has, hrs⟩ := addRule_eq_ok_iff.mp h
  refine ⟨hcs, has, _, hrs, ?_, ?_, ?_, Entry.get?_of_required hm⟩
  · rw [Entry.get?_of_required hc]
    exact Roster.map_get?_of_id? hi
  · rw [Entry.get?_of_required ha]
    exact Roster.map_get?_of_id? hj
  · rw [Entry.get?_of_required hw, level_eq]

/-- What adding conditions, then actions, then rules keeps: the names that are known are those of the entries so far,
and the rules are what their entries say. -/
def Holds (whens actions rules : List Entry) (c : Catalog) : Prop :=
  c.Knows whens actions ∧ List.Forall₂ c.Follows rules c.rules

theorem holds_empty : Holds [] [] [] empty := ⟨knows_empty, .nil⟩

theorem Holds.when {done : List Entry} (h : Holds done [] [] c) (hs : c.addCondition <$> e.condition = .ok c') :
    Holds (done ++ [e]) [] [] c' := by
  obtain ⟨condition, he, rfl⟩ := exists_of_map_eq_ok hs
  have no_rules : c.rules = [] := List.forall₂_nil_left_iff.mp h.2
  exact ⟨h.1.addCondition he, List.forall₂_nil_left_iff.mpr no_rules⟩

theorem Holds.action {done : List Entry} (h : Holds whens done [] c) (hs : c.addAction <$> e.action = .ok c') :
    Holds whens (done ++ [e]) [] c' := by
  obtain ⟨action, he, rfl⟩ := exists_of_map_eq_ok hs
  have no_rules : c.rules = [] := List.forall₂_nil_left_iff.mp h.2
  exact ⟨h.1.addAction he, List.forall₂_nil_left_iff.mpr no_rules⟩

theorem Holds.rule {done : List Entry} (h : Holds whens actions done c) (hs : c.addRuleEntry e = .ok c') :
    Holds whens actions (done ++ [e]) c' := by
  obtain ⟨hc, ha, r, hr, follows⟩ := follows_of_addRuleEntry hs
  have same : c'.Follows = c.Follows := by
    unfold Follows
    rw [hc, ha]
  refine ⟨h.1.congr hc ha, ?_⟩
  rw [same, hr]
  exact List.rel_append h.2 (.cons follows .nil)

/-- The conditions of a document are added or fail with their first fault. -/
theorem run_whens (whens : List Entry) :
    failure? (whens.foldlM (fun c e => c.addCondition <$> e.condition) empty)
        = (whens.filterMap (failure? ·.condition)).head?
      ∧ ∀ c, whens.foldlM (fun c e => c.addCondition <$> e.condition) empty = .ok c → Holds whens [] [] c := by
  refine run_foldlM (fun done c => Holds done [] [] c) holds_empty ?_ ?_ whens
  · exact fun _ _ _ _ => failure?_map _ _
  · exact fun _ _ _ _ h hs => h.when hs

/-- The actions of a document are added or fail with their first fault. -/
theorem run_actions (h : Holds whens [] [] c) (actions : List Entry) :
    failure? (actions.foldlM (fun c e => c.addAction <$> e.action) c)
        = (actions.filterMap (failure? ·.action)).head?
      ∧ ∀ c', actions.foldlM (fun c e => c.addAction <$> e.action) c = .ok c' → Holds whens actions [] c' := by
  refine run_foldlM (fun done c => Holds whens done [] c) h ?_ ?_ actions
  · exact fun _ _ _ _ => failure?_map _ _
  · exact fun _ _ _ _ h hs => h.action hs

/-- The rules of a document are added or fail with their first fault. -/
theorem run_rules (h : Holds d.whens d.actions [] c) :
    failure? (d.rules.foldlM addRuleEntry c) = (d.rules.filterMap (Entry.ruleFault? d)).head?
      ∧ ∀ c', d.rules.foldlM addRuleEntry c = .ok c' → Holds d.whens d.actions d.rules c' := by
  refine run_foldlM (fun done c => Holds d.whens d.actions done c) h ?_ ?_ d.rules
  · exact fun _ _ _ h => failure?_addRuleEntry h.1
  · exact fun _ _ _ _ h hs => h.rule hs

/-- The entries of a document define a catalog or fail with their first fault. -/
theorem failure?_ofDocument (d : Document) : failure? (ofDocument d) = d.faults.head? := by
  obtain ⟨whens, holds₁⟩ := run_whens d.whens
  rw [Document.faults, List.append_assoc, List.head?_append, List.head?_append, ← whens]
  refine failure?_bind fun c₁ h₁ => ?_
  obtain ⟨actions, holds₂⟩ := run_actions (holds₁ c₁ h₁) d.actions
  rw [← actions]
  exact failure?_bind fun c₂ h₂ => (run_rules (holds₂ c₂ h₂)).1

/-- The rules of a catalog are what the entries of its document say, one for each. -/
theorem follows_of_ofDocument (h : ofDocument d = .ok c) : List.Forall₂ c.Follows d.rules c.rules := by
  obtain ⟨c₁, h₁, h⟩ := exists_of_bind_eq_ok h
  obtain ⟨c₂, h₂, h⟩ := exists_of_bind_eq_ok h
  have holds₁ := (run_whens d.whens).2 c₁ h₁
  have holds₂ := (run_actions holds₁ d.actions).2 c₂ h₂
  exact ((run_rules holds₂).2 c h).2

/-! ## Whole texts -/

section Texts

variable {text sectionName : String} {x : CatalogError}

theorem parse_of_malformed {m : Document.Malformed} (h : Document.read text sectionName = .error m) :
    parse text sectionName = .error (.malformed m.position m.fault) := by
  rw [parse, h]
  rfl

theorem parse_of_document (h : Document.read text sectionName = .ok d) : parse text sectionName = ofDocument d := by
  rw [parse, h]
  rfl

/-- The errors of a text: that of the document, or else the first fault of an entry. -/
theorem parse_eq_error_iff : parse text sectionName = .error x ↔
    (∃ m, Document.read text sectionName = .error m ∧ x = .malformed m.position m.fault)
      ∨ ∃ d, Document.read text sectionName = .ok d ∧ d.faults.head? = some x := by
  cases hr : Document.read text sectionName with
  | error m => simp [parse_of_malformed hr, eq_comm]
  | ok d => simp [parse_of_document hr, ← failure?_ofDocument, failure?_eq_some_iff]

theorem exists_parse_eq_ok_iff : (∃ c, parse text sectionName = .ok c) ↔
    ∃ d, Document.read text sectionName = .ok d ∧ d.faults = [] := by
  cases hr : Document.read text sectionName with
  | error m => simp [parse_of_malformed hr]
  | ok d => simp [parse_of_document hr, ← List.head?_eq_none_iff, ← failure?_ofDocument, failure?_eq_none_iff]

theorem load_of_parse (h : parse text sectionName = .ok c) : load (some text) sectionName = .ok c := by
  rw [load, h]

theorem load_of_fatal (h : parse text sectionName = .error x) (fatal : x.isFatal = true) :
    load (some text) sectionName = .error x := by
  rw [load, h]
  exact if_pos fatal

theorem load_of_harmless (h : parse text sectionName = .error x) (harmless : x.isFatal = false) :
    load (some text) sectionName = .ok empty := by
  rw [load, h]
  exact if_neg (by simp [harmless])

theorem load_eq_error_iff :
    load (some text) sectionName = .error x ↔ parse text sectionName = .error x ∧ x.isFatal = true := by
  constructor
  · intro h
    cases hp : parse text sectionName with
    | ok c => rw [load_of_parse hp] at h; cases h
    | error y =>
      cases fatal : y.isFatal with
      | true => rw [load_of_fatal hp fatal] at h; cases h; exact ⟨rfl, fatal⟩
      | false => rw [load_of_harmless hp fatal] at h; cases h
  · rintro ⟨h, fatal⟩
    exact load_of_fatal h fatal

/-- What is loaded is the catalog, or nothing after an error that does not stop a run. -/
theorem load_eq_ok_iff : load (some text) sectionName = .ok c ↔
    parse text sectionName = .ok c ∨ c = empty ∧ ∃ x, parse text sectionName = .error x ∧ x.isFatal = false := by
  cases hp : parse text sectionName with
  | ok c' => simp [load_of_parse hp]
  | error y =>
    cases fatal : y.isFatal with
    | true => simp [load_of_fatal hp fatal, fatal]
    | false => simp [load_of_harmless hp fatal, fatal, @eq_comm _ empty]

end Texts

/-- **What loading a catalog ends with.** A text is a catalog if it is a document whose conditions and actions can be
read and whose rules can be added, and then it has one rule for each entry, in their order. Otherwise the error is that
of the document, or else the first fault: conditions before actions before rules. Loading fails if that is a broken
reference, and with any other error it gives the catalog without definitions; so an error in the document, in a
condition or in an action never stops a run, whatever the rules refer to. -/
theorem parse_outcome (text sectionName : String) :
    ((∃ c, parse text sectionName = .ok c) ↔ ∃ d, Document.read text sectionName = .ok d
        ∧ (∀ e ∈ d.whens, ∃ condition, e.condition = .ok condition)
        ∧ (∀ e ∈ d.actions, ∃ action, e.action = .ok action) ∧ ∀ e ∈ d.rules, e.Resolves d)
    ∧ (∀ d c, Document.read text sectionName = .ok d → parse text sectionName = .ok c →
        List.Forall₂ c.Follows d.rules c.rules)
    ∧ (∀ x, parse text sectionName = .error x ↔
        (∃ m, Document.read text sectionName = .error m ∧ x = .malformed m.position m.fault)
          ∨ ∃ d, Document.read text sectionName = .ok d ∧ d.faults.head? = some x)
    ∧ (∀ x, load (some text) sectionName = .error x ↔ parse text sectionName = .error x
        ∧ ((∃ name, x = .unknownCondition name) ∨ ∃ name, x = .unknownAction name))
    ∧ (∀ c, load (some text) sectionName = .ok c ↔
        parse text sectionName = .ok c ∨ c = empty ∧ ∃ x, parse text sectionName = .error x
          ∧ ¬((∃ name, x = .unknownCondition name) ∨ ∃ name, x = .unknownAction name))
    ∧ ((∃ m, Document.read text sectionName = .error m)
          ∨ (∃ d, Document.read text sectionName = .ok d
            ∧ ((∃ e ∈ d.whens, ∃ x, e.condition = .error x) ∨ ∃ e ∈ d.actions, ∃ x, e.action = .error x)) →
        load (some text) sectionName = .ok empty) := by
  refine ⟨?_, ?_, fun x => parse_eq_error_iff, fun x => ?_, fun c => ?_, ?_⟩
  · simp only [exists_parse_eq_ok_iff, Document.faults_eq_nil_iff]
  · intro d c hr hp
    exact follows_of_ofDocument ((parse_of_document hr).symm.trans hp)
  · rw [load_eq_error_iff, CatalogError.isFatal_iff]
  · simp only [load_eq_ok_iff, ← CatalogError.isFatal_iff, Bool.not_eq_true]
  · rintro (⟨m, hm⟩ | ⟨d, hd, broken⟩)
    · exact load_of_harmless (parse_of_malformed hm) rfl
    · obtain ⟨x, hx, harmless⟩ := Document.exists_fault_of_definition broken
      exact load_of_harmless (parse_eq_error_iff.mpr (.inr ⟨d, hd, hx⟩)) harmless

/-- A catalog document with a rule in front that refers to nothing, and an action without a name behind it. -/
def brokenTwice : Markup.Forest :=
  let rule : Markup.Forest := .leaf Element.rule.tag
    (Key.attributes [(.when, "a"), (.action, "b"), (.level, "error"), (.message, "c")] (by simp)) .nil
  let action : Markup.Forest := .leaf Element.action.tag .none .nil
  let groups : Markup.Forest := .element Group.rules.tag .none rule (.element Group.actions.tag .none action .nil)
  .element Document.sampleRoot .none (.element Document.sampleSection .none groups .nil) .nil

/-- The broken reference does not stop a run, since the action is at fault before it. -/
theorem load_brokenTwice :
    (∃ d, Document.read (String.ofList brokenTwice.print) "checks" = .ok d
        ∧ (∃ e ∈ d.rules, e.ruleFault? d = some (.unknownCondition "a")) ∧ ∃ e ∈ d.actions, ∃ x, e.action = .error x)
      ∧ load (some (String.ofList brokenTwice.print)) "checks" = .ok empty := by
  have read := Document.read_forest "checks" brokenTwice
  have rule : ∃ e ∈ (brokenTwice.document "checks").rules,
      e.ruleFault? (brokenTwice.document "checks") = some (.unknownCondition "a") :=
    ⟨_, List.mem_singleton.mpr rfl, rfl⟩
  have action : ∃ e ∈ (brokenTwice.document "checks").actions, ∃ x, e.action = .error x :=
    ⟨_, List.mem_singleton.mpr rfl, _, rfl⟩
  exact ⟨⟨_, read, rule, action⟩,
    (parse_outcome (String.ofList brokenTwice.print) "checks").2.2.2.2.2 (.inr ⟨_, read, .inr action⟩)⟩

end Catalog

end PackageAudit
