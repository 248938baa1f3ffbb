import PackageAudit.Proofs.Audit.Blocking
import PackageAudit.Proofs.Lists

/-!
# Rules with what they refer to

A rule refers to its condition and its action by number. Which numbers these are does not matter to a check: a bound
rule carries the condition and the action themselves (`BoundRule`), and what a check lists and files is said from the
bound rules alone, rule by rule and artifact by artifact (`mem_identities_run`, `messages_run`). So two catalogs with
the same bound rules are the same to a check (`run_congr`), and artifacts from which no rule selects anything do not
matter (`run_congr_of_silent`).
-/

namespace PackageAudit

/-- A rule with the condition and the action that it refers to. -/
structure BoundRule where
  condition : Condition
  action : Action
  level : Level
  message : String

namespace Catalog

/-- A rule of a catalog with what it refers to. -/
def bind? (c : Catalog) (rule : Rule) : Option BoundRule :=
  match c.conditions.get? rule.condition, c.actions.get? rule.action with
  | some condition, some action => some ⟨condition, action, rule.level, rule.message⟩
  | _, _ => none

/-- The rules of a catalog, in their order, with what they refer to. -/
def boundRules (c : Catalog) : List BoundRule :=
  c.rules.filterMap c.bind?

/-- Every rule of a catalog refers to a condition and to an action. -/
theorem exists_bind? {c : Catalog} {rule : Rule} (h : rule ∈ c.rules) : ∃ condition action,
    c.conditions.get? rule.condition = some condition ∧ c.actions.get? rule.action = some action
      ∧ c.bind? rule = some ⟨condition, action, rule.level, rule.message⟩ := by
  obtain ⟨hc, ha⟩ := c.valid rule h
  have condition : c.conditions.get? rule.condition = some _ := List.getElem?_eq_getElem hc
  have action : c.actions.get? rule.action = some _ := List.getElem?_eq_getElem ha
  refine ⟨_, _, condition, action, ?_⟩
  rw [bind?, condition, action]

/-- What holds of the condition of some bound rule holds of a condition that some rule refers to. -/
theorem exists_boundRule_iff {c : Catalog} (P : Condition → Prop) : (∃ rule ∈ c.boundRules, P rule.condition)
    ↔ ∃ rule ∈ c.rules, ∃ condition, c.conditions.get? rule.condition = some condition ∧ P condition := by
  unfold boundRules
  simp only [List.mem_filterMap]
  constructor
  · rintro ⟨b, ⟨rule, h, hb⟩, hp⟩
    obtain ⟨condition, action, hc, -, hb'⟩ := exists_bind? h
    obtain rfl := Option.some.inj (hb.symm.trans hb')
    exact ⟨rule, h, condition, hc, hp⟩
  · rintro ⟨rule, h, condition, hc, hp⟩
    obtain ⟨condition', action, hc', -, hb⟩ := exists_bind? h
    obtain rfl : condition = condition' := Option.some.inj (hc.symm.trans hc')
    exact ⟨_, ⟨rule, h, hb⟩, hp⟩

end Catalog

namespace Audit

variable {o : Options} {corpus : Corpus} {catalog : Catalog} {identity : String} {level : Level}

/-- What a bound rule says about an artifact under an identity at a level: its message for each text that its condition
selects there and with which its action finds fault. -/
def said (o : Options) (corpus : Corpus) (identity : String) (level : Level) (rule : BoundRule) (path : String) :
    List String :=
  if rule.level = level ∧ o.identity path = identity then
    ((selectionAt o corpus rule.condition path).filter fun hit =>
      rule.action.violates corpus.facts.changeRequest corpus.facts.keywords hit.text).map fun _ => rule.message
  else []

theorem artifact_of_mem_selectionAt {c : Condition} {path : String} {hit : Hit}
    (h : hit ∈ selectionAt o corpus c path) : hit.artifact = path :=
  (mem_selectionAt.mp h).2.1

/-- An artifact with an identity from which a condition selects anything is the artifact of one of its hits. -/
theorem exists_selected_iff {c : Condition} :
    (∃ path ∈ corpus.paths, selectionAt o corpus c path ≠ [] ∧ identity = o.identity path)
      ↔ ∃ hit ∈ corpus.paths.flatMap (selectionAt o corpus c), identity = o.identity hit.artifact := by
  simp only [List.mem_flatMap]
  constructor
  · rintro ⟨path, hp, some_hit, rfl⟩
    obtain ⟨hit, hmem⟩ := List.exists_mem_of_ne_nil _ some_hit
    exact ⟨hit, ⟨path, hp, hmem⟩, by rw [artifact_of_mem_selectionAt hmem]⟩
  · rintro ⟨hit, ⟨path, hp, hmem⟩, rfl⟩
    exact ⟨path, hp, List.ne_nil_of_mem hmem, by rw [artifact_of_mem_selectionAt hmem]⟩

theorem flatMap_fault (fault : Hit → Bool) (message : String) (selected : List Hit) :
    (selected.flatMap fun hit => if fault hit then [message] else [])
      = (selected.filter fault).map fun _ => message := by
  induction selected with
  | nil => rfl
  | cons hit selected ih =>
    rw [List.flatMap_cons, ih]
    cases h : fault hit <;> simp [h]

/-- A rule says what it says about each artifact, one after the other. -/
theorem ruleMessages_eq {rule : Rule} {condition : Condition} {action : Action}
    (hc : catalog.conditions.get? rule.condition = some condition)
    (ha : catalog.actions.get? rule.action = some action) :
    ruleMessages o corpus.facts catalog (collect o corpus catalog) identity level rule
      = corpus.paths.flatMap (said o corpus identity level ⟨condition, action, rule.level, rule.message⟩) := by
  unfold ruleMessages
  rw [hitsOf_collect_of_get? o corpus hc, List.flatMap_assoc]
  refine List.flatMap_congr fun path _ => ?_
  unfold said
  split
  next filed =>
    obtain ⟨rfl, rfl⟩ := filed
    rw [← flatMap_fault]
    refine List.flatMap_congr fun hit hmem => ?_
    simp only [artifact_of_mem_selectionAt hmem, Options.identity, breaks, ha, Option.any_some, true_and]
  next other =>
    refine List.flatMap_eq_nil_iff.mpr fun hit hmem => if_neg fun h => other ⟨h.1, ?_⟩
    rw [← h.2.1, artifact_of_mem_selectionAt hmem]
    rfl

/-- **A check lists** the built-in identities and those of the artifacts from which the condition of some rule selects
anything. -/
theorem mem_identities_run : identity ∈ (run o corpus catalog).identities ↔
    identity = ObjectCounts.identity ∨ identity = ChangeRequest.identity
      ∨ ∃ rule ∈ catalog.boundRules, ∃ path ∈ corpus.paths,
          selectionAt o corpus rule.condition path ≠ [] ∧ identity = o.identity path := by
  unfold run
  rw [mem_identities_evaluate, Catalog.exists_boundRule_iff fun c => ∃ path ∈ corpus.paths,
    selectionAt o corpus c path ≠ [] ∧ identity = o.identity path]
  refine or_congr_right (or_congr_right (exists_congr fun rule => and_congr_right fun h => ?_))
  obtain ⟨c, a, hc, -, -⟩ := Catalog.exists_bind? h
  simp only [hc, Option.some.injEq, exists_eq_left', exists_selected_iff, hitsOf_collect_of_get? o corpus hc]

/-- **A check files** what the built-in checks say and then, rule by rule and artifact by artifact, what the rules
say. -/
theorem messages_run : (run o corpus catalog).messages identity level
    = builtinMessages corpus.facts identity level
        ++ catalog.boundRules.flatMap fun rule => corpus.paths.flatMap (said o corpus identity level rule) := by
  have bound : ∀ rule ∈ catalog.rules,
      ruleMessages o corpus.facts catalog (collect o corpus catalog) identity level rule
        = (catalog.bind? rule).toList.flatMap fun b => corpus.paths.flatMap (said o corpus identity level b) := by
    intro rule h
    obtain ⟨condition, action, hc, ha, hb⟩ := Catalog.exists_bind? h
    rw [ruleMessages_eq hc ha, hb, Option.toList_some, List.flatMap_singleton]
  unfold run Catalog.boundRules
  rw [messages_evaluate, List.filterMap_eq_flatMap_toList, List.flatMap_assoc, List.flatMap_congr bound]

theorem run_congr {d : Catalog} (h : d.boundRules = catalog.boundRules) : run o corpus d = run o corpus catalog := by
  refine Findings.ext_messages ?_ fun x l => by rw [messages_run, messages_run, h]
  refine eq_of_ascending (Findings.ascending_identities _) (Findings.ascending_identities _) fun x => ?_
  rw [mem_identities_run, mem_identities_run, h]

/-- Where a rule selects the same with the same facts it says the same. -/
theorem said_congr_selection {corpus' : Corpus} {rule : BoundRule} {path : String}
    (facts : corpus'.facts = corpus.facts)
    (h : selectionAt o corpus' rule.condition path = selectionAt o corpus rule.condition path) :
    said o corpus' identity level rule path = said o corpus identity level rule path := by
  unfold said
  rw [h, facts]

theorem said_eq_nil {rule : BoundRule} {path : String} (h : selectionAt o corpus rule.condition path = []) :
    said o corpus identity level rule path = [] := by
  unfold said
  rw [h]
  split <;> rfl

/-- **Artifacts from which no rule selects anything do not matter.** -/
theorem run_congr_of_silent {corpus' : Corpus} (keep : String → Bool) (facts : corpus'.facts = corpus.facts)
    (paths : corpus'.paths.filter keep = corpus.paths.filter keep)
    (same : ∀ path ∈ corpus.paths, ∀ rule ∈ catalog.boundRules,
      selectionAt o corpus' rule.condition path = selectionAt o corpus rule.condition path)
    (silent : ∀ path, keep path = false → ∀ rule ∈ catalog.boundRules, selectionAt o corpus' rule.condition path = []) :
    run o corpus' catalog = run o corpus catalog := by
  have listed {path : String} (hk : keep path = true) : path ∈ corpus'.paths ↔ path ∈ corpus.paths := by
    have filtered : path ∈ corpus'.paths.filter keep ↔ path ∈ corpus.paths.filter keep := by rw [paths]
    simpa [hk] using filtered
  have kept {path : String} {rule : BoundRule} (hr : rule ∈ catalog.boundRules)
      (h : selectionAt o corpus' rule.condition path ≠ []) : keep path = true := by
    by_contra hk
    exact h (silent path (Bool.eq_false_iff.mpr hk) rule hr)
  refine Findings.ext_messages ?_ fun x l => ?_
  · refine eq_of_ascending (Findings.ascending_identities _) (Findings.ascending_identities _) fun x => ?_
    rw [mem_identities_run, mem_identities_run]
    refine or_congr_right (or_congr_right (exists_congr fun rule => and_congr_right fun hr =>
      exists_congr fun path => ?_))
    constructor
    · rintro ⟨hp, some_hit, own⟩
      have hp := (listed (kept hr some_hit)).mp hp
      exact ⟨hp, same path hp rule hr ▸ some_hit, own⟩
    · rintro ⟨hp, some_hit, own⟩
      rw [← same path hp rule hr] at some_hit
      exact ⟨(listed (kept hr some_hit)).mpr hp, some_hit, own⟩
  · rw [messages_run, messages_run, facts]
    refine congrArg _ (List.flatMap_congr fun rule hr => ?_)
    calc corpus'.paths.flatMap (said o corpus' x l rule)
        = (corpus'.paths.filter keep).flatMap (said o corpus' x l rule) :=
          (flatMap_filter_of_nil fun path _ hk => said_eq_nil (silent path hk rule hr)).symm
      _ = (corpus.paths.filter keep).flatMap (said o corpus' x l rule) := by rw [paths]
      _ = corpus.paths.flatMap (said o corpus' x l rule) :=
          flatMap_filter_of_nil fun path _ hk => said_eq_nil (silent path hk rule hr)
      _ = corpus.paths.flatMap (said o corpus x l rule) :=
          List.flatMap_congr fun path hp => said_congr_selection facts (same path hp rule hr)

end Audit
end PackageAudit
