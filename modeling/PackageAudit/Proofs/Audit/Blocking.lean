import Mathlib.Data.List.Basic
import PackageAudit.Proofs.Audit.Index
import PackageAudit.Proofs.Audit.Run

/-!
# When a check blocks the build

A check has failures exactly if the objects that are created or deleted are not those that are rolled back, or a rule
of level error is broken (`run_hasFailures`). That a rule is broken is said without collections, identities and
findings (`Broken`): its condition selects a text of some artifact (`Selects`) and its action finds fault with it.

So rules of other levels and rules whose action has no known kind can be left out (`hasFailures_keepRules`), and so can
the check of the change request number (`hasFailures_withoutChangeRequest`).
-/

namespace PackageAudit

namespace Audit

variable {o : Options} {corpus : Corpus} {catalog : Catalog} {path : String}

/-! ## Selected texts -/

/-- The texts that a condition selects from an artifact which is looked at: the path, the lines, or the whole text of
which some line satisfies the condition. -/
inductive Selects (corpus : Corpus) (c : Condition) (path : String) : List Char → Prop
  | path (scope : c.scope = .filePath) (holds : c.admits path.toList = true) : Selects corpus c path path.toList
  | line {text line : List Char} (scope : c.scope = .line) (read : corpus.content path = some text)
      (mem : line ∈ Text.lines text) (holds : c.admits line = true) : Selects corpus c path line
  | script {text line : List Char} (scope : c.scope = .script) (read : corpus.content path = some text)
      (mem : line ∈ Text.lines text) (holds : c.admits line = true) : Selects corpus c path text

/-- Whether an artifact is looked at for a condition: its path does not end in a skipped suffix, and the filter is
for all artifacts or for one of its kinds. -/
def LooksAt (o : Options) (c : Condition) (path : String) : Prop :=
  (∀ suffix ∈ o.skipSuffixes, ¬suffix.toList <:+ path.toList) ∧ (c.filter = .all ∨ c.filter ∈ Artifact.kinds path)

/-- The hits of a condition in an artifact are the texts that it selects there. -/
theorem mem_hits {c : Condition} {hit : Hit} :
    hit ∈ hits c path (corpus.content path) ↔ hit.artifact = path ∧ Selects corpus c path hit.text := by
  obtain ⟨artifact, text⟩ := hit
  show _ ↔ artifact = path ∧ Selects corpus c path text
  unfold hits
  constructor
  · intro h
    split at h
    next scope =>
      split at h
      next holds =>
        obtain ⟨rfl, rfl⟩ := Hit.mk.injEq .. ▸ List.mem_singleton.mp h
        exact ⟨rfl, .path scope holds⟩
      next => cases h
    next whole scope read =>
      obtain ⟨line, hline, he⟩ := List.mem_map.mp h
      obtain ⟨rfl, rfl⟩ := Hit.mk.injEq .. ▸ he
      obtain ⟨mem, holds⟩ := List.mem_filter.mp hline
      exact ⟨rfl, .line scope read mem holds⟩
    next whole scope read =>
      split at h
      next some_line =>
        obtain ⟨rfl, rfl⟩ := Hit.mk.injEq .. ▸ List.mem_singleton.mp h
        obtain ⟨line, mem, holds⟩ := List.any_eq_true.mp some_line
        exact ⟨rfl, .script scope read mem holds⟩
      next => cases h
    next => cases h
    next => cases h
  · rintro ⟨rfl, selected⟩
    cases selected with
    | path scope holds => simp [scope, holds]
    | line scope read mem holds => simp [scope, read, mem, holds]
    | script scope read mem holds =>
      have some_line := List.any_eq_true.mpr ⟨_, mem, holds⟩
      simp [scope, read, some_line]

/-- The selection of a condition from an artifact holds the texts that it selects there, if the artifact is looked
at. -/
theorem mem_selectionAt {c : Condition} {hit : Hit} : hit ∈ selectionAt o corpus c path ↔
    LooksAt o c path ∧ hit.artifact = path ∧ Selects corpus c path hit.text := by
  have kept : LooksAt o c path ↔ o.skips path = false ∧ (c.filter = .all ∨ c.filter ∈ Artifact.kinds path) := by
    unfold LooksAt
    rw [← Bool.not_eq_true, skips_iff, not_exists]
    simp only [not_and]
  rw [kept]
  by_cases hs : o.skips path = true
  · simp [selectionAt_of_skips hs, hs]
  by_cases ha : c.filter = .all ∨ c.filter ∈ Artifact.kinds path
  · rw [Bool.not_eq_true] at hs
    simp only [hs, ha, true_and, selectionAt_of_admitted hs ha, mem_hits]
  · simp [selectionAt_of_not_admitted ha, ha]

/-! ## Broken rules -/

/-- Whether the artifacts break a rule: there is an artifact that is looked at for its condition, and a text which the
condition selects there and with which its action finds fault. -/
def Broken (o : Options) (corpus : Corpus) (catalog : Catalog) (rule : Rule) : Prop :=
  ∃ condition action, catalog.conditions.get? rule.condition = some condition
    ∧ catalog.actions.get? rule.action = some action
    ∧ ∃ path ∈ corpus.paths, LooksAt o condition path
      ∧ ∃ text, Selects corpus condition path text
        ∧ action.violates corpus.facts.changeRequest corpus.facts.keywords text = true

/-- A rule is broken if one of the hits of its condition breaks it. -/
theorem broken_iff {rule : Rule} (h : rule ∈ catalog.rules) : Broken o corpus catalog rule ↔
    ∃ hit ∈ hitsOf (collect o corpus catalog) rule.condition, breaks corpus.facts catalog rule hit.text = true := by
  obtain ⟨action, ha⟩ := exists_action h
  obtain ⟨condition, hc⟩ : ∃ c, catalog.conditions.get? rule.condition = some c :=
    ⟨_, List.getElem?_eq_getElem (catalog.valid rule h).1⟩
  rw [hitsOf_collect_of_get? o corpus hc]
  simp only [Broken, breaks, hc, ha, Option.some.injEq, exists_and_left, exists_eq_left', Option.any_some,
    List.mem_flatMap, mem_selectionAt]
  constructor
  · rintro ⟨path, hp, looks, text, selected, fault⟩
    exact ⟨⟨path, text⟩, ⟨path, hp, looks, rfl, selected⟩, fault⟩
  · rintro ⟨hit, ⟨path, hp, looks, -, selected⟩, fault⟩
    exact ⟨path, hp, looks, hit.text, selected, fault⟩

/-- A rule files failures if it is of level error and broken. -/
theorem exists_ruleMessages_iff {rule : Rule} (h : rule ∈ catalog.rules) :
    (∃ x, ruleMessages o corpus.facts catalog (collect o corpus catalog) x .error rule ≠ [])
      ↔ rule.level = .error ∧ Broken o corpus catalog rule := by
  rw [broken_iff h]
  unfold ruleMessages
  simp only [ne_eq, List.flatMap_eq_nil_iff, not_forall]
  constructor
  · rintro ⟨x, hit, hmem, hne⟩
    split at hne
    next hbreaks => exact ⟨hbreaks.1, hit, hmem, hbreaks.2.2⟩
    next => exact absurd rfl hne
  · rintro ⟨hlevel, hit, hmem, hbreaks⟩
    refine ⟨o.identity hit.artifact, hit, hmem, ?_⟩
    rw [if_pos ⟨hlevel, rfl, hbreaks⟩]
    exact List.cons_ne_nil _ _

/-! ## The built-in checks -/

/-- Whether the objects of a package are not balanced: those created or deleted are not those rolled back. -/
def Unbalanced (facts : Facts) : Prop :=
  facts.created.union facts.deleted ≠ facts.rolledBack

/-- The comparison of object names files messages of a level if some comparison of that level lists a name. -/
theorem exists_countMessages_iff {facts : Facts} {l : Level} : (∃ x, countMessages facts x l ≠ []) ↔
    ∃ c ∈ ObjectCounts.comparisons facts, c.level = l ∧ ∃ name, name ∈ c.names := by
  have listed {s : NameSet} : (!s.names.isEmpty) = true ↔ ∃ name, name ∈ s := by
    rw [Bool.not_eq_true', List.isEmpty_eq_false_iff_exists_mem]
    rfl
  unfold countMessages
  simp only [ne_eq, List.flatMap_eq_nil_iff, not_forall, List.mem_filter, listed]
  constructor
  · rintro ⟨x, c, ⟨hc, some_name⟩, hne⟩
    split at hne
    next filed => exact ⟨c, hc, filed.2.symm, some_name⟩
    next => exact absurd rfl hne
  · rintro ⟨c, hc, rfl, some_name⟩
    refine ⟨ObjectCounts.identity, c, ⟨hc, some_name⟩, ?_⟩
    rw [if_pos ⟨rfl, rfl⟩]
    exact List.cons_ne_nil _ _

/-- The objects are not balanced if one of the comparisons of level error lists a name. -/
theorem unbalanced_iff {facts : Facts} : Unbalanced facts ↔
    ∃ c ∈ ObjectCounts.comparisons facts, c.level = .error ∧ ∃ name, name ∈ c.names := by
  have balanced : ¬Unbalanced facts ↔
      ∀ name, name ∈ facts.created ∨ name ∈ facts.deleted ↔ name ∈ facts.rolledBack := by
    rw [Unbalanced, not_not]
    constructor
    · intro h name
      rw [← h, NameSet.mem_union]
    · intro h
      exact NameSet.ext_mem fun name => by rw [NameSet.mem_union, h]
  rw [← not_iff_not, balanced]
  simp only [ObjectCounts.comparisons, List.exists_mem_cons_iff, List.not_mem_nil, false_and, exists_false, or_false,
    NameSet.mem_diff, NameSet.mem_union, true_and, reduceCtorEq, false_or]
  grind

/-- The built-in checks file failures if the objects are not balanced. -/
theorem exists_builtinMessages_iff {facts : Facts} :
    (∃ x, builtinMessages facts x .error ≠ []) ↔ Unbalanced facts := by
  have request (x : String) : builtinMessages facts x .error = countMessages facts x .error := by
    unfold builtinMessages
    rw [if_neg, List.append_nil]
    rintro ⟨-, h⟩
    split at h <;> cases h
  simp only [request]
  rw [exists_countMessages_iff, unbalanced_iff]

/-! ## The outcome -/

/-- Whether a check has to block the build: the objects are not balanced, or a rule of level error is broken. -/
def Blocks (o : Options) (corpus : Corpus) (catalog : Catalog) : Prop :=
  Unbalanced corpus.facts ∨ ∃ rule ∈ catalog.rules, rule.level = .error ∧ Broken o corpus catalog rule

/-- **A check has failures exactly if it has to block the build.** -/
theorem run_hasFailures : (run o corpus catalog).hasFailures = true ↔ Blocks o corpus catalog := by
  have said (x : String) : (run o corpus catalog).messages x .error ≠ []
      ↔ builtinMessages corpus.facts x .error ≠ []
        ∨ ∃ rule ∈ catalog.rules, ruleMessages o corpus.facts catalog (collect o corpus catalog) x .error rule ≠ [] := by
    unfold run
    rw [messages_evaluate, ne_eq, List.append_eq_nil_iff, not_and_or, List.flatMap_eq_nil_iff, not_forall]
    simp only [not_forall, exists_prop, ne_eq]
  rw [Findings.hasFailures_iff_messages]
  simp only [said]
  rw [exists_or, exists_builtinMessages_iff, exists_comm]
  refine or_congr_right (exists_congr fun rule => ?_)
  rw [exists_and_left]
  exact and_congr_right exists_ruleMessages_iff

/-! ## What does not count -/

/-- What a check finds that does not look at the change request number. -/
def runWithoutChangeRequest (o : Options) (corpus : Corpus) (catalog : Catalog) : Findings :=
  catalog.rules.foldl (applyRule o corpus.facts catalog (collect o corpus catalog))
    (ObjectCounts.check corpus.facts .empty)

/-- The change request number, right or wrong, never blocks the build. -/
theorem hasFailures_withoutChangeRequest :
    (runWithoutChangeRequest o corpus catalog).hasFailures = (run o corpus catalog).hasFailures := by
  have same (x : String) : (runWithoutChangeRequest o corpus catalog).messages x .error
      = (run o corpus catalog).messages x .error := by
    unfold runWithoutChangeRequest run evaluate builtin ChangeRequest.check
    rw [Findings.messages_foldl _ messages_applyRule, Findings.messages_foldl _ messages_applyRule,
      Findings.messages_record, if_neg, List.append_nil]
    rintro ⟨-, h⟩
    split at h <;> cases h
  rw [Bool.eq_iff_iff, Findings.hasFailures_iff_messages, Findings.hasFailures_iff_messages]
  simp only [same]

end Audit

namespace Catalog

/-- A catalog with some of its rules. -/
def keepRules (c : Catalog) (keep : Rule → Bool) : Catalog :=
  { c with
    rules := c.rules.filter keep
    valid := fun r hr => c.valid r (List.mem_of_mem_filter hr) }

/-- Whether a rule can block the build: it is of level error and its action is of a known kind. -/
def canBlock (c : Catalog) (rule : Rule) : Bool :=
  rule.level = .error && (c.actions.get? rule.action).any fun action => action.kind.key?.isSome

end Catalog

namespace Audit

variable {o : Options} {corpus : Corpus} {catalog : Catalog}

theorem isSome_key?_of_violates {action : Action} {number : String} {keywords : List String} {text : List Char}
    (h : action.violates number keywords text = true) : action.kind.key?.isSome = true := by
  unfold Action.violates at h
  cases hk : action.kind with
  | unknown =>
    rw [hk] at h
    cases h
  | _ => rfl

/-- Rules of other levels and rules with an action of unknown kind never block the build. -/
theorem hasFailures_keepRules :
    (run o corpus (catalog.keepRules catalog.canBlock)).hasFailures = (run o corpus catalog).hasFailures := by
  rw [Bool.eq_iff_iff, run_hasFailures, run_hasFailures]
  refine or_congr_right (exists_congr fun rule => ?_)
  have same : Broken o corpus (catalog.keepRules catalog.canBlock) rule ↔ Broken o corpus catalog rule := Iff.rfl
  rw [same]
  constructor
  · rintro ⟨hmem, hlevel, broken⟩
    exact ⟨List.mem_of_mem_filter hmem, hlevel, broken⟩
  · rintro ⟨hmem, hlevel, broken⟩
    refine ⟨List.mem_filter.mpr ⟨hmem, ?_⟩, hlevel, broken⟩
    obtain ⟨_, action, _, ha, _, _, _, _, _, fault⟩ := broken
    simp [Catalog.canBlock, hlevel, ha, isSome_key?_of_violates fault]

end Audit
end PackageAudit
