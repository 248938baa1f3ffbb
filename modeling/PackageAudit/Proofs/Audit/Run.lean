import PackageAudit.Audit.Run
import PackageAudit.Proofs.Findings.Messages

/-!
# What a check files

`run` lists the two built-in identities and the identity of every selected artifact, whether anything is wrong with
it or not, and files under each identity and level first what the built-in checks say and then, rule by rule and
hit by hit, the message of every rule that is broken (`run_findings`).

Each operation is described by what it lists and what it files: the comparison of object names, the change request
number, one judged hit (`mem_identities_judge`, `messages_judge`) and one rule (`mem_identities_applyRule`,
`messages_applyRule`); the run over all rules follows.
-/

namespace PackageAudit.Audit

open Findings

variable {o : Options} {facts : Facts} {catalog : Catalog} {collected : List (List Hit)} {rule : Rule}
  {f : Findings} {x : String} {l : Level}

/-! ## The built-in checks -/

/-- What the comparison of object names says under an identity at a level: one message for each comparison of the
level that lists a name. -/
def countMessages (facts : Facts) (identity : String) (level : Level) : List String :=
  ((ObjectCounts.comparisons facts).filter (!·.names.names.isEmpty)).flatMap fun c =>
    if identity = ObjectCounts.identity ∧ level = c.level then [c.message] else []

/-- What the built-in checks say under an identity at a level. -/
def builtinMessages (facts : Facts) (identity : String) (level : Level) : List String :=
  countMessages facts identity level
    ++ if identity = ChangeRequest.identity
          ∧ level = (if ChangeRequest.isNumber facts.changeRequest.toList then .information else .warning) then
        ["The Change Record Number is: " ++ facts.changeRequest]
      else []

/-- The comparison of object names lists its own identity, whatever it finds. -/
theorem mem_identities_objectCounts :
    x ∈ (ObjectCounts.check facts f).identities ↔ x = ObjectCounts.identity ∨ x ∈ f.identities := by
  unfold ObjectCounts.check
  rw [mem_identities_foldl fun _ _ _ => mem_identities_record, mem_identities_touch]
  constructor
  · rintro (⟨_, _, h⟩ | h)
    · exact Or.inl h
    · exact h
  · exact Or.inr

theorem messages_objectCounts :
    (ObjectCounts.check facts f).messages x l = f.messages x l ++ countMessages facts x l := by
  have filed (c : ObjectCounts.Comparison) (f : Findings) :
      (f.record ObjectCounts.identity c.level c.message).messages x l
        = f.messages x l ++ if x = ObjectCounts.identity ∧ l = c.level then [c.message] else [] := messages_record
  unfold ObjectCounts.check
  rw [messages_foldl _ filed, messages_touch]
  rfl

theorem mem_identities_builtin :
    x ∈ (builtin facts).identities ↔ x = ObjectCounts.identity ∨ x = ChangeRequest.identity := by
  unfold builtin ChangeRequest.check
  rw [mem_identities_record, mem_identities_objectCounts, identities_empty, or_comm]
  simp

theorem messages_builtin : (builtin facts).messages x l = builtinMessages facts x l := by
  unfold builtin ChangeRequest.check
  rw [messages_record, messages_objectCounts, messages_empty, List.nil_append]
  rfl

/-! ## One rule -/

theorem mem_identities_judge (action : Action) (hit : Hit) :
    x ∈ (judge o facts rule action f hit).identities ↔ x = o.identity hit.artifact ∨ x ∈ f.identities := by
  unfold judge
  split
  · exact mem_identities_record
  · exact mem_identities_touch

/-- Judging a hit files the message of the rule if the text of the hit breaks it. -/
theorem messages_judge (action : Action) (hit : Hit) :
    (judge o facts rule action f hit).messages x l
      = f.messages x l ++ if rule.level = l ∧ o.identity hit.artifact = x
          ∧ action.violates facts.changeRequest facts.keywords hit.text then [rule.message] else [] := by
  unfold judge
  split
  · next h =>
    rw [messages_record]
    congr 2
    simp only [h, and_true]
    rw [and_comm, @eq_comm _ x, @eq_comm _ l]
  · next h => simp [h]

/-- Whether the action of a rule finds that a text breaks it. -/
def breaks (facts : Facts) (catalog : Catalog) (rule : Rule) (text : List Char) : Bool :=
  (catalog.actions.get? rule.action).any (·.violates facts.changeRequest facts.keywords text)

/-- What a rule says under an identity at a level: its message for each hit of the identity that breaks it. -/
def ruleMessages (o : Options) (facts : Facts) (catalog : Catalog) (collected : List (List Hit)) (identity : String)
    (level : Level) (rule : Rule) : List String :=
  (hitsOf collected rule.condition).flatMap fun hit =>
    if rule.level = level ∧ Artifact.shortenIdentity hit.artifact o.rootMarkers = identity
        ∧ breaks facts catalog rule hit.text then [rule.message] else []

theorem exists_action (h : rule ∈ catalog.rules) : ∃ action, catalog.actions.get? rule.action = some action :=
  ⟨_, List.getElem?_eq_getElem (catalog.valid rule h).2⟩

/-- A rule lists the identities of what its condition has selected. -/
theorem mem_identities_applyRule (h : rule ∈ catalog.rules) (f : Findings) :
    x ∈ (applyRule o facts catalog collected f rule).identities ↔
      (∃ hit ∈ hitsOf collected rule.condition, x = o.identity hit.artifact) ∨ x ∈ f.identities := by
  obtain ⟨action, ha⟩ := exists_action h
  unfold applyRule
  rw [ha]
  exact mem_identities_foldl fun hit _ _ => mem_identities_judge action hit

theorem messages_applyRule (rule : Rule) (f : Findings) :
    (applyRule o facts catalog collected f rule).messages x l
      = f.messages x l ++ ruleMessages o facts catalog collected x l rule := by
  unfold applyRule ruleMessages breaks
  cases catalog.actions.get? rule.action with
  | none => simp
  | some action => exact messages_foldl _ fun hit _ => messages_judge action hit

/-! ## All rules -/

/-- The run over all rules lists the built-in identities and those of what is selected for some rule. -/
theorem mem_identities_evaluate : x ∈ (evaluate o facts catalog collected).identities ↔
    x = ObjectCounts.identity ∨ x = ChangeRequest.identity
      ∨ ∃ rule ∈ catalog.rules, ∃ hit ∈ hitsOf collected rule.condition, x = o.identity hit.artifact := by
  unfold evaluate
  rw [mem_identities_foldl fun _ h => mem_identities_applyRule h, mem_identities_builtin, or_comm, or_assoc]

/-- The run over all rules files what the built-in checks say and then what each rule says. -/
theorem messages_evaluate : (evaluate o facts catalog collected).messages x l
    = builtinMessages facts x l ++ catalog.rules.flatMap (ruleMessages o facts catalog collected x l) := by
  unfold evaluate
  rw [messages_foldl _ messages_applyRule, messages_builtin]

/-- **What a check files**: it lists the two built-in identities and the identities of the artifacts that are
selected for some rule, in ascending order and no others; under each identity and level stand the messages of the
built-in checks and then, in the order of the rules and for each rule in the order of selection, the messages of the
rules of that level for the texts that break them. -/
theorem run_findings (o : Options) (corpus : Corpus) (catalog : Catalog) :
    (∀ identity, identity ∈ (run o corpus catalog).identities ↔
        identity = ".Object Counts" ∨ identity = ".Change Record Number"
          ∨ ∃ rule ∈ catalog.rules, ∃ hit ∈ hitsOf (collect o corpus catalog) rule.condition,
              identity = Artifact.shortenIdentity hit.artifact o.rootMarkers)
      ∧ (run o corpus catalog).identities.Pairwise (· < ·)
      ∧ ∀ identity level, (run o corpus catalog).messages identity level
          = builtinMessages corpus.facts identity level
              ++ catalog.rules.flatMap
                  (ruleMessages o corpus.facts catalog (collect o corpus catalog) identity level) :=
  ⟨fun _ => mem_identities_evaluate, ascending_identities _, fun _ _ => messages_evaluate⟩

end PackageAudit.Audit
