import Mathlib.Data.List.Basic
import PackageAudit.Package.Basic
import PackageAudit.Proofs.Failure

/-!
# The check of a package is a check of what its files say

A package learns its facts as the check goes on, and the reserved keywords only if some text is compared with them. The
findings are those of a check in which all facts are known from the start (`findings_check`): where the keywords are
not asked for, they do not matter (`evaluate_congr_keywords`).
-/

namespace PackageAudit

namespace Audit

variable {o : Options} {facts : Facts} {catalog : Catalog} {collected : List (List Hit)}

/-- Only actions that look for reserved keywords depend on the keywords. -/
theorem violates_congr_keywords {action : Action} (h : ∀ name data, action ≠ ⟨name, .containsReservedKeyword, data⟩)
    (number : String) (keywords keywords' : List String) (text : List Char) :
    action.violates number keywords text = action.violates number keywords' text := by
  obtain ⟨name, kind, data⟩ := action
  cases kind with
  | containsReservedKeyword => exact absurd rfl (h name data)
  | _ => rfl

/-- A rule that compares no text with the keywords files the same whatever they are. -/
theorem applyRule_congr_keywords (keywords : List String) {rule : Rule} (h : rule ∈ catalog.rules)
    (hk : consultsKeywords catalog collected = false) (findings : Findings) :
    applyRule o facts catalog collected findings rule
      = applyRule o { facts with keywords } catalog collected findings rule := by
  have unasked := List.any_eq_false.mp hk rule h
  unfold applyRule
  cases ha : catalog.actions.get? rule.action with
  | none => rfl
  | some action =>
    by_cases reserved : ∃ name data, action = ⟨name, .containsReservedKeyword, data⟩
    · obtain ⟨name, data, rfl⟩ := reserved
      have nothing : hitsOf collected rule.condition = [] := by simpa [ha] using unasked
      simp only [nothing, List.foldl_nil]
    · have other : ∀ name data, action ≠ ⟨name, .containsReservedKeyword, data⟩ :=
        fun name data he => reserved ⟨name, data, he⟩
      refine List.foldl_ext _ _ _ fun findings hit _ => ?_
      unfold judge
      rw [violates_congr_keywords other _ facts.keywords keywords]

/-- **Keywords that are not asked for do not matter.** -/
theorem evaluate_congr_keywords (keywords : List String) (hk : consultsKeywords catalog collected = false) :
    evaluate o facts catalog collected = evaluate o { facts with keywords } catalog collected := by
  unfold evaluate
  exact List.foldl_ext _ _ _ fun findings rule h => applyRule_congr_keywords keywords h hk findings

end Audit

namespace Package

variable {t : FileTree}

def allFacts : List Fact := builtinFacts ++ [.keywords]

/-- A check finds what a run finds that knows all facts from the start. -/
theorem findings_check (t : FileTree) (o : Audit.Options) (catalog : Catalog) (p : Package) :
    (p.check t o catalog).findings = Audit.run o ((p.learnAll t allFacts).corpus t) catalog := by
  have collected : Audit.collect o ((p.learnAll t builtinFacts).corpus t) catalog
      = Audit.collect o ((p.learnAll t allFacts).corpus t) catalog := rfl
  unfold check Audit.run
  simp only
  rw [← collected]
  split
  next => rfl
  next unasked =>
    rw [Bool.not_eq_true] at unasked
    exact Audit.evaluate_congr_keywords _ unasked

/-- What the files say about a package: its artifacts, their texts, and the facts that are derived from them. -/
def survey (t : FileTree) (p : Package) : Corpus where
  paths := p.paths
  content := textOf t
  facts := {
    changeRequest := changeRequest t p.paths
    keywords := keywords t p.keywordsFile
    created := created p.paths
    deleted := deleted t p.paths
    rolledBack := rolledBack t p.paths }

theorem survey_learn (t t' : FileTree) (p : Package) (fact : Fact) : (p.learn t' fact).survey t = p.survey t := by
  cases fact <;> rfl

theorem learn_congr {t' : FileTree} {p : Package} (same : (p.survey t').facts = (p.survey t).facts) (fact : Fact) :
    p.learn t' fact = p.learn t fact := by
  cases fact with
  | changeRequest =>
    exact congrArg (fun f : Facts => { p with changeRequest? := p.changeRequest?.getD f.changeRequest }) same
  | keywords => exact congrArg (fun f : Facts => { p with keywords? := p.keywords?.getD f.keywords }) same
  | created => rfl
  | deleted => exact congrArg (fun f : Facts => { p with deleted? := p.deleted?.getD f.deleted }) same
  | rolledBack => exact congrArg (fun f : Facts => { p with rolledBack? := p.rolledBack?.getD f.rolledBack }) same

/-- The same is learned of files that say the same, whatever is asked for. -/
theorem learnAll_congr {t' : FileTree} (facts : List Fact) : ∀ {p : Package},
    (p.survey t').facts = (p.survey t).facts → p.learnAll t' facts = p.learnAll t facts := by
  induction facts with
  | nil => exact fun _ => rfl
  | cons fact facts ih =>
    intro p same
    show (p.learn t' fact).learnAll t' facts = (p.learn t fact).learnAll t facts
    rw [learn_congr same]
    exact ih (by rw [survey_learn, survey_learn, same])

/-- A package that was just opened knows its paths and no fact. -/
theorem eq_of_open {root : String} {file : Option String} {ignores : List String} {p : Package}
    (h : Package.open t root file ignores = .ok p) : p = { paths := p.paths, keywordsFile := file } := by
  unfold Package.open at h
  split at h
  next =>
    obtain ⟨globs, -, h⟩ := exists_of_bind_eq_ok h
    cases h
    rfl
  next => cases h

/-- The check of a package that was just opened finds what a run finds on what the files say. -/
theorem findings_check_of_open {root : String} {file : Option String} {ignores : List String} {p : Package}
    (h : Package.open t root file ignores = .ok p) (o : Audit.Options) (catalog : Catalog) :
    (p.check t o catalog).findings = Audit.run o (p.survey t) catalog := by
  rw [findings_check]
  rw [eq_of_open h]
  rfl

end Package
end PackageAudit
