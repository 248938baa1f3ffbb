import Mathlib.Data.List.Perm.Basic
import PackageAudit.Proofs.Audit.Bound
import PackageAudit.Proofs.Catalog.Definitions

/-!
# The order of definitions, rules and artifacts

To a check a catalog is its bound rules, so the order in which conditions and actions were defined does not matter. Nor
does the order of the artifacts (`run_reorder`): messages are filed rule by rule, and all that one rule files is its own
message. The order of the rules decides in which order messages are filed under an identity and level, and nothing else
(`shuffled_run`). All of this is said together of catalogs that are built (`run_of_reordered`).
-/

namespace PackageAudit

/-- A corpus with its artifacts in another order. -/
def Corpus.reorder (corpus : Corpus) (paths : List String) : Corpus :=
  { corpus with paths := paths }

namespace Audit

variable {o : Options} {corpus : Corpus} {c d : Catalog} {paths : List String}

theorem eq_of_mem_said {x m path : String} {l : Level} {rule : BoundRule} (h : m ∈ said o corpus x l rule path) :
    m = rule.message := by
  unfold said at h
  split at h
  · obtain ⟨_, -, rfl⟩ := List.mem_map.mp h
    rfl
  · cases h

/-- What a rule says about all artifacts does not depend on their order. -/
theorem flatMap_said_congr (h : corpus.paths.Perm paths) (x : String) (l : Level) (rule : BoundRule) :
    paths.flatMap (said o corpus x l rule) = corpus.paths.flatMap (said o corpus x l rule) := by
  have own : ∀ m ∈ corpus.paths.flatMap (said o corpus x l rule), m = rule.message := by
    intro m hm
    obtain ⟨path, -, hm⟩ := List.mem_flatMap.mp hm
    exact eq_of_mem_said hm
  have perm := h.symm.flatMap_right (said o corpus x l rule)
  rw [List.eq_replicate_of_mem own] at perm ⊢
  exact List.perm_replicate.mp perm

/-- **The order of the artifacts does not matter.** -/
theorem run_reorder (h : corpus.paths.Perm paths) : run o (corpus.reorder paths) c = run o corpus c := by
  refine Findings.ext_messages ?_ fun x l => ?_
  · refine eq_of_ascending (Findings.ascending_identities _) (Findings.ascending_identities _) fun x => ?_
    rw [mem_identities_run, mem_identities_run]
    simp only [h.mem_iff]
    rfl
  · rw [messages_run, messages_run]
    exact congrArg _ (List.flatMap_congr fun rule _ => flatMap_said_congr h x l rule)

/-- **The order of the rules** decides in which order messages are filed and nothing else. -/
theorem shuffled_run (h : c.boundRules.Perm d.boundRules) : Findings.Shuffled (run o corpus c) (run o corpus d) where
  identities := by
    refine eq_of_ascending (Findings.ascending_identities _) (Findings.ascending_identities _) fun x => ?_
    rw [mem_identities_run, mem_identities_run]
    simp only [h.mem_iff]
  messages x l := by
    rw [messages_run, messages_run]
    exact (h.symm.flatMap_right _).append_left _

/-- **The order of definitions, rules and artifacts**: from definitions with distinct names and rules that name them a
catalog can be built, whatever the order. The order of the definitions changes nothing that a check finds, and that of
the artifacts neither; if the rules too come in another order, the same identities are listed, each level of each of
them has the same messages in another order, and all numbers are the same. -/
theorem run_of_reordered {definitions definitions' : List Definition} {rules rules' : List NamedRule}
    (names : Definition.Names definitions rules) (hd : definitions.Perm definitions') (hr : rules.Perm rules') :
    ∃ c c' d, Catalog.build definitions rules = .ok c ∧ Catalog.build definitions' rules = .ok c'
      ∧ Catalog.build definitions' rules' = .ok d
      ∧ (∀ o corpus, run o corpus c' = run o corpus c)
      ∧ ∀ o corpus paths, corpus.paths.Perm paths →
          run o (corpus.reorder paths) c = run o corpus c
            ∧ Findings.Shuffled (run o corpus c) (run o (corpus.reorder paths) d)
            ∧ Findings.SameCounts (run o corpus c) (run o (corpus.reorder paths) d) := by
  have names_definitions := names.of_perm hd (.refl rules)
  have names_all := names.of_perm hd hr
  obtain ⟨c, hc, bound⟩ := Catalog.exists_build names
  obtain ⟨c', hc', bound'⟩ := Catalog.exists_build names_definitions
  obtain ⟨d, hd', boundRules⟩ := Catalog.exists_build names_all
  rw [Catalog.resolve_congr names names_definitions hd] at bound' boundRules
  have perm : c.boundRules.Perm d.boundRules := by
    rw [bound, boundRules]
    exact hr.filterMap _
  refine ⟨c, c', d, hc, hc', hd', fun o corpus => run_congr (bound'.trans bound.symm), fun o corpus paths hp => ?_⟩
  rw [run_reorder hp, run_reorder hp]
  exact ⟨rfl, shuffled_run perm, (shuffled_run perm).sameCounts⟩

/-- Two conditions and an action. -/
def pathAndLine : List Definition := [
  .condition ⟨"path", "", .filePath, .all, .contains []⟩,
  .condition ⟨"line", "", .line, .all, .contains []⟩,
  .action ⟨"no drop", .noTextMatch "DROP".toList, "DROP"⟩]

/-- A rule on paths and a rule on lines. -/
def pathThenLine : List NamedRule :=
  [⟨"path", "no drop", .error, "its path"⟩, ⟨"line", "no drop", .error, "its line"⟩]

def namesakes : Corpus where
  paths := ["a/DBAI/DROP.sql", "b/DBAI/DROP.sql"]
  content := fun path => if path = "a/DBAI/DROP.sql" then some "DROP A;".toList else none

/-- What is filed as a failure of the two scripts if the catalog can be built. -/
def failuresOfNamesakes (definitions : List Definition) (rules : List NamedRule) (paths : List String) :
    Option (List String) :=
  (Catalog.build definitions rules).toOption.map fun c =>
    (run {} (namesakes.reorder paths) c).messages "/DBAI/DROP.sql" .error

/-- With everything in reverse the same three messages are filed, those of the rule on lines first. -/
theorem run_of_reversed : Definition.Names pathAndLine pathThenLine
    ∧ failuresOfNamesakes pathAndLine pathThenLine namesakes.paths = some ["its path", "its path", "its line"]
    ∧ failuresOfNamesakes pathAndLine.reverse pathThenLine.reverse namesakes.paths.reverse
        = some ["its line", "its path", "its path"]
    ∧ ∃ c c' d, Catalog.build pathAndLine pathThenLine = .ok c
        ∧ Catalog.build pathAndLine.reverse pathThenLine = .ok c'
        ∧ Catalog.build pathAndLine.reverse pathThenLine.reverse = .ok d
        ∧ run {} namesakes c' = run {} namesakes c
        ∧ Findings.Shuffled (run {} namesakes c) (run {} (namesakes.reorder namesakes.paths.reverse) d)
        ∧ Findings.SameCounts (run {} namesakes c) (run {} (namesakes.reorder namesakes.paths.reverse) d) := by
  have names : Definition.Names pathAndLine pathThenLine := ⟨by decide, by decide, by decide⟩
  obtain ⟨c, c', d, hc, hc', hd, same, reordered⟩ :=
    run_of_reordered names (List.reverse_perm _).symm (List.reverse_perm _).symm
  obtain ⟨-, shuffled, counts⟩ := reordered {} namesakes _ (List.reverse_perm _).symm
  exact ⟨names, by decide +kernel, by decide +kernel, c, c', d, hc, hc', hd, same {} namesakes, shuffled, counts⟩

end Audit
end PackageAudit
