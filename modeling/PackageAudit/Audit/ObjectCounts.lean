import PackageAudit.Corpus.Basic
import PackageAudit.Findings.Basic

/-!
# Object counts

Whatever a package creates or deletes it has to roll back, and it may roll back nothing else. The names of the
objects are compared and listed, those that agree as information and the others as failures.
-/

namespace PackageAudit.Audit.ObjectCounts

/-- The identity under which the comparison is filed. -/
def identity : String := ".Object Counts"

/-- One comparison: its level, what it says, and the names it lists. -/
structure Comparison where
  level : Level
  what : String
  names : NameSet

def Comparison.message (c : Comparison) : String :=
  "These objects are " ++ c.what ++ ": \n" ++ Text.join ", " c.names.names

/-- All comparisons, in the order in which they are filed. -/
def comparisons (facts : Facts) : List Comparison := [
  ⟨.error, "created but not rolled back", facts.created.diff facts.rolledBack⟩,
  ⟨.information, "created and rolled back", facts.created.inter facts.rolledBack⟩,
  ⟨.error, "deleted but not rolled back", facts.deleted.diff facts.rolledBack⟩,
  ⟨.information, "deleted and rolled back", facts.deleted.inter facts.rolledBack⟩,
  ⟨.error, "not created or deleted but are rolled back",
    facts.rolledBack.diff (facts.created.union facts.deleted)⟩]

/-- Files the comparisons that list any name. -/
def check (facts : Facts) (findings : Findings) : Findings :=
  ((comparisons facts).filter (!·.names.names.isEmpty)).foldl
    (fun f c => f.record identity c.level c.message) (findings.touch identity)

end PackageAudit.Audit.ObjectCounts
