import PackageAudit.Audit.Selection
import PackageAudit.Catalog.Basic

/-!
# Selecting for all conditions at once

To read each artifact once, the conditions are looked up by filter: an artifact is tried with the conditions
for all artifacts and with those for its kinds (`applicable`). What is selected is then sorted by condition
(`collect`).
-/

namespace PackageAudit

namespace Catalog

/-- The numbers of the conditions with a property, in ascending order. -/
def conditionIdsWhere (c : Catalog) (holds : Condition → Bool) : List Nat :=
  (c.conditions.items.zipIdx.filter fun (condition, _) => holds condition).map (·.2)

/-- The numbers of the conditions with a filter. -/
def idsWithFilter (c : Catalog) (filter : Filter) : List Nat :=
  c.conditionIdsWhere (·.filter == filter)

/-- The numbers of the conditions with a scope. -/
def idsWithScope (c : Catalog) (scope : Scope) : List Nat :=
  c.conditionIdsWhere (·.scope == scope)

end Catalog

namespace Audit

/-- The numbers of the conditions with each filter and with each scope. -/
structure ConditionIndex where
  withFilter : Filter → List Nat
  withScope : Scope → List Nat

/-- The index of the conditions of a catalog. -/
def ConditionIndex.ofCatalog (c : Catalog) : ConditionIndex :=
  let all := c.idsWithFilter .all
  let createTable := c.idsWithFilter .createTable
  let createView := c.idsWithFilter .createView
  let createComment := c.idsWithFilter .createComment
  let createBackupTable := c.idsWithFilter .createBackupTable
  let createBackupView := c.idsWithFilter .createBackupView
  let line := c.idsWithScope .line
  let script := c.idsWithScope .script
  let filePath := c.idsWithScope .filePath
  { withFilter := fun
      | .all => all
      | .createTable => createTable
      | .createView => createView
      | .createComment => createComment
      | .createBackupTable => createBackupTable
      | .createBackupView => createBackupView
    withScope := fun
      | .line => line
      | .script => script
      | .filePath => filePath }

/-- The numbers of the conditions that apply to the artifact at a path: those for all artifacts, then those for
its kinds. -/
def ConditionIndex.applicable (index : ConditionIndex) (path : String) : List Nat :=
  index.withFilter .all ++ (Artifact.kinds path).flatMap index.withFilter

/-- What the conditions select from one artifact, each with the number of its condition. The text is asked for
only if some condition needs it. -/
def scan (o : Options) (corpus : Corpus) (catalog : Catalog) (index : ConditionIndex) (path : String) :
    List (Nat × Hit) :=
  if o.skips path then []
  else
    let conditions := (index.applicable path).filterMap fun id =>
      (catalog.conditions.get? id).map fun condition => (id, condition)
    let content := if conditions.any (·.2.scope.readsContent) then corpus.content path else none
    conditions.flatMap fun (id, condition) => (hits condition path content).map (id, ·)

/-- What every condition selects from a corpus, by the number of the condition. -/
def collect (o : Options) (corpus : Corpus) (catalog : Catalog) : List (List Hit) :=
  let index := ConditionIndex.ofCatalog catalog
  let found := corpus.paths.flatMap (scan o corpus catalog index)
  (List.range catalog.conditions.size).map fun id =>
    (found.filter (·.1 == id)).map (·.2)

/-- What a condition has selected, by its number. -/
def hitsOf (collected : List (List Hit)) (id : Nat) : List Hit :=
  (collected[id]?).getD []

/-- How many units of text were selected. -/
def total (collected : List (List Hit)) : Nat :=
  collected.flatten.length

end Audit
end PackageAudit
