import Mathlib.Data.List.Count
import Mathlib.Logic.Function.Basic
import PackageAudit.Proofs.Audit.Index

/-!
# The index of conditions is two partitions

The index can be grown: the number of one condition after the other is enlisted by its filter and by its scope
(`ConditionIndex.add`). A number that is enlisted comes last in one list (`enlist_apply`), so after a run over all
conditions each list holds the numbers of the conditions with its key, in their order (`foldl_enlist`). That is the
index of the catalog (`ofCatalog_eq_grown`).

Either half of the index is a partition of the numbers (`Partitions`). A definition that is replaced keeps its number,
and the filter and the scope that count are those of the last definition.

Main statement: `index_partitions`.
-/

namespace PackageAudit.Audit

variable {κ : Type} [DecidableEq κ]

/-! ## The index grows -/

/-- Lists of numbers with one more, which comes last in the list for the key of its condition. -/
def enlist (key : Condition → κ) (ids : κ → List Nat) (entry : Condition × Nat) : κ → List Nat :=
  Function.update ids (key entry.1) (ids (key entry.1) ++ [entry.2])

theorem enlist_apply (key : Condition → κ) (ids : κ → List Nat) (entry : Condition × Nat) (k : κ) :
    enlist key ids entry k = ids k ++ if key entry.1 = k then [entry.2] else [] := by
  unfold enlist
  by_cases h : key entry.1 = k
  · subst h
    rw [Function.update_self, if_pos rfl]
  · rw [Function.update_of_ne (Ne.symm h), if_neg h, List.append_nil]

/-- Numbers that are enlisted one after the other come last in their order, each in the list for its key. -/
theorem foldl_enlist (key : Condition → κ) (entries : List (Condition × Nat)) (ids : κ → List Nat) (k : κ) :
    entries.foldl (enlist key) ids k = ids k ++ (entries.filter (key ·.1 == k)).map (·.2) := by
  induction entries generalizing ids with
  | nil => exact (List.append_nil _).symm
  | cons entry entries ih =>
    rw [List.foldl_cons, ih, enlist_apply, List.append_assoc, List.filter_cons]
    by_cases h : key entry.1 = k <;> simp [h]

namespace ConditionIndex

def empty : ConditionIndex where
  withFilter _ := []
  withScope _ := []

/-- The index with one more condition, of which the number is enlisted by its filter and by its scope. -/
def add (index : ConditionIndex) (entry : Condition × Nat) : ConditionIndex where
  withFilter := enlist Condition.filter index.withFilter entry
  withScope := enlist Condition.scope index.withScope entry

/-- The index that grows over conditions, one after the other. -/
def grown (conditions : List Condition) : ConditionIndex :=
  conditions.zipIdx.foldl add empty

theorem withFilter_grown (conditions : List Condition) :
    (grown conditions).withFilter = conditions.zipIdx.foldl (enlist Condition.filter) empty.withFilter :=
  (List.foldl_hom withFilter fun _ _ => rfl).symm

theorem withScope_grown (conditions : List Condition) :
    (grown conditions).withScope = conditions.zipIdx.foldl (enlist Condition.scope) empty.withScope :=
  (List.foldl_hom withScope fun _ _ => rfl).symm

end ConditionIndex

theorem withScope_ofCatalog (c : Catalog) : (ConditionIndex.ofCatalog c).withScope = c.idsWithScope := by
  funext s
  cases s <;> rfl

/-- Enlisting all conditions of a catalog by a key lists those with each value of it. -/
theorem foldl_enlist_conditions (key : Condition → κ) (catalog : Catalog) :
    catalog.conditions.items.zipIdx.foldl (enlist key) (fun _ => [])
      = fun k => catalog.conditionIdsWhere (key · == k) := by
  funext k
  rw [foldl_enlist, List.nil_append, Catalog.conditionIdsWhere]

/-- **The index of a catalog** is the one that grows over its conditions. -/
theorem ofCatalog_eq_grown (catalog : Catalog) :
    ConditionIndex.ofCatalog catalog = ConditionIndex.grown catalog.conditions.items := by
  have filters : (ConditionIndex.ofCatalog catalog).withFilter
      = (ConditionIndex.grown catalog.conditions.items).withFilter := by
    rw [withFilter_ofCatalog, ConditionIndex.withFilter_grown]
    exact (foldl_enlist_conditions Condition.filter catalog).symm
  have scopes : (ConditionIndex.ofCatalog catalog).withScope
      = (ConditionIndex.grown catalog.conditions.items).withScope := by
    rw [withScope_ofCatalog, ConditionIndex.withScope_grown]
    exact (foldl_enlist_conditions Condition.scope catalog).symm
  exact congr (congrArg ConditionIndex.mk filters) scopes

/-! ## Partitions -/

/-- Whether the numbers of conditions are sorted by a key: each of them stands once in the list of the key that its
condition has, and nowhere else; the lists ascend and hold no other numbers. -/
structure Partitions (key : Condition → κ) (conditions : List Condition) (ids : κ → List Nat) : Prop where
  own : ∀ (id : Nat) (h : id < conditions.length) (k : κ),
    (ids k).count id = if k = key conditions[id] then 1 else 0
  ascending : ∀ k, (ids k).Pairwise (· < ·)
  below : ∀ k, ∀ id ∈ ids k, id < conditions.length

theorem ascending_conditionIdsWhere (c : Catalog) (holds : Condition → Bool) :
    (c.conditionIdsWhere holds).Pairwise (· < ·) := by
  have all : (c.conditions.items.zipIdx.map (·.2)).Pairwise (· < ·) := by
    rw [List.zipIdx_map_snd]
    exact List.pairwise_lt_range'
  exact all.sublist (List.filter_sublist.map _)

/-- The numbers that are listed for the values of a key are sorted by it. -/
theorem partitions_conditionIdsWhere (key : Condition → κ) (catalog : Catalog) :
    Partitions key catalog.conditions.items fun k => catalog.conditionIdsWhere (key · == k) where
  own id h k := by
    have listed : id ∈ catalog.conditionIdsWhere (key · == k) ↔ k = key catalog.conditions.items[id] := by
      rw [Catalog.mem_conditionIdsWhere, Roster.get?, List.getElem?_eq_getElem h, eq_comm]
      simp only [Option.some_inj, exists_eq_left', beq_iff_eq]
    rw [(catalog.nodup_conditionIdsWhere _).count]
    exact if_congr listed rfl rfl
  ascending k := ascending_conditionIdsWhere catalog _
  below k id hid := by
    obtain ⟨c, hc, -⟩ := Catalog.mem_conditionIdsWhere.mp hid
    exact (List.getElem?_eq_some_iff.mp hc).1

/-- **The index of conditions** is grown over the catalog, and it is a partition by filter and a partition by scope. The
conditions that an artifact is tried with are those for all artifacts or for a kind of the artifact, each of them once,
and those for all artifacts come first. -/
theorem index_partitions (catalog : Catalog) :
    ConditionIndex.ofCatalog catalog = ConditionIndex.grown catalog.conditions.items
      ∧ Partitions Condition.filter catalog.conditions.items (ConditionIndex.ofCatalog catalog).withFilter
      ∧ Partitions Condition.scope catalog.conditions.items (ConditionIndex.ofCatalog catalog).withScope
      ∧ ∀ path, ((ConditionIndex.ofCatalog catalog).applicable path).Nodup
        ∧ (∀ id, id ∈ (ConditionIndex.ofCatalog catalog).applicable path
          ↔ ∃ c, catalog.conditions.get? id = some c ∧ (c.filter = .all ∨ c.filter ∈ Artifact.kinds path))
        ∧ ∃ others, (ConditionIndex.ofCatalog catalog).applicable path
              = (ConditionIndex.ofCatalog catalog).withFilter .all ++ others
            ∧ ∀ id ∈ others, id ∉ (ConditionIndex.ofCatalog catalog).withFilter .all := by
  refine ⟨ofCatalog_eq_grown catalog, ?_, ?_, fun path => ⟨nodup_applicable catalog path, fun id => mem_applicable, _,
    rfl, fun id hid hall => ?_⟩⟩
  · rw [withFilter_ofCatalog]
    exact partitions_conditionIdsWhere Condition.filter catalog
  · rw [withScope_ofCatalog]
    exact partitions_conditionIdsWhere Condition.scope catalog
  · exact (List.nodup_append.mp (nodup_applicable catalog path)).2.2 id hall id hid rfl

/-- Two conditions, of which the first was replaced by one with another filter. -/
def replaced : Catalog :=
  ((Catalog.empty.addCondition ⟨"first", "", .line, .all, .contains []⟩).addCondition
    ⟨"second", "", .line, .createTable, .contains []⟩).addCondition ⟨"first", "", .script, .createTable, .contains []⟩

example : (ConditionIndex.ofCatalog replaced).withFilter .all = []
    ∧ (ConditionIndex.ofCatalog replaced).withScope .line = [1]
    ∧ (ConditionIndex.ofCatalog replaced).applicable "Auto_Backup_Tables/X.tbl" = [0, 1] := by
  decide

end PackageAudit.Audit
