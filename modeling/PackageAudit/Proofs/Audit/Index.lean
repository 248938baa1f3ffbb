import Mathlib.Data.List.Nodup
import PackageAudit.Audit.Index
import PackageAudit.Proofs.Lists

/-!
# The index of conditions selects what each condition selects

`scan` tries an artifact with the conditions that the index has for its path and `collect` sorts what was selected
by condition. The conditions that are tried are exactly those whose filter admits the artifact, each of them once
(`mem_applicable`, `nodup_applicable`), so sorting what `scan` has selected gives the selection of each condition
from that artifact (`filter_scan`).

`selectionAt` says without an index what a condition has to select from one artifact; `collect` selects just that,
artifact by artifact (`hitsOf_collect`).
-/

namespace PackageAudit

/-! ## Numbers of conditions -/

namespace Catalog

theorem mem_conditionIdsWhere {c : Catalog} {holds : Condition → Bool} {id : Nat} :
    id ∈ c.conditionIdsWhere holds ↔ ∃ condition, c.conditions.get? id = some condition ∧ holds condition := by
  simp only [conditionIdsWhere, List.mem_map, List.mem_filter, Prod.exists, exists_eq_right,
    List.mem_zipIdx_iff_getElem?, Roster.get?]

theorem nodup_conditionIdsWhere (c : Catalog) (holds : Condition → Bool) : (c.conditionIdsWhere holds).Nodup := by
  have all : (c.conditions.items.zipIdx.map (·.2)).Nodup := by
    rw [List.zipIdx_map_snd]
    exact List.nodup_range'
  exact all.sublist (List.filter_sublist.map _)

theorem idsWithFilter_disjoint {c : Catalog} {f g : Filter} (h : f ≠ g) {id : Nat} (hf : id ∈ c.idsWithFilter f) :
    id ∉ c.idsWithFilter g := by
  intro hg
  obtain ⟨x, hx, hxf⟩ := mem_conditionIdsWhere.mp hf
  obtain ⟨y, hy, hyg⟩ := mem_conditionIdsWhere.mp hg
  obtain rfl : x = y := Option.some.inj (hx.symm.trans hy)
  exact h ((eq_of_beq hxf).symm.trans (eq_of_beq hyg))

end Catalog

namespace Audit

variable {o : Options} {corpus : Corpus} {catalog : Catalog} {path : String} {id : Nat}

/-! ## The conditions that an artifact is tried with -/

theorem withFilter_ofCatalog (c : Catalog) : (ConditionIndex.ofCatalog c).withFilter = c.idsWithFilter := by
  funext f
  cases f <;> rfl

theorem all_notMem_kinds (path : String) : Filter.all ∉ Artifact.kinds path := by
  unfold Artifact.kinds Artifact.fileKind Artifact.backupKind
  repeat' split
  all_goals simp

/-- An artifact is tried with the conditions whose filter admits it. -/
theorem mem_applicable : id ∈ (ConditionIndex.ofCatalog catalog).applicable path ↔
    ∃ c, catalog.conditions.get? id = some c ∧ (c.filter = .all ∨ c.filter ∈ Artifact.kinds path) := by
  simp only [ConditionIndex.applicable, List.mem_append, List.mem_flatMap, withFilter_ofCatalog,
    Catalog.idsWithFilter, Catalog.mem_conditionIdsWhere, beq_iff_eq]
  constructor
  · rintro (⟨c, hc, hf⟩ | ⟨kind, hk, c, hc, hf⟩)
    · exact ⟨c, hc, Or.inl hf⟩
    · exact ⟨c, hc, Or.inr (hf ▸ hk)⟩
  · rintro ⟨c, hc, hf | hk⟩
    · exact Or.inl ⟨c, hc, hf⟩
    · exact Or.inr ⟨c.filter, hk, c, hc, rfl⟩

/-- **No condition is tried twice on an artifact**, whatever kinds the artifact has. -/
theorem nodup_applicable (catalog : Catalog) (path : String) :
    ((ConditionIndex.ofCatalog catalog).applicable path).Nodup := by
  unfold ConditionIndex.applicable
  rw [withFilter_ofCatalog]
  refine List.nodup_append.mpr ⟨catalog.nodup_conditionIdsWhere _, ?_, ?_⟩
  · refine List.nodup_flatMap.mpr ⟨fun kind _ => catalog.nodup_conditionIdsWhere _, ?_⟩
    refine (Artifact.nodup_kinds path).imp fun {f g} hfg id hf hg => ?_
    exact Catalog.idsWithFilter_disjoint hfg hf hg
  · rintro id hall _ hkinds rfl
    obtain ⟨kind, hk, hid⟩ := List.mem_flatMap.mp hkinds
    have hne : Filter.all ≠ kind := fun h => all_notMem_kinds path (h ▸ hk)
    exact Catalog.idsWithFilter_disjoint hne hall hid

/-! ## One artifact -/

/-- Asking for the text of an artifact only if some condition reads it changes nothing. -/
theorem flatMap_hits_content (conditions : List (Nat × Condition)) (path : String) (text : Option (List Char)) :
    (conditions.flatMap fun p =>
        (hits p.2 path (if conditions.any (·.2.scope.readsContent) then text else none)).map (p.1, ·))
      = conditions.flatMap fun p => (hits p.2 path text).map (p.1, ·) := by
  refine List.flatMap_congr fun p hp => ?_
  have wanted (h : p.2.scope.readsContent = true) : conditions.any (·.2.scope.readsContent) = true :=
    List.any_eq_true.mpr ⟨p, hp, h⟩
  cases hs : p.2.scope with
  | filePath => simp [hits, hs]
  | line => rw [if_pos (wanted (by rw [hs]; rfl))]
  | script => rw [if_pos (wanted (by rw [hs]; rfl))]

/-- What the condition with a number selects from an artifact, given the text of the artifact. -/
def hitsOfId (catalog : Catalog) (path : String) (content : Option (List Char)) (id : Nat) : List Hit :=
  match catalog.conditions.get? id with
  | some c => hits c path content
  | none => []

/-- An artifact that is not left out is tried with the conditions of the index, one after the other. -/
theorem scan_eq_flatMap (h : o.skips path = false) :
    scan o corpus catalog (ConditionIndex.ofCatalog catalog) path
      = ((ConditionIndex.ofCatalog catalog).applicable path).flatMap fun id =>
          (hitsOfId catalog path (corpus.content path) id).map (id, ·) := by
  unfold scan
  rw [if_neg (by simp [h])]
  refine (flatMap_hits_content _ path _).trans ?_
  rw [List.filterMap_eq_flatMap_toList, List.flatMap_assoc]
  refine List.flatMap_congr fun id _ => ?_
  unfold hitsOfId
  cases catalog.conditions.get? id with
  | none => rfl
  | some c => exact List.append_nil _

/-! ## What is to be selected -/

/-- The selection of a condition from one artifact, said without an index. Nothing is selected from an artifact
whose path ends in a skipped suffix or whose kinds the filter does not admit. Otherwise the scope decides: the path
if it satisfies the condition, the lines that satisfy it, or the whole text if some line satisfies it; lines and
texts only where the artifact can be read. -/
def selectionAt (o : Options) (corpus : Corpus) (c : Condition) (path : String) : List Hit :=
  if (∃ suffix ∈ o.skipSuffixes, suffix.toList <:+ path.toList)
      ∨ ¬(c.filter = .all ∨ c.filter ∈ Artifact.kinds path) then []
  else match c.scope, corpus.content path with
    | .filePath, _ => if c.admits path.toList then [⟨path, path.toList⟩] else []
    | _, none => []
    | .line, some text => ((Text.lines text).filter c.admits).map fun line => ⟨path, line⟩
    | .script, some text => if ∃ line ∈ Text.lines text, c.admits line then [⟨path, text⟩] else []

theorem skips_iff : o.skips path = true ↔ ∃ suffix ∈ o.skipSuffixes, suffix.toList <:+ path.toList := by
  simp [Options.skips, Artifact.hasSuffix]

theorem selectionAt_of_skips {c : Condition} (h : o.skips path = true) : selectionAt o corpus c path = [] :=
  if_pos (Or.inl (skips_iff.mp h))

theorem selectionAt_of_not_admitted {c : Condition} (h : ¬(c.filter = .all ∨ c.filter ∈ Artifact.kinds path)) :
    selectionAt o corpus c path = [] :=
  if_pos (Or.inr h)

/-- From any other artifact the units of text are selected that the scope decides on. -/
theorem selectionAt_of_admitted {c : Condition} (hs : o.skips path = false)
    (ha : c.filter = .all ∨ c.filter ∈ Artifact.kinds path) :
    selectionAt o corpus c path = hits c path (corpus.content path) := by
  have kept : ¬((∃ suffix ∈ o.skipSuffixes, suffix.toList <:+ path.toList)
      ∨ ¬(c.filter = .all ∨ c.filter ∈ Artifact.kinds path)) := by
    rintro (h | h)
    · simp [skips_iff.mpr h] at hs
    · exact h ha
  unfold selectionAt hits
  rw [if_neg kept]
  cases c.scope with
  | filePath => rfl
  | line => cases corpus.content path <;> rfl
  | script =>
    cases corpus.content path with
    | none => rfl
    | some text => simp [List.any_eq_true]

/-- **One artifact**: of what all conditions select from it, the part of one condition is the selection of that
condition. -/
theorem filter_scan (o : Options) (corpus : Corpus) (catalog : Catalog) (path : String) {c : Condition}
    (hc : catalog.conditions.get? id = some c) :
    ((scan o corpus catalog (ConditionIndex.ofCatalog catalog) path).filter (·.1 == id)).map (·.2)
      = selectionAt o corpus c path := by
  cases hs : o.skips path with
  | true => simp [scan, hs, selectionAt_of_skips hs]
  | false =>
    rw [scan_eq_flatMap hs, filter_tagged _ (nodup_applicable catalog path)]
    by_cases ha : c.filter = .all ∨ c.filter ∈ Artifact.kinds path
    · rw [if_pos (mem_applicable.mpr ⟨c, hc, ha⟩), selectionAt_of_admitted hs ha]
      simp [hitsOfId, hc]
    · rw [selectionAt_of_not_admitted ha, if_neg]
      intro hid
      obtain ⟨c', hc', ha'⟩ := mem_applicable.mp hid
      exact ha (Option.some.inj (hc.symm.trans hc') ▸ ha')

/-! ## The whole corpus -/

/-- The collection holds for a condition what it has to select from the artifacts, in the order of the corpus. -/
theorem hitsOf_collect_of_get? (o : Options) (corpus : Corpus) {catalog : Catalog} {c : Condition}
    (hc : catalog.conditions.get? id = some c) :
    hitsOf (collect o corpus catalog) id = corpus.paths.flatMap (selectionAt o corpus c) := by
  have hsize : id < catalog.conditions.size := (List.getElem?_eq_some_iff.mp hc).1
  unfold hitsOf collect
  simp only [List.getElem?_map, List.getElem?_range hsize, Option.map_some, Option.getD_some]
  rw [List.filter_flatMap, List.map_flatMap]
  exact List.flatMap_congr fun path _ => filter_scan o corpus catalog path hc

theorem hitsOf_collect_of_get?_eq_none (o : Options) (corpus : Corpus) {catalog : Catalog}
    (hc : catalog.conditions.get? id = none) : hitsOf (collect o corpus catalog) id = [] := by
  have hsize : catalog.conditions.size ≤ id := List.getElem?_eq_none_iff.mp hc
  simp [hitsOf, collect, hsize]

/-- **Selecting for all conditions at once is selecting for each**: the collection holds for every condition what
it has to select from the artifacts, one after the other in the order of the corpus, and nothing for any other
number. No condition is tried twice on an artifact. -/
theorem hitsOf_collect (o : Options) (corpus : Corpus) (catalog : Catalog) :
    (∀ id, hitsOf (collect o corpus catalog) id
        = match catalog.conditions.get? id with
          | some c => corpus.paths.flatMap (selectionAt o corpus c)
          | none => [])
      ∧ ∀ path, ((ConditionIndex.ofCatalog catalog).applicable path).Nodup := by
  refine ⟨fun id => ?_, nodup_applicable catalog⟩
  cases hc : catalog.conditions.get? id with
  | none => exact hitsOf_collect_of_get?_eq_none o corpus hc
  | some c => exact hitsOf_collect_of_get? o corpus hc

end Audit
end PackageAudit
