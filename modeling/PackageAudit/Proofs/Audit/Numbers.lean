import PackageAudit.Proofs.Audit.Index
import PackageAudit.Proofs.Catalog.Arenas

/-!
# Numbers of conditions and actions

Main statement: whatever is added to a catalog, its numbers stand for names (`numbers_stand_for_names`). Names have
distinct numbers and keep them, rules keep the names that they were added with, and a refused rule leaves no trace; a
catalog kept in two arenas behaves in the same way and never meets a number that leads nowhere.

A check over such a catalog meets none either: it reads conditions by the numbers of the index
(`lt_size_of_mem_applicable`), and files what they select under the same numbers (`foldlM_file`), which gives the
collection (`foldlM_file_scan`).
-/

namespace PackageAudit.Audit

variable {o : Options} {corpus : Corpus} {catalog : Catalog} {path : String}

/-! ## The numbers of a check -/

theorem lt_size_of_mem_applicable {id : Nat} (h : id ∈ (ConditionIndex.ofCatalog catalog).applicable path) :
    id < catalog.conditions.size := by
  obtain ⟨c, hc, -⟩ := mem_applicable.mp h
  exact (List.getElem?_eq_some_iff.mp hc).1

/-- What is selected from an artifact is selected by conditions of the catalog. -/
theorem lt_size_of_mem_scan {p : Nat × Hit} (h : p ∈ scan o corpus catalog (ConditionIndex.ofCatalog catalog) path) :
    p.1 < catalog.conditions.size := by
  cases hs : o.skips path with
  | true => simp [scan, hs] at h
  | false =>
    rw [scan_eq_flatMap hs] at h
    obtain ⟨id, hid, hp⟩ := List.mem_flatMap.mp h
    obtain ⟨hit, -, rfl⟩ := List.mem_map.mp hp
    exact lt_size_of_mem_applicable hid

/-- Files a selected text under the number of its condition; there must be a place for that number. -/
def file (lists : List (List Hit)) (p : Nat × Hit) : Option (List (List Hit)) :=
  (lists[p.1]?).map fun filed => lists.set p.1 (filed ++ [p.2])

/-- What is filed under a number, in its order. -/
def filedUnder (found : List (Nat × Hit)) (id : Nat) : List Hit :=
  (found.filter (·.1 == id)).map (·.2)

theorem filedUnder_concat (found : List (Nat × Hit)) (p : Nat × Hit) (id : Nat) :
    filedUnder (found ++ [p]) id = if p.1 = id then filedUnder found id ++ [p.2] else filedUnder found id := by
  unfold filedUnder
  rw [List.filter_append, List.filter_singleton, List.map_append]
  by_cases h : p.1 = id
  · rw [if_pos h, beq_iff_eq.mpr h]
    rfl
  · rw [if_neg h, beq_eq_false_iff_ne.mpr h]
    exact List.append_nil _

/-- One text is filed if there is a place for its number. -/
theorem file_range_map {n : Nat} (found : List (Nat × Hit)) {p : Nat × Hit} (h : p.1 < n) :
    file ((List.range n).map (filedUnder found)) p = some ((List.range n).map (filedUnder (found ++ [p]))) := by
  have place : ((List.range n).map (filedUnder found))[p.1]? = some (filedUnder found p.1) := by
    rw [List.getElem?_map, List.getElem?_range h]
    rfl
  rw [file, place, Option.map_some]
  refine congrArg some (List.ext_getElem (by simp) fun id _ _ => ?_)
  rw [List.getElem_set, List.getElem_map, List.getElem_map, List.getElem_range, filedUnder_concat]
  by_cases hp : p.1 = id
  · rw [if_pos hp, if_pos hp, hp]
  · rw [if_neg hp, if_neg hp]

/-- **Filing goes through** if there is a place for every number. -/
theorem foldlM_file {n : Nat} (found : List (Nat × Hit)) (h : ∀ p ∈ found, p.1 < n) :
    found.foldlM file (List.replicate n []) = some ((List.range n).map (filedUnder found)) := by
  induction found using List.reverseRecOn with
  | nil =>
    refine congrArg some (List.ext_getElem (by simp) fun id _ _ => ?_)
    rw [List.getElem_replicate, List.getElem_map]
    rfl
  | append_singleton found p ih =>
    rw [List.foldlM_append, ih fun q hq => h q (List.mem_append_left _ hq)]
    show [p].foldlM file _ = _
    rw [List.foldlM_cons, file_range_map found (h p (by simp))]
    rfl

/-- Everything that is selected from a corpus can be filed, which gives the collection. -/
theorem foldlM_file_scan (o : Options) (corpus : Corpus) (catalog : Catalog) :
    (corpus.paths.flatMap (scan o corpus catalog (ConditionIndex.ofCatalog catalog))).foldlM file
      (List.replicate catalog.conditions.size []) = some (collect o corpus catalog) := by
  refine foldlM_file _ fun p hp => ?_
  obtain ⟨path, -, hp⟩ := List.mem_flatMap.mp hp
  exact lt_size_of_mem_scan hp

/-! ## The numbers of a catalog -/

/-- Numbers stand for names in the catalog that comes from a history. -/
structure NumbersStand (h : List Addition) (c : Catalog) : Prop where
  /-- A name has a number if the definition with that number has the name. -/
  conditionId?_iff : ∀ n id, c.conditionId? n = some id ↔ ∃ x, c.conditions.get? id = some x ∧ x.name = n
  actionId?_iff : ∀ n id, c.actionId? n = some id ↔ ∃ a, c.actions.get? id = some a ∧ a.name = n
  /-- The last definition of each name stands in the place of the first one, and rules have the names that they were
  added with. -/
  reflects : c.Reflects h
  /-- The numbers of a rule are numbers of definitions. -/
  rules : ∀ r ∈ c.rules, r.condition < c.conditions.size ∧ r.action < c.actions.size
  /-- Whatever is added later, names keep their numbers and rules keep their names. -/
  extends_later : ∀ more, c.Extends (Catalog.ofAdditions (h ++ more))
  /-- The number that a definition is answered with is that of its name for ever. -/
  condition_answer : ∀ x id, c.answer? (.defineCondition x) = some (.number id) →
    ∀ more, (Catalog.ofAdditions (h ++ .defineCondition x :: more)).conditionId? x.name = some id
  action_answer : ∀ a id, c.answer? (.defineAction a) = some (.number id) →
    ∀ more, (Catalog.ofAdditions (h ++ .defineAction a :: more)).actionId? a.name = some id
  /-- A rule is refused if its names are not defined, and then it leaves no trace. -/
  refused_iff : ∀ condition action level message, (∃ e, c.addRule condition action level message = .error e)
    ↔ ¬Addition.Defined h condition action
  refused_later : ∀ x e, c.answer? x = some (.refused e) →
    ∀ more, Catalog.ofAdditions (h ++ x :: more) = Catalog.ofAdditions (h ++ more)

theorem ofAdditions_append (h more : List Addition) :
    Catalog.ofAdditions (h ++ more) = more.foldl Catalog.add (Catalog.ofAdditions h) :=
  List.foldl_append

/-- The catalog of every history has numbers that stand for names. -/
theorem numbersStand_ofAdditions (h : List Addition) : NumbersStand h (Catalog.ofAdditions h) where
  conditionId?_iff _ _ := Roster.id?_eq_some_iff
  actionId?_iff _ _ := Roster.id?_eq_some_iff
  reflects := Catalog.reflects_ofAdditions h
  rules := (Catalog.ofAdditions h).valid
  extends_later more := by
    rw [ofAdditions_append]
    exact Catalog.extends_foldl_add more _
  condition_answer x id hid more := by
    obtain ⟨_, hid, ⟨⟩⟩ := Option.map_eq_some_iff.mp hid
    rw [ofAdditions_append, List.foldl_cons]
    exact (Catalog.extends_foldl_add more _).conditionId? hid
  action_answer a id hid more := by
    obtain ⟨_, hid, ⟨⟩⟩ := Option.map_eq_some_iff.mp hid
    rw [ofAdditions_append, List.foldl_cons]
    exact (Catalog.extends_foldl_add more _).actionId? hid
  refused_iff condition action level message := by
    rw [← (Catalog.reflects_ofAdditions h).exists_addRule_iff condition action level message]
    cases (Catalog.ofAdditions h).addRule condition action level message <;> simp
  refused_later x e he more := by
    rw [ofAdditions_append, ofAdditions_append, List.foldl_cons, Catalog.add_of_refused he]

/-- No check over a catalog meets a number that leads nowhere. -/
structure NumbersLead (c : Catalog) : Prop where
  /-- The index has numbers of conditions. -/
  index : ∀ path, ∀ id ∈ (ConditionIndex.ofCatalog c).applicable path, ∃ x, c.conditions.get? id = some x
  /-- The rules have numbers of actions. -/
  actions : ∀ r ∈ c.rules, ∃ a, c.actions.get? r.action = some a
  /-- There is a place for everything that is selected. -/
  filing : ∀ o corpus, (corpus.paths.flatMap (scan o corpus c (ConditionIndex.ofCatalog c))).foldlM file
    (List.replicate c.conditions.size []) = some (collect o corpus c)

theorem numbersLead (c : Catalog) : NumbersLead c where
  index _ _ hid := ⟨_, List.getElem?_eq_getElem (lt_size_of_mem_applicable hid)⟩
  actions r hr := ⟨_, List.getElem?_eq_getElem (c.valid r hr).2⟩
  filing o corpus := foldlM_file_scan o corpus c

/-- **Numbers stand for names** in every catalog, whatever its history. Kept in two arenas with tables of names, the
catalog takes every addition and gives the same answers, tables and definitions stay coupled, and a refusal changes
nothing. No check over the catalog meets a number that leads nowhere. -/
theorem numbers_stand_for_names (h : List Addition) :
    NumbersStand h (Catalog.ofAdditions h)
      ∧ (∃ s, Arenas.ofAdditions h = some s ∧ s.Holds (Catalog.ofAdditions h)
          ∧ s.conditions.Coupled Condition.name ∧ s.actions.Coupled Action.name
          ∧ ∀ x, ∃ answer s', s.add x = some (answer, s') ∧ (Catalog.ofAdditions h).answer? x = some answer
              ∧ ∀ e, answer = .refused e → s' = s)
      ∧ NumbersLead (Catalog.ofAdditions h) := by
  obtain ⟨s, hs, hholds⟩ := Arenas.holds_ofAdditions h
  refine ⟨numbersStand_ofAdditions h, ⟨s, hs, hholds, hholds.conditions.coupled, hholds.actions.coupled, fun x => ?_⟩,
    numbersLead _⟩
  obtain ⟨answer, s', hadd, hanswer, -⟩ := hholds.add x
  refine ⟨answer, s', hadd, hanswer, ?_⟩
  rintro e rfl
  exact Arenas.add_of_refused hadd

end PackageAudit.Audit
