import PackageAudit.Corpus.Memory
import PackageAudit.Ordered.Register
import PackageAudit.Proofs.Lists
import PackageAudit.Proofs.Ordered.Roster
import PackageAudit.Proofs.Package.Session

/-!
# How a corpus in memory is built

A corpus in memory comes from a sequence of steps, each of which adds an artifact or sets a fact
(`MemoryCorpus.ofSteps`). What it holds is said from the steps alone: the paths that were added, each once and in the
order in which they were added first (`paths_ofSteps`), and for each of them the text that was added last
(`read_ofSteps`). A step that adds no artifact changes no path and no text (`artifacts_ofSteps`), and a step changes no
fact but the one that it sets (`facts_value_build`).

The paths can be kept in a list, apart from a table of the texts (`Shelf`). Since a path is listed only where the table
does not have it yet, list and table stay in step (`Shelf.Holds.build`).

Main statement: `holds_ofSteps`.
-/

namespace PackageAudit

namespace MemoryCorpus

/-! ## Steps -/

/-- A step in building a corpus. -/
inductive Step where
  | artifact (path text : String)
  | changeRequest (number : String)
  | keywords (texts : List String)
  | created (names : List String)
  | deleted (names : List String)
  | rolledBack (names : List String)

namespace Step

def artifact? : Step → Option TextArtifact
  | .artifact path text => some ⟨path, text⟩
  | _ => none

/-- The fact that a step sets, and what it sets it to. -/
def fact? : Step → Option (Package.Fact × FactValue)
  | .artifact .. => none
  | .changeRequest number => some (.changeRequest, .text number)
  | .keywords texts => some (.keywords, .texts texts)
  | .created names => some (.created, .names (.ofList names))
  | .deleted names => some (.deleted, .names (.ofList names))
  | .rolledBack names => some (.rolledBack, .names (.ofList names))

end Step

/-- A corpus after a step. -/
def build (c : MemoryCorpus) : Step → MemoryCorpus
  | .artifact path text => c.withArtifact path text
  | .changeRequest number => c.withChangeRequest number
  | .keywords texts => c.withKeywords texts
  | .created names => c.withCreated names
  | .deleted names => c.withDeleted names
  | .rolledBack names => c.withRolledBack names

/-- The corpus that comes from some steps. -/
def ofSteps (steps : List Step) : MemoryCorpus :=
  steps.foldl build empty

variable {c : MemoryCorpus} {steps : List Step} {path text : String}

theorem ofSteps_concat (steps : List Step) (step : Step) : ofSteps (steps ++ [step]) = (ofSteps steps).build step :=
  List.foldl_concat ..

/-! ## Facts -/

/-- **A step changes no fact but the one that it sets.** -/
theorem facts_value_build (c : MemoryCorpus) (step : Step) (fact : Package.Fact) : (c.build step).facts.value fact
    = match step.fact? with
      | some (own, value) => if own = fact then value else c.facts.value fact
      | none => c.facts.value fact := by
  cases step <;> cases fact <;> rfl

/-! ## Artifacts -/

theorem artifacts_build (c : MemoryCorpus) (step : Step) :
    (c.build step).artifacts = step.artifact?.elim c.artifacts c.artifacts.put := by
  cases step <;> rfl

/-- The artifacts are those that are added, and nothing else makes a difference to them. -/
theorem artifacts_ofSteps (steps : List Step) :
    (ofSteps steps).artifacts = (steps.filterMap Step.artifact?).foldl Roster.put {} := by
  induction steps using List.reverseRecOn with
  | nil => rfl
  | append_singleton steps step ih =>
    rw [ofSteps_concat, artifacts_build, ih, List.filterMap_append, List.foldl_append]
    cases h : step.artifact? with
    | none => rw [List.filterMap_cons_none h]; rfl
    | some a => rw [List.filterMap_cons_some h]; rfl

/-- The paths that are added, in the order in which they are added. -/
def added (steps : List Step) : List String :=
  (steps.filterMap Step.artifact?).map TextArtifact.path

theorem paths_ofSteps (steps : List Step) : (ofSteps steps).paths = (added steps).eraseDups := by
  rw [paths, artifacts_ofSteps, Roster.items_foldl_put_nil]
  exact Roster.map_lastOfEach _

/-- Only a step that adds an artifact changes what is read, and only at its path. -/
theorem read_build (c : MemoryCorpus) (step : Step) (path : String) : (c.build step).read path
    = match step.artifact? with
      | some a => if a.path = path then .ok a.text else c.read path
      | none => c.read path := by
  unfold read
  rw [artifacts_build]
  cases step.artifact? with
  | none => rfl
  | some a =>
    rw [Option.elim_some, Roster.find?_put]
    by_cases own : a.path = path
    · simp only [if_pos own]
    · simp only [if_neg own]

/-- Whether a text is the last one that is added at a path. -/
def AddedLast (steps : List Step) (path text : String) : Prop :=
  ∃ earlier later, steps = earlier ++ .artifact path text :: later ∧ ∀ other, .artifact path other ∉ later

/-- Whether no text is added at a path. -/
def NeverAdded (steps : List Step) (path : String) : Prop :=
  ∀ text, .artifact path text ∉ steps

/-- A step behind others adds the last text at its own path, and leaves those at other paths. -/
theorem addedLast_concat_iff {step : Step} : AddedLast (steps ++ [step]) path text
    ↔ step = .artifact path text ∨ (∀ other, step ≠ .artifact path other) ∧ AddedLast steps path text := by
  constructor
  · rintro ⟨earlier, later, whole, unchanged⟩
    rcases List.eq_nil_or_concat later with rfl | ⟨later, last, rfl⟩
    · obtain ⟨-, same⟩ := List.append_inj' whole rfl
      exact .inl (List.head_eq_of_cons_eq same)
    · rw [List.concat_eq_append, ← List.cons_append, ← List.append_assoc] at whole
      obtain ⟨rfl, same⟩ := List.append_inj' whole rfl
      obtain rfl := List.head_eq_of_cons_eq same
      refine .inr ⟨fun other own => unchanged other ?_, earlier, later, rfl, fun other hm => unchanged other ?_⟩
      · rw [← own]
        simp
      · simp [hm]
  · rintro (rfl | ⟨elsewhere, earlier, later, rfl, unchanged⟩)
    · exact ⟨steps, [], rfl, fun _ => List.not_mem_nil⟩
    · refine ⟨earlier, later ++ [step], by simp, fun other hm => ?_⟩
      rcases List.mem_append.mp hm with hm | hm
      · exact unchanged other hm
      · exact elsewhere other (List.mem_singleton.mp hm).symm

/-- A step behind others adds nothing at a path if it is none that adds there. -/
theorem neverAdded_concat_iff {step : Step} : NeverAdded (steps ++ [step]) path
    ↔ (∀ other, step ≠ .artifact path other) ∧ NeverAdded steps path := by
  unfold NeverAdded
  simp only [List.mem_append, List.mem_singleton, not_or, forall_and, ne_eq, eq_comm]
  exact And.comm

/-- **What is read at a path** is the text that was added there last; it fails where none was added. -/
theorem read_ofSteps (steps : List Step) (path : String) :
    (∀ text, (ofSteps steps).read path = .ok text ↔ AddedLast steps path text)
      ∧ ∀ e, (ofSteps steps).read path = .error e ↔ e = ⟨path⟩ ∧ NeverAdded steps path := by
  -- The induction is from the end, where the last step decides if it is at the path, and what was before it otherwise.
  induction steps using List.reverseRecOn with
  | nil =>
    refine ⟨fun text => ⟨nofun, ?_⟩, fun e => ?_⟩
    · rintro ⟨earlier, later, whole, -⟩
      simp at whole
    · show Except.error _ = Except.error _ ↔ _
      simp [NeverAdded, eq_comm]
  | append_singleton steps step ih =>
    simp only [ofSteps_concat, read_build, addedLast_concat_iff, neverAdded_concat_iff]
    by_cases own : ∃ text, step = .artifact path text
    · obtain ⟨text, rfl⟩ := own
      simp [Step.artifact?]
    · have elsewhere : ∀ text, step ≠ .artifact path text := fun text h => own ⟨text, h⟩
      have unread : (match step.artifact? with
          | some a => if a.path = path then .ok a.text else (ofSteps steps).read path
          | none => (ofSteps steps).read path) = (ofSteps steps).read path := by
        cases step with
        | artifact other text =>
          have other_path : other ≠ path := by
            rintro rfl
            exact elsewhere text rfl
          exact if_neg other_path
        | _ => rfl
      rw [unread]
      simpa [elsewhere] using ih

/-! ## Paths apart from texts -/

/-- Paths in a list, and apart from it a table of the texts. -/
structure Shelf where
  paths : List String := []
  texts : Register String := .empty

namespace Shelf

/-- Adds a text. The path is listed unless the table has it, and the table gets the text. -/
def put (s : Shelf) (path text : String) : Shelf where
  paths := if (s.texts.get? path).isSome then s.paths else s.paths ++ [path]
  texts := s.texts.update path fun _ => text

def build (s : Shelf) : Step → Shelf
  | .artifact path text => s.put path text
  | _ => s

/-- Whether a shelf holds the artifacts of a corpus. -/
structure Holds (s : Shelf) (c : MemoryCorpus) : Prop where
  paths : s.paths = c.paths
  texts : ∀ path, s.texts.get? path = (c.read path).toOption

end Shelf

theorem mem_paths_iff : path ∈ c.paths ↔ (c.read path).toOption.isSome := by
  have found : (c.read path).toOption.isSome ↔ (c.artifacts.find? path).isSome := by
    unfold read
    cases c.artifacts.find? path <;> simp [Except.toOption]
  rw [found, Option.isSome_iff_exists, paths, List.mem_map]
  simp only [Roster.find?_eq_some_iff]

theorem paths_withArtifact (c : MemoryCorpus) (path text : String) :
    (c.withArtifact path text).paths = if path ∈ c.paths then c.paths else c.paths ++ [path] :=
  Roster.map_putItems c.artifacts.items ⟨path, text⟩

namespace Shelf

theorem Holds.coupled {s : Shelf} (h : s.Holds c) (path : String) :
    path ∈ s.paths ↔ (s.texts.get? path).isSome := by
  rw [h.paths, h.texts, mem_paths_iff]

/-- **List and table stay in step** with the corpus. -/
theorem Holds.build {s : Shelf} (h : s.Holds c) (step : Step) : (s.build step).Holds (c.build step) := by
  cases step with
  | artifact path text =>
    refine ⟨?_, fun other => ?_⟩
    · show (if (s.texts.get? path).isSome then s.paths else s.paths ++ [path]) = (c.withArtifact path text).paths
      rw [paths_withArtifact, ← h.paths]
      simp only [h.coupled]
    · show (s.texts.update path fun _ => text).get? other = _
      rw [Register.get?_update, read_build, h.texts]
      by_cases own : other = path
      · simp [Step.artifact?, own, Except.toOption]
      · simp [Step.artifact?, own, Ne.symm own]
  | _ => exact ⟨h.paths, h.texts⟩

/-- The shelf that comes from some steps. -/
def ofSteps (steps : List Step) : Shelf :=
  steps.foldl build {}

/-- **List and table hold the artifacts of a corpus**, whatever the steps are. -/
theorem holds_shelf (steps : List Step) : (ofSteps steps).Holds (MemoryCorpus.ofSteps steps) := by
  induction steps using List.reverseRecOn with
  | nil => exact ⟨rfl, fun _ => rfl⟩
  | append_singleton steps step ih =>
    rw [ofSteps_concat, ofSteps, List.foldl_concat]
    exact ih.build step

end Shelf

/-! ## All steps -/

/-- **What a corpus in memory holds.** It lists the paths that were added, each once, in the order in which they were
added first. Reading a path gives the text that was added there last, and fails exactly where none was added. Steps that
add no artifact make no difference to this, wherever they stand. A step sets its own fact and leaves the others as they
were. The same artifacts are held by a list of paths with a table of texts beside it, where a path is listed only if the
table does not have it. -/
theorem holds_ofSteps (steps : List Step) :
    ((ofSteps steps).paths.Nodup
        ∧ (∀ path, path ∈ (ofSteps steps).paths ↔ path ∈ added steps)
        ∧ (ofSteps steps).paths.Pairwise fun p q => (added steps).idxOf p < (added steps).idxOf q)
      ∧ (∀ path text, (ofSteps steps).read path = .ok text ↔ AddedLast steps path text)
      ∧ (∀ path e, (ofSteps steps).read path = .error e ↔ e = ⟨path⟩ ∧ NeverAdded steps path)
      ∧ (∀ others, others.filterMap Step.artifact? = steps.filterMap Step.artifact? →
          (ofSteps others).paths = (ofSteps steps).paths
            ∧ ∀ path, (ofSteps others).read path = (ofSteps steps).read path)
      ∧ (∀ step fact value, step.fact? = some (fact, value) →
          (ofSteps (steps ++ [step])).facts.value fact = value
            ∧ ∀ other ≠ fact, (ofSteps (steps ++ [step])).facts.value other = (ofSteps steps).facts.value other)
      ∧ (∀ step fact, step.fact? = none →
          (ofSteps (steps ++ [step])).facts.value fact = (ofSteps steps).facts.value fact)
      ∧ (Shelf.ofSteps steps).Holds (ofSteps steps)
      ∧ ∀ path, path ∈ (Shelf.ofSteps steps).paths ↔ ((Shelf.ofSteps steps).texts.get? path).isSome := by
  refine ⟨⟨(ofSteps steps).artifacts.nodup, fun path => ?_, ?_⟩, fun path => (read_ofSteps steps path).1,
    fun path => (read_ofSteps steps path).2, fun others same => ?_, fun step fact value sets => ?_,
    fun step fact sets => ?_, Shelf.holds_shelf steps, (Shelf.holds_shelf steps).coupled⟩
  · rw [paths_ofSteps, List.mem_eraseDups]
  · rw [paths_ofSteps]
    exact pairwise_idxOf_eraseDups (added steps)
  · have artifacts : (ofSteps others).artifacts = (ofSteps steps).artifacts := by
      rw [artifacts_ofSteps, artifacts_ofSteps, same]
    unfold paths read
    rw [artifacts]
    exact ⟨rfl, fun _ => rfl⟩
  · refine ⟨?_, fun other hne => ?_⟩
    · rw [ofSteps_concat, facts_value_build, sets]
      exact if_pos rfl
    · rw [ofSteps_concat, facts_value_build, sets]
      exact if_neg hne.symm
  · rw [ofSteps_concat, facts_value_build, sets]

/-- A path that is added again keeps its place and has the text that was added last. -/
example : (ofSteps [.artifact "b.tbl" "B", .changeRequest "CR1", .artifact "a.tbl" "A", .artifact "b.tbl" "B2"]).paths
    = ["b.tbl", "a.tbl"] := by
  decide

end MemoryCorpus
end PackageAudit
