import PackageAudit.Proofs.FileTree.Grown
import PackageAudit.Proofs.Lists
import PackageAudit.Proofs.Package.Check
import PackageAudit.Proofs.Package.Paths

/-!
# Opening a package after a file was written

After a file was written, the same files are listed for a package but for that file (`filter_pathsBelow`). The facts
about the package are the same as well, unless a file that states facts is new or reads differently
(`facts_survey_congr`): which files these are is seen from their paths (`StatesFacts`, `Creates`).
-/

namespace PackageAudit.Package

open FileTree (Written)

variable {t t' : FileTree} {place location : Location} {root : String} {keep : String → Bool}

/-! ## The list of paths -/

/-- **The same paths are listed**, in the same order, but for those of the file that was written. -/
theorem filter_pathsBelow {globs : List Glob} (h : Written t t' place) (ht : t.WellFormed) (ht' : t'.WellFormed)
    (new : ∀ file, location ++ file = place → t.item? place = none →
      globs.any (·.admits (relativePath file)) = true ∨ keep (artifactPath root file) = false) :
    (pathsBelow t' root location globs).filter keep = (pathsBelow t root location globs).filter keep := by
  let listed (file : List String) : Bool := isListed root file && !globs.any (·.admits (relativePath file))
  let chosen (t : FileTree) := ((t.filesBelow location).filter listed).filter fun file => keep (artifactPath root file)
  have same_files : (chosen t').Perm (chosen t) := by
    have nodup (t : FileTree) : (chosen t).Nodup := ((t.nodup_filesBelow location).filter _).filter _
    refine (List.perm_ext_iff_of_nodup (nodup t') (nodup t)).mpr fun file => ?_
    simp only [chosen, List.mem_filter]
    by_cases old : location ++ file ≠ place ∨ t.item? place ≠ none
    · rw [h.mem_filesBelow ht ht' old]
    · rw [not_or, not_not, not_not] at old
      rcases new file old.1 old.2 with ignored | silent
      · simp [listed, ignored]
      · simp [silent]
  have of_files (t : FileTree) :
      ((pathsBelow t root location globs).filter keep).Perm ((chosen t).map (artifactPath root)) := by
    unfold pathsBelow
    refine ((List.mergeSort_perm _ _).filter keep).trans ?_
    rw [List.filter_map]
    exact List.Perm.refl _
  have ascending (t : FileTree) : ((pathsBelow t root location globs).filter keep).Pairwise (· ≤ ·) :=
    (pairwise_pathsBelow t root location globs).sublist List.filter_sublist
  refine List.Perm.eq_of_pairwise (fun _ _ _ _ => String.le_antisymm) (ascending t') (ascending t) ?_
  exact (of_files t').trans ((same_files.map _).trans (of_files t).symm)

/-- **A package is opened again** with the same paths but for those of the file that was written. -/
theorem open_again {keywordsFile : Option String} {ignores : List String} {p : Package} (h : Written t t' place)
    (ht : t.WellFormed) (ht' : t'.WellFormed) (ho : Package.open t root keywordsFile ignores = .ok p)
    (new : ∀ location file, t.locate root = .ok location → location ++ file = place → t.item? place = none →
      Ignored ignores file ∨ keep (artifactPath root file) = false) :
    ∃ p', Package.open t' root keywordsFile ignores = .ok p' ∧ p'.paths.filter keep = p.paths.filter keep
      ∧ p'.keywordsFile = p.keywordsFile := by
  obtain ⟨location, globs, hdirectory, hroot, hglobs, hpaths⟩ := paths_eq_of_open ho
  have keywords : p.keywordsFile = keywordsFile := by rw [eq_of_open ho]
  refine ⟨{ paths := pathsBelow t' root location globs, keywordsFile }, ?_, ?_, keywords.symm⟩
  · unfold Package.open
    rw [h.grown.isDirectory hdirectory, h.grown.locate hroot, hglobs]
    rfl
  · rw [hpaths]
    refine filter_pathsBelow h ht ht' fun file own free => ?_
    rw [any_admits_iff hglobs]
    exact new location file hroot own free

/-! ## Facts -/

/-- The names in the paths of files that facts are read from. -/
def factNames : List String :=
  ["Version.txt", "_Drop_Tables.sql", "_Drop_Views.sql", "Rollback_Drop_Tables.sql", "Rollback_Drop_Views.sql",
    "_Backup_Views.sql"]

/-- Whether facts are read from a file with a path. -/
def StatesFacts (path : String) : Prop :=
  ∃ name ∈ factNames, Artifact.mentions name path = true

/-- Whether a file with a path creates an object. -/
def Creates (path : String) : Prop :=
  Artifact.hasSuffix ".tbl" path = true ∨ Artifact.hasSuffix ".viw" path = true

instance : DecidablePred StatesFacts := fun path =>
  inferInstanceAs (Decidable (∃ name ∈ factNames, Artifact.mentions name path = true))

instance : DecidablePred Creates := fun path =>
  inferInstanceAs (Decidable (Artifact.hasSuffix ".tbl" path = true ∨ Artifact.hasSuffix ".viw" path = true))

section Facts

variable {paths paths' : List String}

/-- The same texts are read from the files with a name in their paths if these are listed and read as before. -/
theorem filterMap_textOf_congr {name : String} (hn : name ∈ factNames)
    (filtered : paths'.filter keep = paths.filter keep) (kept : ∀ path, StatesFacts path → keep path = true)
    (same : ∀ path ∈ paths, StatesFacts path → textOf t' path = textOf t path) :
    (paths'.filter (Artifact.mentions name)).filterMap (textOf t')
      = (paths.filter (Artifact.mentions name)).filterMap (textOf t) := by
  rw [filter_congr_of_kept filtered fun path h => kept path ⟨name, hn, h⟩]
  refine List.filterMap_congr fun path hp => ?_
  obtain ⟨hmem, hname⟩ := List.mem_filter.mp hp
  exact same path hmem ⟨name, hn, hname⟩

/-- **The facts are the same** if the files that facts are read from are listed and read as before, the files that
create objects are listed as before, and the keywords are the same. -/
theorem facts_survey_congr {p p' : Package} (filtered : p'.paths.filter keep = p.paths.filter keep)
    (kept : ∀ path, StatesFacts path ∨ Creates path → keep path = true)
    (same : ∀ path ∈ p.paths, StatesFacts path → textOf t' path = textOf t path)
    (keywords : Package.keywords t' p'.keywordsFile = Package.keywords t p.keywordsFile) :
    (p'.survey t').facts = (p.survey t).facts := by
  have texts {name : String} (hn : name ∈ factNames) :=
    filterMap_textOf_congr hn filtered (fun path h => kept path (Or.inl h)) same
  have names {script : String} (command : String) (hn : script ∈ factNames) :
      namesAfter t' p'.paths command script = namesAfter t p.paths command script := by
    unfold namesAfter linesWhere
    rw [texts hn]
  have number : changeRequest t' p'.paths = changeRequest t p.paths := by
    unfold changeRequest
    rw [texts (by decide)]
  have created : created p'.paths = created p.paths := by
    unfold Package.created
    rw [filter_congr_of_kept filtered fun path h => kept path (Or.inr ((Bool.or_eq_true ..).mp h))]
  have deleted : deleted t' p'.paths = deleted t p.paths := by
    unfold Package.deleted
    rw [names _ (by decide), names _ (by decide)]
  have rolledBack : rolledBack t' p'.paths = rolledBack t p.paths := by
    unfold Package.rolledBack
    rw [names _ (by decide), names _ (by decide), names _ (by decide)]
  unfold survey
  simp only [keywords, number, created, deleted, rolledBack]

end Facts

/-! ## Texts -/

variable {path : String}

/-- The text of an artifact whose path is clear of the file that was written is the same. -/
theorem textOf_of_clear (h : Written t t' place) (hc : FileTree.Clear t t' place path) :
    textOf t' path = textOf t path := by
  unfold textOf
  rw [h.read_of_clear hc]

theorem keywords_congr (same : (t'.readText path).toOption = (t.readText path).toOption) :
    keywords t' (some path) = keywords t (some path) := by
  have loaded (t : FileTree) : (loadKeywords t path).toOption
      = (t.readText path).toOption.map fun text => (Text.lines text).filterMap keywordOn? := by
    unfold loadKeywords
    cases t.readText path <;> rfl
  show (loadKeywords t' path).toOption.getD [] = (loadKeywords t path).toOption.getD []
  rw [loaded, loaded, same]

/-- The keywords are the same if the path of their file is clear of the file that was written. -/
theorem keywords_of_clear (h : Written t t' place) (hc : FileTree.Clear t t' place path) :
    keywords t' (some path) = keywords t (some path) :=
  keywords_congr (h.readText_of_clear hc)

end PackageAudit.Package
