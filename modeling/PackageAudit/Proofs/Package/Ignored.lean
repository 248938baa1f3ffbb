import PackageAudit.Proofs.Audit.Local
import PackageAudit.Proofs.FileTree.Dropped
import PackageAudit.Proofs.Package.Again

/-!
# Ignoring files and removing them

A package that is opened with patterns lists what it lists without them once the ignored files are removed
(`open_withoutIgnored`). The facts and the findings are then the same as well, as long as neither a listed path nor that
of the keywords leads to a file that was removed (`facts_of_spares`, `run_of_spares`). A path without backslashes leads
to the file that it is listed for, so it does not (`spares_of_open`).

Main statement: `ignoring_eq_removing`. The path of a file whose name holds a backslash may lead to an ignored file,
which then states a fact (`ignoring_ne_removing`).
-/

namespace PackageAudit.Package

open FileTree (Spares)

variable {t : FileTree} {location : Location} {root path : String} {ignores file : List String} {globs : List Glob}
  {bytes : List UInt8} {keywordsFile : Option String} {p : Package}

/-! ## Files without the ignored ones -/

/-- Whether a place is that of an ignored file below a root. -/
def isIgnoredAt (root : Location) (ignores : List String) (place : Location) : Bool :=
  root.isPrefixOf place && decide (Ignored ignores (place.drop root.length))

/-- The files without those below a root that a pattern ignores. -/
def withoutIgnored (t : FileTree) (root : String) (ignores : List String) : FileTree :=
  match t.locate root with
  | .ok location => t.filterFiles fun place => !isIgnoredAt location ignores place
  | .error _ => t

theorem isIgnoredAt_append (root : Location) (ignores file : List String) :
    isIgnoredAt root ignores (root ++ file) = decide (Ignored ignores file) := by
  have below : root.isPrefixOf (root ++ file) = true := List.isPrefixOf_iff_prefix.mpr (List.prefix_append root file)
  rw [isIgnoredAt, below, Bool.true_and, List.drop_left]

theorem withoutIgnored_of_locate (h : t.locate root = .ok location) :
    withoutIgnored t root ignores = t.filterFiles fun place => !isIgnoredAt location ignores place := by
  unfold withoutIgnored
  rw [h]

/-- The same paths are listed of the files that are left. -/
theorem pathsBelow_filterFiles (hglobs : readGlobs ignores = .ok globs) :
    pathsBelow (t.filterFiles fun place => !isIgnoredAt location ignores place) root location []
      = pathsBelow t root location globs := by
  unfold pathsBelow
  simp only [FileTree.filesBelow_filterFiles, List.filter_filter]
  refine congrArg (fun select => (((t.filesBelow location).filter select).map (artifactPath root)).mergeSort) ?_
  funext names
  have ignored : globs.any (·.admits (relativePath names)) = decide (Ignored ignores names) := by
    rw [Bool.eq_iff_iff, any_admits_iff hglobs, decide_eq_true_iff]
  rw [isIgnoredAt_append, ignored, List.any_nil, Bool.not_false, Bool.and_true]

/-- **Ignoring files and removing them** comes to the same for what is listed. -/
theorem open_withoutIgnored (t : FileTree) (root : String) (keywordsFile : Option String)
    (valid : readGlobs ignores = .ok globs) :
    Package.open (withoutIgnored t root ignores) root keywordsFile [] = Package.open t root keywordsFile ignores := by
  have none_ignored : readGlobs [] = .ok [] := rfl
  cases hl : t.locate root with
  | error e =>
    have same : withoutIgnored t root ignores = t := by
      unfold withoutIgnored
      rw [hl]
    unfold Package.open
    rw [same, hl]
    split
    next h => cases h
    next => rfl
  | ok location =>
    unfold Package.open
    rw [withoutIgnored_of_locate hl, FileTree.isDirectory_filterFiles, FileTree.locate_filterFiles.mpr hl, hl, valid,
      none_ignored]
    cases t.isDirectory root with
    | false => rfl
    | true => simp only [bind, Except.bind, pathsBelow_filterFiles valid]

/-! ## What listed paths lead to -/

theorem spares_of_kept (hk : Kept t location ignores file bytes) (hr : Rooted t root location) :
    Spares t (withoutIgnored t root ignores) (Path.below root file) := by
  intro place hplace
  obtain rfl := Except.ok.inj ((hk.locate_below hr (FileTree.size_lt_of_locate hplace)).symm.trans hplace)
  rw [withoutIgnored_of_locate hr.locate, hk.item, FileTree.item?_filterFiles, isIgnoredAt_append]
  exact ⟨hk.item, Or.inr (by simp [hk.not_ignored])⟩

theorem spares_of_open (ht : t.WellFormed) (h : Package.open t root keywordsFile ignores = .ok p)
    (hslashes : NoBackslash t root ignores) : ∀ path ∈ p.paths, Spares t (withoutIgnored t root ignores) path := by
  intro path hp
  obtain ⟨location, file, bytes, hr, hk, rfl⟩ := exists_kept_of_open ht h hslashes hp
  exact spares_of_kept hk hr

/-! ## What is learned and found -/

section Spared

variable {keep : Location → Bool}

theorem textOf_of_spares (h : Spares t (t.filterFiles keep) path) :
    textOf (t.filterFiles keep) path = textOf t path := by
  unfold textOf
  rw [FileTree.toOption_read_of_spares h]

theorem facts_of_spares (paths : ∀ path ∈ p.paths, Spares t (t.filterFiles keep) path)
    (keywords : ∀ path, p.keywordsFile = some path → Spares t (t.filterFiles keep) path) :
    (p.survey (t.filterFiles keep)).facts = (p.survey t).facts := by
  have listed : p.paths.filter (fun _ => true) = p.paths.filter fun _ => true := rfl
  refine facts_survey_congr listed (fun _ _ => rfl) (fun path hp _ => textOf_of_spares (paths path hp)) ?_
  cases hk : p.keywordsFile with
  | none => rfl
  | some path => exact keywords_congr (FileTree.toOption_readText_of_spares (keywords path hk))

theorem run_of_spares (o : Audit.Options) (catalog : Catalog)
    (paths : ∀ path ∈ p.paths, Spares t (t.filterFiles keep) path)
    (keywords : ∀ path, p.keywordsFile = some path → Spares t (t.filterFiles keep) path) :
    Audit.run o (p.survey (t.filterFiles keep)) catalog = Audit.run o (p.survey t) catalog :=
  Audit.run_congr_of_silent (fun _ => true) (facts_of_spares paths keywords) rfl
    (fun path hp _ _ => Audit.selectionAt_congr (textOf_of_spares (paths path hp))) (fun _ gone => nomatch gone)

end Spared

/-- **Ignoring files comes to the same as removing them.** With valid patterns a package opens in the same way, or not
at all, and lists the same paths as without patterns once the ignored files are removed. If no listed path leads to a
file that was removed, and that of the keywords does not, then every fact that is asked for is the same, and a check
finds the same. No listed path does if no path of a file that is kept holds a backslash. -/
theorem ignoring_eq_removing (ht : t.WellFormed) (valid : readGlobs ignores = .ok globs) :
    Package.open (withoutIgnored t root ignores) root keywordsFile [] = Package.open t root keywordsFile ignores
      ∧ ∀ p, Package.open t root keywordsFile ignores = .ok p →
        (NoBackslash t root ignores → ∀ path ∈ p.paths, Spares t (withoutIgnored t root ignores) path)
        ∧ ((∀ path ∈ p.paths, Spares t (withoutIgnored t root ignores) path) →
          (∀ path, keywordsFile = some path → Spares t (withoutIgnored t root ignores) path) →
            (∀ facts, p.learnAll (withoutIgnored t root ignores) facts = p.learnAll t facts)
              ∧ ∀ o catalog, (p.check (withoutIgnored t root ignores) o catalog).findings
                = (p.check t o catalog).findings) := by
  have opened := open_withoutIgnored t root keywordsFile valid
  refine ⟨opened, fun p h => ⟨spares_of_open ht h, fun paths keywords => ?_⟩⟩
  obtain ⟨location, -, -, hroot, -, -⟩ := paths_eq_of_open h
  have known : p.keywordsFile = keywordsFile := by rw [eq_of_open h]
  have found (o : Audit.Options) (catalog : Catalog) := findings_check_of_open (opened.trans h) o catalog
  rw [withoutIgnored_of_locate hroot] at paths keywords found ⊢
  rw [← known] at keywords
  refine ⟨fun facts => learnAll_congr facts (facts_of_spares paths keywords), fun o catalog => ?_⟩
  rw [found, findings_check_of_open h, run_of_spares o catalog paths keywords]

/-- The package with a file to be ignored is the same once that file is removed. -/
theorem ignoring_eq_removing_nested : nested.WellFormed ∧ ∃ p,
    Package.open nested "pkg" none ["*.log"] = .ok p
      ∧ Package.open (withoutIgnored nested "pkg" ["*.log"]) "pkg" none [] = .ok p
      ∧ (withoutIgnored nested "pkg" ["*.log"]).item? ["pkg", "x.log"] = none
      ∧ ∀ o catalog, (p.check (withoutIgnored nested "pkg" ["*.log"]) o catalog).findings
        = (p.check nested o catalog).findings := by
  have well_formed : nested.WellFormed := by decide +kernel
  have listed : paths <$> Package.open nested "pkg" none ["*.log"] = .ok ["pkg/sub/a.sql"] := by decide +kernel
  obtain ⟨p, opened, paths⟩ := exists_of_map_eq_ok listed
  obtain ⟨-, globs, -, -, valid, -⟩ := paths_eq_of_open opened
  have spared : Spares nested (withoutIgnored nested "pkg" ["*.log"]) "pkg/sub/a.sql" := by decide +kernel
  have removed : (withoutIgnored nested "pkg" ["*.log"]).item? ["pkg", "x.log"] = none := by decide +kernel
  obtain ⟨reopened, same⟩ := @ignoring_eq_removing nested "pkg" _ globs none well_formed valid
  have all_spared : ∀ path ∈ p.paths, Spares nested (withoutIgnored nested "pkg" ["*.log"]) path := by
    rw [paths]
    exact List.forall_mem_singleton.mpr spared
  obtain ⟨-, found⟩ := (same p opened).2 all_spared fun _ none => nomatch none
  rw [opened] at reopened
  exact ⟨well_formed, p, opened, reopened, removed, found⟩

/-- A package with a version file that is to be ignored, and a file whose path as an artifact leads there. -/
def shadowed : FileTree :=
  ((({} : FileTree).set ["pkg"] .directory).set ["pkg", ".\\Version.txt"] (.file [])).set ["pkg", "Version.txt"]
    (.file (Text.Utf8.encode "CR_NUMBER: C1234567".toList))

/-- **An ignored file may still be read**, if the path of a file whose name holds a backslash leads to it. -/
theorem ignoring_ne_removing : shadowed.WellFormed
    ∧ ∃ p, Package.open shadowed "pkg" none ["Version.txt"] = .ok p
      ∧ Package.open (withoutIgnored shadowed "pkg" ["Version.txt"]) "pkg" none [] = .ok p
      ∧ p.paths = ["pkg/./Version.txt"]
      ∧ (p.learn shadowed .changeRequest).changeRequest? = some "C1234567"
      ∧ (p.learn (withoutIgnored shadowed "pkg" ["Version.txt"]) .changeRequest).changeRequest? = some "" := by
  have well_formed : shadowed.WellFormed := by decide +kernel
  have listed : paths <$> Package.open shadowed "pkg" none ["Version.txt"] = .ok ["pkg/./Version.txt"] := by
    decide +kernel
  obtain ⟨p, opened, paths⟩ := exists_of_map_eq_ok listed
  obtain ⟨-, globs, -, -, valid, -⟩ := paths_eq_of_open opened
  have stated : changeRequest shadowed ["pkg/./Version.txt"] = "C1234567" := by decide +kernel
  have silent : changeRequest (withoutIgnored shadowed "pkg" ["Version.txt"]) ["pkg/./Version.txt"] = "" := by
    decide +kernel
  have unknown : p.changeRequest? = none := by rw [eq_of_open opened]
  refine ⟨well_formed, p, opened, (open_withoutIgnored shadowed "pkg" none valid).trans opened, paths, ?_, ?_⟩
  · simp only [learn, unknown, paths, stated, Option.getD_none]
  · simp only [learn, unknown, paths, silent, Option.getD_none]

end PackageAudit.Package
