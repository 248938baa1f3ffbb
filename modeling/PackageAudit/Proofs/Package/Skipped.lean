import PackageAudit.Proofs.Audit.Bound
import PackageAudit.Proofs.Package.Again

/-!
# Files with a skipped suffix

Nothing is selected from an artifact whose path ends in a skipped suffix, so a new file with such a path makes no
difference to what the conditions select (`collect_congr`). It may still state a fact, since facts are read from every
file with the right name. If it does not (`facts_of_silent`), it makes no difference to the findings, either, unless the
path of something else that is read leads to it; that of a kept file without backslashes does not (`clear_of_kept`).

Main statement: `skipped_unseen`. A version file is read though its suffix is skipped (`skipped_seen`).
-/

namespace PackageAudit

open FileTree (Written Clear)

/-- What is selected depends on the artifacts that are not left out, and on what can be read of them. -/
theorem Audit.collect_congr {o : Options} {corpus corpus' : Corpus} {catalog : Catalog}
    (paths : corpus'.paths.filter (!o.skips ·) = corpus.paths.filter (!o.skips ·))
    (content : ∀ path ∈ corpus.paths, o.skips path = false → corpus'.content path = corpus.content path) :
    collect o corpus' catalog = collect o corpus catalog := by
  have left_out (index : ConditionIndex) (corpus : Corpus) :
      (corpus.paths.filter (!o.skips ·)).flatMap (scan o corpus catalog index)
        = corpus.paths.flatMap (scan o corpus catalog index) := by
    refine flatMap_filter_of_nil fun path _ skipped => ?_
    rw [Bool.not_eq_false'] at skipped
    rw [scan, if_pos skipped]
  have found (index : ConditionIndex) : corpus'.paths.flatMap (scan o corpus' catalog index)
      = corpus.paths.flatMap (scan o corpus catalog index) := by
    rw [← left_out, ← left_out, paths]
    refine List.flatMap_congr fun path hp => ?_
    obtain ⟨listed, kept⟩ := List.mem_filter.mp hp
    unfold scan
    rw [content path listed (by simpa using kept)]
  unfold collect
  simp only [found]

namespace Package

variable {t t' : FileTree} {place location : Location} {root path : String} {o : Audit.Options}
  {ignores file : List String} {bytes : List UInt8} {keywordsFile : Option String} {p p' : Package}

/-! ## A new file -/

theorem clear_of_kept (written : Written t t' place) (new : t.item? place = none)
    (hk : Kept t location ignores file bytes) (hr : Rooted t root location) :
    Clear t t' place (Path.below root file) := by
  intro there hthere
  have own := hk.locate_below hr (FileTree.size_lt_of_locate hthere)
  obtain rfl := Except.ok.inj ((written.grown.locate own).symm.trans hthere)
  refine ⟨own, fun same => ?_⟩
  rw [← same, hk.item] at new
  cases new

/-- Without backslashes every listed path is clear of a new file. -/
theorem clear_of_open (ht : t.WellFormed) (written : Written t t' place) (new : t.item? place = none)
    (h : Package.open t root keywordsFile ignores = .ok p) (hslashes : NoBackslash t root ignores) :
    ∀ path ∈ p.paths, Clear t t' place path := by
  intro path hp
  obtain ⟨location, file, bytes, hr, hk, rfl⟩ := exists_kept_of_open ht h hslashes hp
  exact clear_of_kept written new hk hr

/-! ## What is selected and found -/

/-- In a check of a package the conditions select what they select of what the files say. -/
theorem collected_check (t : FileTree) (o : Audit.Options) (catalog : Catalog) (p : Package) :
    (p.check t o catalog).collected = Audit.collect o (p.survey t) catalog :=
  rfl

/-- The facts are the same if no fact is read from a new file and no object created by it, and neither the listed paths
nor that of the keywords lead to it. -/
theorem facts_of_silent (written : Written t t' place) (ht : t.WellFormed) (ht' : t'.WellFormed)
    (h : Package.open t root keywordsFile ignores = .ok p)
    (opened : Package.open t' root keywordsFile ignores = .ok p')
    (silent : ∀ location file, t.locate root = .ok location → location ++ file = place →
      Ignored ignores file ∨ ¬(StatesFacts (artifactPath root file) ∨ Creates (artifactPath root file)))
    (clear : ∀ path ∈ p.paths, Clear t t' place path)
    (clear_keywords : ∀ path, keywordsFile = some path → Clear t t' place path) :
    (p'.survey t').facts = (p.survey t).facts := by
  let tells (path : String) : Bool := decide (StatesFacts path ∨ Creates path)
  obtain ⟨again, reopened, paths, same_file⟩ : ∃ again, Package.open t' root keywordsFile ignores = .ok again
      ∧ again.paths.filter tells = p.paths.filter tells ∧ again.keywordsFile = p.keywordsFile :=
    open_again written ht ht' h fun location file hroot own _ =>
      (silent location file hroot own).imp_right decide_eq_false
  obtain rfl : p' = again := Except.ok.inj (opened.symm.trans reopened)
  refine facts_survey_congr paths (fun _ => decide_eq_true)
    (fun path hp _ => textOf_of_clear written (clear path hp)) ?_
  have known : p.keywordsFile = keywordsFile := by rw [eq_of_open h]
  rw [same_file, known]
  cases keywordsFile with
  | none => rfl
  | some path => exact keywords_of_clear written (clear_keywords path rfl)

/-- **A file with a skipped suffix is not seen.** If it is new to a package, the package opens as before, and the
conditions select the same, as long as no listed path leads to it. If the file is ignored, or no fact is read from such
a path and no object created by it, and the path of the keywords does not lead to it either, then a check finds the
same. No listed path leads to it if no path of a kept file holds a backslash. -/
theorem skipped_unseen (written : Written t t' place) (ht : t.WellFormed) (ht' : t'.WellFormed)
    (new : t.item? place = none) (h : Package.open t root keywordsFile ignores = .ok p)
    (skipped : ∀ location file, t.locate root = .ok location → location ++ file = place →
      o.skips (artifactPath root file) = true) :
    (NoBackslash t root ignores → ∀ path ∈ p.paths, Clear t t' place path)
      ∧ ∃ p', Package.open t' root keywordsFile ignores = .ok p'
        ∧ ((∀ path ∈ p.paths, Clear t t' place path) →
          (∀ catalog, (p'.check t' o catalog).collected = (p.check t o catalog).collected)
            ∧ ((∀ location file, t.locate root = .ok location → location ++ file = place →
                Ignored ignores file ∨ ¬(StatesFacts (artifactPath root file) ∨ Creates (artifactPath root file))) →
              (∀ path, keywordsFile = some path → Clear t t' place path) →
                ∀ catalog, (p'.check t' o catalog).findings = (p.check t o catalog).findings)) := by
  refine ⟨clear_of_open ht written new h, ?_⟩
  obtain ⟨p', opened, paths, -⟩ : ∃ p', Package.open t' root keywordsFile ignores = .ok p'
      ∧ p'.paths.filter (!o.skips ·) = p.paths.filter (!o.skips ·) ∧ p'.keywordsFile = p.keywordsFile :=
    open_again written ht ht' h fun location file hroot own _ =>
      Or.inr (by simp [skipped location file hroot own])
  refine ⟨p', opened, fun clear => ?_⟩
  have collected (catalog : Catalog) : Audit.collect o (p'.survey t') catalog = Audit.collect o (p.survey t) catalog :=
    Audit.collect_congr paths fun path hp _ => textOf_of_clear written (clear path hp)
  refine ⟨fun catalog => ?_, fun silent clear_keywords catalog => ?_⟩
  · rw [collected_check, collected_check, collected]
  have facts := facts_of_silent written ht ht' h opened silent clear clear_keywords
  rw [findings_check_of_open opened, findings_check_of_open h]
  unfold Audit.run
  rw [collected, facts]

def oneScript : FileTree :=
  (({} : FileTree).set ["pkg"] .directory).set ["pkg", "a.sql"] (.file [83])

/-- An archive in the package is not seen. -/
theorem skipped_unseen_archive : oneScript.WellFormed ∧ ∃ p p', Package.open oneScript "pkg" none [] = .ok p
    ∧ Package.open (oneScript.set ["pkg", "b.tar"] (.file [83])) "pkg" none [] = .ok p'
    ∧ ∀ catalog, (p'.check (oneScript.set ["pkg", "b.tar"] (.file [83])) {} catalog).findings
      = (p.check oneScript {} catalog).findings := by
  have well_formed : oneScript.WellFormed := by decide +kernel
  have still_well_formed : (oneScript.set ["pkg", "b.tar"] (.file [83])).WellFormed := by decide +kernel
  have new : oneScript.item? ["pkg", "b.tar"] = none := by decide +kernel
  have written := FileTree.written_set (t := oneScript) (by rw [new]; exact nofun) [83]
  have listed : paths <$> Package.open oneScript "pkg" none [] = .ok ["pkg/a.sql"] := by decide +kernel
  have here : oneScript.locate "pkg" = .ok ["pkg"] := by decide +kernel
  obtain ⟨p, opened, paths⟩ := exists_of_map_eq_ok listed
  have own {location : Location} {file : List String} (hroot : oneScript.locate "pkg" = .ok location)
      (same : location ++ file = ["pkg", "b.tar"]) : file = ["b.tar"] := by
    obtain rfl := Except.ok.inj (hroot.symm.trans here)
    exact List.cons_injective same
  have skipped (location : Location) (file : List String) (hroot : oneScript.locate "pkg" = .ok location)
      (same : location ++ file = ["pkg", "b.tar"]) : ({} : Audit.Options).skips (artifactPath "pkg" file) = true := by
    obtain rfl := own hroot same
    decide +kernel
  obtain ⟨-, p', reopened, found⟩ := skipped_unseen written well_formed still_well_formed new opened skipped
  have clear : ∀ path ∈ p.paths,
      Clear oneScript (oneScript.set ["pkg", "b.tar"] (.file [83])) ["pkg", "b.tar"] path := by
    rw [paths]
    refine List.forall_mem_singleton.mpr ?_
    decide +kernel
  obtain ⟨-, findings⟩ := found clear
  refine ⟨well_formed, p, p', opened, reopened, findings (fun location file hroot same => Or.inr ?_) nofun⟩
  obtain rfl := own hroot same
  decide +kernel

def noFiles : FileTree :=
  ({} : FileTree).set ["pkg"] .directory

/-- The package with an archive that has the name of a version file and states a number. -/
def numbered : FileTree :=
  noFiles.set ["pkg", "Version.txt.tar"] (.file (Text.Utf8.encode "CR_NUMBER: C1234567".toList))

/-- **A file with a skipped suffix may still be read**: a version file states the change request number whatever its
suffix, so the warning that there is none goes away. -/
theorem skipped_seen : noFiles.WellFormed ∧ numbered.WellFormed
    ∧ noFiles.item? ["pkg", "Version.txt.tar"] = none ∧ ({} : Audit.Options).skips "pkg/Version.txt.tar" = true
    ∧ ∃ p p', Package.open noFiles "pkg" none [] = .ok p ∧ Package.open numbered "pkg" none [] = .ok p'
      ∧ p'.paths = ["pkg/Version.txt.tar"]
      ∧ (p.check noFiles {} .empty).findings.warningCount = 1
      ∧ (p'.check numbered {} .empty).findings.warningCount = 0 := by
  have none_listed : paths <$> Package.open noFiles "pkg" none [] = .ok [] := by decide +kernel
  have listed : paths <$> Package.open numbered "pkg" none [] = .ok ["pkg/Version.txt.tar"] := by decide +kernel
  obtain ⟨p, opened, paths⟩ := exists_of_map_eq_ok none_listed
  obtain ⟨p', opened', paths'⟩ := exists_of_map_eq_ok listed
  have known : p = { paths := [], keywordsFile := none } := by rw [eq_of_open opened, paths]
  have known' : p' = { paths := ["pkg/Version.txt.tar"], keywordsFile := none } := by rw [eq_of_open opened', paths']
  refine ⟨by decide +kernel, by decide +kernel, by decide +kernel, by decide +kernel, p, p', opened, opened', paths',
    ?_, ?_⟩
  · rw [known]
    decide +kernel
  · rw [known']
    decide +kernel

end Package
end PackageAudit
