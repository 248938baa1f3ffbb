import PackageAudit.Proofs.Audit.Local
import PackageAudit.Proofs.Catalog.Outcome
import PackageAudit.Proofs.Catalog.RoundTrip
import PackageAudit.Proofs.CommandLine.Check
import PackageAudit.Proofs.Package.Again
import PackageAudit.Proofs.Report.File

/-!
# Checking again

A check that comes to its end leaves its report behind, which the same check may come across when it is run again. If it
is apart from all that the check looks at (`Apart`), the check does the same again (`check_check`). In general it does
not: by default the package that is checked holds the report (`check_not_repeatable`).

The second check is prepared from what the first one loaded (`Loads.again`) and finds the same (`findings_again`): the
settings, the rules and the keywords are read as before, no other artifact is new, and of those that are new or read
differently nothing else is made.
-/

namespace PackageAudit

open FileTree (Written Clear)

/-! ## Settings -/

theorem Settings.loadFile_congr {t t' : FileTree} {path : String} {s : Settings}
    (same : (t'.readText path).toOption = (t.readText path).toOption) (h : loadFile t path = .ok s) :
    loadFile t' path = .ok s := by
  obtain ⟨text, read, h⟩ := exists_of_bind_eq_ok h
  rw [ok_of_mapError_eq_ok read] at same
  unfold loadFile
  rw [toOption_eq_some_iff.mp same]
  exact h

/-- The same settings are loaded if the same file is found and its path is clear of the file that was written. -/
theorem Settings.load_again {t t' : FileTree} {place : Location} {directory : String} {loaded : Settings.Loaded}
    (h : Written t t' place) (found : Settings.find? t' directory = Settings.find? t directory)
    (clear : ∀ path, Settings.find? t directory = some path → Clear t t' place path)
    (hl : Settings.load t directory = .ok loaded) : Settings.load t' directory = .ok loaded := by
  unfold load at hl ⊢
  rw [found]
  cases hf : find? t directory with
  | none =>
    rw [hf] at hl
    exact hl
  | some path =>
    rw [hf] at hl
    obtain ⟨s, hs, rfl⟩ := exists_of_map_eq_ok hl
    show (loadFile t' path).map _ = _
    rw [loadFile_congr (h.readText_of_clear (clear path hf)) hs]
    rfl

namespace CommandLine

open Audit (selectionAt)
open Package (StatesFacts Creates)

variable {t t' : FileTree} {a : CheckArguments} {p : Prepared} {place : Location} {path : String}

/-! ## Preparing -/

/-- The path of the file with the rules. -/
def rulesPath (t : FileTree) (a : CheckArguments) (settings : Settings) : String :=
  a.rules.getD (Path.join (workingPath t) settings.rulesFile)

/-- The path of the file with the keywords. -/
def keywordsPath (t : FileTree) (a : CheckArguments) (settings : Settings) : String :=
  a.keywords.getD (Path.join (workingPath t) settings.reservedKeywordsFile)

/-- Whether a check was prepared from what can be loaded. -/
structure Loads (t : FileTree) (a : CheckArguments) (p : Prepared) : Prop where
  settings : (Settings.load t (workingPath t)).map (·.settings) = .ok p.settings
  catalog : Catalog.load ((t.readText (rulesPath t a p.settings)).toOption.map String.ofList)
    p.settings.catalogSection = .ok p.catalog
  package : Package.open t a.packageDir (some (keywordsPath t a p.settings)) p.settings.ignores = .ok p.package
  reportFile : p.reportFile = a.report.getD (Path.join (workingPath t) p.settings.reportFile)
  reportFormat : p.reportFormat = a.format.getD p.settings.reportFormat

/-- A check is prepared from what can be loaded. -/
theorem prepare_eq_ok_iff : prepare t a = .ok p ↔ Loads t a p := by
  constructor
  · intro h
    obtain ⟨settings, hs, h⟩ := exists_of_bind_eq_ok h
    obtain ⟨catalog, hc, h⟩ := exists_of_bind_eq_ok h
    obtain ⟨package, hp, h⟩ := exists_of_bind_eq_ok h
    cases h
    obtain ⟨loaded, hl, rfl⟩ := exists_of_map_eq_ok hs
    refine ⟨?_, ok_of_mapError_eq_ok hc, ok_of_mapError_eq_ok hp, rfl, rfl⟩
    rw [ok_of_mapError_eq_ok hl]
    rfl
  · intro h
    obtain ⟨loaded, hl, hs⟩ := exists_of_map_eq_ok h.settings
    have catalog := h.catalog
    have package := h.package
    unfold rulesPath at catalog
    unfold keywordsPath at package
    unfold prepare
    simp only [hl, Except.mapError, bind, Except.bind, Except.map, hs, catalog, package, ← h.reportFile,
      ← h.reportFormat]

/-- What is loaded for a check is loaded again, but for the package. -/
theorem Loads.again {package : Package} (h : Loads t a p) (written : Written t t' place)
    (found : Settings.find? t' (workingPath t) = Settings.find? t (workingPath t))
    (settings : ∀ path, Settings.find? t (workingPath t) = some path → Clear t t' place path)
    (rules : Clear t t' place (rulesPath t a p.settings))
    (hp : Package.open t' a.packageDir (some (keywordsPath t a p.settings)) p.settings.ignores = .ok package) :
    Loads t' a { p with package } := by
  have here : workingPath t' = workingPath t := by
    unfold workingPath
    rw [written.workingDirectory]
  obtain ⟨loaded, hl, hs⟩ := exists_of_map_eq_ok h.settings
  constructor
  · rw [here, Settings.load_again written found settings hl]
    exact congrArg Except.ok hs
  · unfold rulesPath at rules ⊢
    rw [here, written.readText_of_clear rules]
    exact h.catalog
  · unfold keywordsPath at hp ⊢
    rw [here]
    exact hp
  · rw [here]
    exact h.reportFile
  · exact h.reportFormat

/-! ## What a check does not notice -/

/-- Whether nothing is made of an artifact: no rule selects anything from it, and no fact comes from it. -/
structure Silent (t : FileTree) (p : Prepared) (path : String) : Prop where
  selection : ∀ rule ∈ p.catalog.boundRules,
    selectionAt p.settings.options (p.package.survey t) rule.condition path = []
  no_facts : ¬(StatesFacts path ∨ Creates path)

/-- Whether the same is made of an artifact after a file was written: every rule selects the same from it, and no fact
is read from it. -/
structure Steady (t t' : FileTree) (p : Prepared) (path : String) : Prop where
  selection : ∀ rule ∈ p.catalog.boundRules,
    selectionAt p.settings.options (p.package.survey t') rule.condition path
      = selectionAt p.settings.options (p.package.survey t) rule.condition path
  no_facts : ¬StatesFacts path

/-- Whether a report that was written at a place is apart from what a check looks at. The settings are found where they
were, and the paths of the settings, the rules and the keywords are clear of the report; so are those of the artifacts,
unless the same is made of an artifact after all; and of the report itself, if it is a new file of the package that is
not ignored, nothing is made. -/
structure Apart (t t' : FileTree) (a : CheckArguments) (p : Prepared) (place : Location) : Prop where
  found : Settings.find? t' (workingPath t) = Settings.find? t (workingPath t)
  settings : ∀ path, Settings.find? t (workingPath t) = some path → Clear t t' place path
  rules : Clear t t' place (rulesPath t a p.settings)
  keywords : Clear t t' place (keywordsPath t a p.settings)
  artifacts : ∀ path ∈ p.package.paths, Clear t t' place path ∨ Steady t t' p path
  report : ∀ root file, t.locate a.packageDir = .ok root → root ++ file = place → t.item? place = none →
    Package.Ignored p.settings.ignores file ∨ Silent t' p (Package.artifactPath a.packageDir file)

/-- **The check is prepared again**, and finds the same. -/
theorem findings_again (h : Loads t a p) (apart : Apart t t' a p place) (written : Written t t' place)
    (ht : t.WellFormed) (ht' : t'.WellFormed) :
    ∃ package, Loads t' a { p with package } ∧ ({ p with package } : Prepared).findings t' = p.findings t := by
  -- the two lists of paths differ at most in one of which nothing is made, so both are compared without such paths
  obtain ⟨keep, hk⟩ : ∃ keep : String → Bool, ∀ path, keep path = false ↔ Silent t' p path := by
    classical
    exact ⟨fun path => !decide (Silent t' p path), fun path => by simp⟩
  obtain ⟨package, opened, paths, keywordsFile⟩ : ∃ package : Package, Package.open t' a.packageDir
      (some (keywordsPath t a p.settings)) p.settings.ignores = .ok package
        ∧ package.paths.filter keep = p.package.paths.filter keep ∧ package.keywordsFile = p.package.keywordsFile := by
    refine Package.open_again written ht ht' h.package fun root file hroot own free => ?_
    exact (apart.report root file hroot own free).imp_right (hk _).mpr
  refine ⟨package, h.again written apart.found apart.settings apart.rules opened, ?_⟩
  have facts : (package.survey t').facts = (p.package.survey t).facts := by
    refine Package.facts_survey_congr paths (fun path stated => ?_) (fun path hp stated => ?_) ?_
    · rw [← Bool.not_eq_false, hk]
      exact fun silent => silent.no_facts stated
    · rcases apart.artifacts path hp with clear | steady
      · exact Package.textOf_of_clear written clear
      · exact absurd stated steady.no_facts
    · rw [keywordsFile, Package.eq_of_open h.package]
      exact Package.keywords_of_clear written apart.keywords
  refine Audit.run_congr_of_silent keep facts paths (fun path hp rule hr => ?_) fun path silent rule hr => ?_
  · rcases apart.artifacts path hp with clear | steady
    · exact Audit.selectionAt_congr (Package.textOf_of_clear written clear)
    · exact steady.selection rule hr
  · exact ((hk path).mp silent).selection rule hr

/-! ## Checking again -/

/-- **A check that is run again does the same** if it comes to its end and its report, if it writes one, is apart from
what it looks at: it ends with the same status, prints the same, and leaves all files as they are, the report among
them. -/
theorem check_check (color : Bool) (sound : t.Sound) (ended : (check t color a).status ≠ .error)
    (apart : a.noReport = true ∨ ∃ p place, prepare t a = .ok p
      ∧ (check t color a).tree.locate p.reportFile = .ok place ∧ Apart t (check t color a).tree a p place) :
    check (check t color a).tree color a = check t color a := by
  rw [ne_eq, status_check_error, not_or] at ended
  cases hp : prepare t a with
  | error failure => exact absurd ⟨failure, hp⟩ ended.1
  | ok p =>
    have written : ¬ReportFails t a p := fun fails => ended.2 ⟨p, hp, fails⟩
    cases hn : a.noReport with
    | true =>
      have unchanged : (check t color a).tree = t := by
        rw [check_of_prepare color hp written, hn]
        rfl
      rw [unchanged]
    | false =>
      obtain ⟨p', place, hp', hplace, apart⟩ := apart.resolve_left (by simp [hn])
      obtain rfl : p = p' := Except.ok.inj (hp.symm.trans hp')
      obtain ⟨t', hw⟩ := exists_write written hn
      have first := check_of_write color hp hn hw
      rw [first] at hplace apart ⊢
      obtain ⟨place', hplace', new_file⟩ := Report.written_of_write hw
      obtain rfl : place = place' := Except.ok.inj (hplace.symm.trans hplace')
      obtain ⟨package, loads, same⟩ := findings_again (prepare_eq_ok_iff.mp hp) apart new_file sound.wellFormed
        (Report.sound_of_write sound hw).wellFormed
      have again : Report.write t' p.reportFile p.reportFormat (({ p with package } : Prepared).findings t')
          = (t', none) := by
        rw [same]
        exact Report.write_of_write hw
      rw [check_of_write color (prepare_eq_ok_iff.mpr loads) hn again, same]

/-! ## A package that holds its report -/

/-- A rule against reports: no path may hold their name. -/
def noReports : Catalog where
  conditions := ⟨[⟨"path", "", .filePath, .all, .contains []⟩], by decide⟩
  actions := ⟨[⟨"no report", .noTextMatch "junit".toList, "junit"⟩], by decide⟩
  rules := [⟨0, 0, .error, "a report"⟩]
  valid := by decide

def noReportsDocument : List Char :=
  (noReports.toForest ⟨"reports", by decide⟩ ⟨Catalog.defaultSection, by decide⟩).print

/-- A working directory with nothing but the rules, where they are looked for. -/
def rulesOnly : FileTree :=
  let directories := (({} : FileTree).set ["w"] .directory).set ["w", "resources"] .directory
  { directories.set ["w", "resources", "teradataQualityCheckRules.xml"] (.file (Text.Utf8.encode noReportsDocument))
    with workingDirectory := ["w"] }

/-- The path of the report of a check of the working directory by default. -/
def defaultReport : String := "/w/output/junit-QACheck.xml"

/-- The check of the working directory with a report at a path, as it is prepared. -/
def rulesOnlyPrepared (report : String) : Prepared where
  settings := .default
  catalog := noReports
  package := {
    paths := ["./resources/teradataQualityCheckRules.xml"]
    keywordsFile := some "/w/resources/Teradata_Reserved_Words.csv" }
  reportFile := report
  reportFormat := .junit

theorem load_noReports : Catalog.load (some (String.ofList noReportsDocument)) Catalog.defaultSection
    = .ok noReports := by
  refine Catalog.load_of_parse ?_
  unfold noReportsDocument
  rw [Catalog.parse_forest, Catalog.document_toForest]
  rfl

theorem sound_rulesOnly : rulesOnly.Sound :=
  ⟨by decide, by decide⟩

theorem find?_rulesOnly : Settings.find? rulesOnly (workingPath rulesOnly) = none := by
  decide

/-- The paths of the files with the rules and the keywords, and of the report by default. -/
theorem paths_rulesOnly : Path.join (workingPath rulesOnly) Settings.default.rulesFile
      = "/w/resources/teradataQualityCheckRules.xml"
    ∧ Path.join (workingPath rulesOnly) Settings.default.reservedKeywordsFile
      = "/w/resources/Teradata_Reserved_Words.csv"
    ∧ Path.join (workingPath rulesOnly) Settings.default.reportFile = defaultReport := by
  decide

/-- The check of the working directory is prepared. -/
theorem loads_rulesOnly (report : Option String) :
    Loads rulesOnly { report } (rulesOnlyPrepared (report.getD defaultReport)) := by
  obtain ⟨rules, keywords, output⟩ := paths_rulesOnly
  have settings : (Settings.load rulesOnly (workingPath rulesOnly)).map (·.settings) = .ok .default := by
    decide +kernel
  have text : rulesOnly.readText "/w/resources/teradataQualityCheckRules.xml" = .ok noReportsDocument := by
    refine FileTree.readText_of_read ?_
    decide +kernel
  have paths : Package.paths <$> Package.open rulesOnly "." (some "/w/resources/Teradata_Reserved_Words.csv") []
      = .ok ["./resources/teradataQualityCheckRules.xml"] := by
    decide +kernel
  have catalog : Catalog.load ((rulesOnly.readText (rulesPath rulesOnly { report } .default)).toOption.map
      String.ofList) Catalog.defaultSection = .ok noReports := by
    unfold rulesPath
    rw [Option.getD_none, rules, text]
    exact load_noReports
  have package : Package.open rulesOnly "." (some (keywordsPath rulesOnly { report } .default)) []
      = .ok (rulesOnlyPrepared "").package := by
    unfold keywordsPath
    rw [Option.getD_none, keywords]
    obtain ⟨package, opened, listed⟩ := exists_of_map_eq_ok paths
    rw [opened, Package.eq_of_open opened, listed]
    rfl
  exact ⟨settings, catalog, package, congrArg report.getD output.symm, rfl⟩

/-- The files with the report of the check that was written at a path. -/
def reported (path : String) : FileTree :=
  (Report.write rulesOnly path .junit ((rulesOnlyPrepared path).findings rulesOnly)).1

/-- What the check of the working directory does if the report can be written and there are no failures. -/
theorem check_rulesOnly {report : Option String}
    (written : (Report.write rulesOnly path .junit ((rulesOnlyPrepared path).findings rulesOnly)).2 = none)
    (clean : ((rulesOnlyPrepared path).findings rulesOnly).hasFailures = false)
    (hp : report.getD defaultReport = path) :
    (check rulesOnly false { report }).tree = reported path ∧ (check rulesOnly false { report }).status = .success := by
  have loads := loads_rulesOnly report
  rw [hp] at loads
  have hw : Report.write rulesOnly path .junit ((rulesOnlyPrepared path).findings rulesOnly) = (reported path, none) :=
    Prod.ext rfl written
  rw [check_of_write false (prepare_eq_ok_iff.mpr loads) rfl hw, clean, if_neg Bool.false_ne_true]
  exact ⟨rfl, rfl⟩

/-- A report that is left out by its suffix is apart from what the check looks at. -/
theorem apart_tar : Apart rulesOnly (reported "qa/junit.tar") { report := some "qa/junit.tar" }
    (rulesOnlyPrepared "qa/junit.tar") ["w", "qa", "junit.tar"] := by
  have no_settings : Settings.find? (reported "qa/junit.tar") (workingPath rulesOnly) = none := by decide +kernel
  refine ⟨no_settings.trans find?_rulesOnly.symm, fun path found => ?_, by decide +kernel, by decide +kernel,
    fun path listed => ?_, fun root file hroot own free => ?_⟩
  · rw [find?_rulesOnly] at found
    cases found
  · obtain rfl := List.mem_singleton.mp listed
    exact Or.inl (by decide +kernel)
  · obtain rfl := Except.ok.inj (hroot.symm.trans rulesOnly.locate_dot)
    obtain rfl : file = ["qa", "junit.tar"] := List.cons_injective own
    exact Or.inr ⟨fun _ _ => Audit.selectionAt_of_skips (by decide +kernel), by decide +kernel⟩

/-- A check does the same again if its report is left out by its suffix, though the rule is against its name. -/
theorem check_check_tar : rulesOnly.Sound
    ∧ (check rulesOnly false { report := some "qa/junit.tar" }).status = .success
    ∧ Apart rulesOnly (check rulesOnly false { report := some "qa/junit.tar" }).tree { report := some "qa/junit.tar" }
      (rulesOnlyPrepared "qa/junit.tar") ["w", "qa", "junit.tar"]
    ∧ check (check rulesOnly false { report := some "qa/junit.tar" }).tree false { report := some "qa/junit.tar" }
      = check rulesOnly false { report := some "qa/junit.tar" } := by
  obtain ⟨tree, status⟩ := @check_rulesOnly "qa/junit.tar" (some "qa/junit.tar") (by decide +kernel)
    (by decide +kernel) rfl
  have located : (reported "qa/junit.tar").locate "qa/junit.tar" = .ok ["w", "qa", "junit.tar"] := by decide +kernel
  have apart := apart_tar
  rw [← tree] at located apart
  refine ⟨sound_rulesOnly, status, apart, check_check false sound_rulesOnly (by rw [status]; decide) (Or.inr ?_)⟩
  exact ⟨_, _, prepare_eq_ok_iff.mpr (loads_rulesOnly _), located, apart⟩

/-- The check of the working directory with the report in it, as it is prepared. -/
def reportedPrepared : Prepared :=
  { rulesOnlyPrepared defaultReport with
    package := {
      paths := ["./output/junit-QACheck.xml", "./resources/teradataQualityCheckRules.xml"]
      keywordsFile := some "/w/resources/Teradata_Reserved_Words.csv" } }

/-- The report is one of the artifacts. -/
theorem open_reported : Package.open (reported defaultReport) "." (some "/w/resources/Teradata_Reserved_Words.csv") []
    = .ok reportedPrepared.package := by
  have directory : (reported defaultReport).isDirectory "." = true := by decide +kernel
  have here : (reported defaultReport).locate "." = .ok ["w"] := (reported defaultReport).locate_dot
  have globs : Package.readGlobs [] = .ok [] := rfl
  -- the files stand in the order in which they were made, so the list of paths is known but for its order
  have kept : (((reported defaultReport).filesBelow ["w"]).filter fun names =>
      Package.isListed "." names && !([] : List Glob).any (·.admits (Package.relativePath names))).map
        (Package.artifactPath ".") = ["./resources/teradataQualityCheckRules.xml", "./output/junit-QACheck.xml"] := by
    decide +kernel
  have paths : Package.pathsBelow (reported defaultReport) "." ["w"] [] = reportedPrepared.package.paths := by
    refine List.Perm.eq_of_pairwise (fun _ _ _ _ => String.le_antisymm) (Package.pairwise_pathsBelow _ _ _ _)
      (by decide +kernel) ?_
    unfold Package.pathsBelow
    simp only [kept]
    exact (List.mergeSort_perm _ _).trans (List.Perm.swap _ _ _)
  unfold Package.open
  rw [directory, here]
  simp only [globs, bind, Except.bind, paths]
  rfl

/-- The check is prepared again with the report as an artifact. -/
theorem loads_reported
    (written : Report.write rulesOnly defaultReport .junit ((rulesOnlyPrepared defaultReport).findings rulesOnly)
      = (reported defaultReport, none)) : Loads (reported defaultReport) {} reportedPrepared := by
  have no_settings : Settings.find? (reported defaultReport) (workingPath rulesOnly) = none := by decide +kernel
  have located : (reported defaultReport).locate defaultReport = .ok ["w", "output", "junit-QACheck.xml"] := by
    decide +kernel
  have clear : FileTree.Clear rulesOnly (reported defaultReport) ["w", "output", "junit-QACheck.xml"]
      (rulesPath rulesOnly {} .default) := by
    decide +kernel
  obtain ⟨place, hplace, new_file⟩ := Report.written_of_write written
  have place_eq : place = ["w", "output", "junit-QACheck.xml"] := Except.ok.inj (hplace.symm.trans located)
  rw [place_eq] at new_file
  have opened : Package.open (reported defaultReport) "." (some (keywordsPath rulesOnly {} .default)) []
      = .ok reportedPrepared.package := by
    unfold keywordsPath
    rw [Option.getD_none, paths_rulesOnly.2.1]
    exact open_reported
  exact (loads_rulesOnly none).again new_file (no_settings.trans find?_rulesOnly.symm)
    (fun path found => nomatch find?_rulesOnly.symm.trans found) clear opened

/-- **A check that is run again may end otherwise**: without any options the report becomes part of the package, and the
rule is broken. -/
theorem check_not_repeatable : rulesOnly.Sound
    ∧ (check rulesOnly false {}).status = .success
    ∧ (check (check rulesOnly false {}).tree false {}).status = .failure := by
  have written : (Report.write rulesOnly defaultReport .junit
      ((rulesOnlyPrepared defaultReport).findings rulesOnly)).2 = none := by
    decide +kernel
  have written_again : (Report.write (reported defaultReport) reportedPrepared.reportFile
      reportedPrepared.reportFormat (reportedPrepared.findings (reported defaultReport))).2 = none := by
    decide +kernel
  have broken : (reportedPrepared.findings (reported defaultReport)).hasFailures = true := by
    decide +kernel
  obtain ⟨tree, status⟩ := @check_rulesOnly defaultReport none written (by decide +kernel) rfl
  have loads := loads_reported (Prod.ext rfl written)
  refine ⟨sound_rulesOnly, status, ?_⟩
  rw [tree, check_of_write false (prepare_eq_ok_iff.mpr loads) rfl (Prod.ext rfl written_again)]
  simp only [broken, if_true]

end CommandLine
end PackageAudit
