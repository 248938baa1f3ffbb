import PackageAudit.CommandLine.Init
import PackageAudit.Proofs.CommandLine.Again
import PackageAudit.Proofs.Settings.Document

/-!
# What the commands do to files

A check changes nothing but its report and the missing directories above it (`footprint_check`); if it writes no report
or fails on what it is given it changes nothing at all (`tree_check_of_noReport`, `tree_check_of_isInput`). Making
settings does nothing where there are some (`init_of_exists`); where nothing stands it puts the default ones and changes
nothing else (`init_of_free`), and they are loaded from then on (`load_of_init`).

Main statement: `file_effects`, for both commands. The location of the settings is the working directory with one name
behind it (`locate_join_workingPath`).
-/

namespace PackageAudit.CommandLine

open FileTree (Footprint)

variable {t : FileTree} {a : CheckArguments} {p : Prepared} {name : String}

/-! ## A name in the working directory -/

/-- The working directory is reached from the root along its names. -/
theorem workingPath_eq (h : ∀ name ∈ t.workingDirectory, IsName name) :
    workingPath t = t.workingDirectory.foldl Path.join "/" := by
  by_cases top : t.workingDirectory = []
  · rw [workingPath, top]
    rfl
  · rw [Path.foldl_join top h (by decide)]
    rfl

/-- The names on the way to a name in the working directory can be names. -/
theorem isName_of_sound (sound : t.Sound) (h : IsName name) : ∀ n ∈ t.workingDirectory ++ [name], IsName n := by
  intro n hn
  rcases List.mem_append.mp hn with hn | hn
  · exact (sound.wellFormed.reached sound.here).isName n hn
  · rw [List.mem_singleton.mp hn]
    exact h

/-- A name behind the path of the working directory goes along all names on the way to it. -/
theorem continues_join_workingPath (sound : t.Sound) (h : IsName name) :
    Path.Continues "/" (t.workingDirectory ++ [name]) (Path.join (workingPath t) name) := by
  have names := isName_of_sound sound h
  have path := @Path.continues_foldl_join "/" _ (by decide) (by decide) names
  rw [List.foldl_append] at path
  rw [workingPath_eq fun n hn => names n (List.mem_append_left _ hn)]
  exact path

/-- **A name in the working directory** stands at the location of the directory with the name behind it, unless its path
is too long. -/
theorem locate_join_workingPath (sound : t.Sound) (h : IsName name)
    (short : Text.Utf8.size (Path.join (workingPath t) name).toList < FileTree.longestPath) :
    t.locate (Path.join (workingPath t) name) = .ok (t.workingDirectory ++ [name]) := by
  have path := continues_join_workingPath sound h
  have top : t.start (Path.join (workingPath t) name) = [] := by
    rw [FileTree.start, path.isAbsolute_eq]
    rfl
  have names : Path.names (Path.join (workingPath t) name) = t.workingDirectory ++ [name] := path.names_eq
  rw [FileTree.locate_eq_foldlM path.nul_notMem path.ne_empty short, top, names]
  refine FileTree.foldlM_step (fun n hn => ?_) (isName_of_sound sound h)
  rw [List.length_append, List.length_singleton] at hn
  rw [List.nil_append, List.take_append_of_le_length (by omega)]
  by_cases last : n = t.workingDirectory.length
  · rw [last, List.take_length]
    exact sound.here
  · exact (sound.wellFormed.reached sound.here).parents n (by omega)

theorem locate_join_workingPath_of_long (sound : t.Sound) (h : IsName name)
    (long : FileTree.longestPath ≤ Text.Utf8.size (Path.join (workingPath t) name).toList) :
    t.locate (Path.join (workingPath t) name) = .error .nameTooLong := by
  have path := continues_join_workingPath sound h
  rw [FileTree.locate, if_neg (mt List.contains_iff_mem.mp path.nul_notMem), if_neg path.ne_empty, if_pos long]

/-! ## Checking -/

/-- The path of the report of a check. -/
def reportPath (t : FileTree) (a : CheckArguments) (settings : Settings) : String :=
  a.report.getD (Path.join (workingPath t) settings.reportFile)

/-- Whether a failure is about what a check is given: the settings, the rules, or the package with what is ignored of
it. -/
def Failure.isInput : Failure → Bool
  | .settings _ | .catalog _ _ | .package _ => true
  | .report _ | .settingsFile _ _ => false

/-- A check that cannot be prepared leaves all files as they are. -/
theorem tree_check_of_error {failure : Failure} (color : Bool) (h : prepare t a = .error failure) :
    (check t color a).tree = t := by
  unfold check
  rw [h]
  rfl

/-- A check that is prepared leaves all files as they are if no report is asked for, and else has tried to write it. -/
theorem tree_check_of_prepare (color : Bool) (h : prepare t a = .ok p) : (check t color a).tree
    = if a.noReport then t else (Report.write t p.reportFile p.reportFormat (p.findings t)).1 := by
  unfold check
  rw [h]
  unfold runCheck
  simp only [findings_of_prepare h]
  cases a.noReport with
  | true => rfl
  | false =>
    cases Report.write t p.reportFile p.reportFormat (p.findings t) with
    | mk tree result => cases result <;> rfl

/-- Once a check is prepared it fails only on its report. -/
theorem isInput_of_prepare {failure : Failure} (color : Bool) (h : prepare t a = .ok p)
    (hf : (check t color a).failure = some failure) : failure.isInput = false := by
  unfold check at hf
  rw [h] at hf
  unfold runCheck at hf
  dsimp only at hf
  split at hf
  next => cases hf
  next =>
    split at hf
    next => cases hf
    next =>
      cases hf
      rfl

/-- **A check without a report** leaves all files as they are. -/
theorem tree_check_of_noReport (t : FileTree) (color : Bool) (hn : a.noReport = true) : (check t color a).tree = t := by
  cases h : prepare t a with
  | error failure => exact tree_check_of_error color h
  | ok p => rw [tree_check_of_prepare color h, if_pos hn]

/-- **A check that fails on what it is given** leaves all files as they are. -/
theorem tree_check_of_isInput {failure : Failure} (t : FileTree) (color : Bool)
    (hf : (check t color a).failure = some failure) (input : failure.isInput = true) : (check t color a).tree = t := by
  cases h : prepare t a with
  | error failure => exact tree_check_of_error color h
  | ok p =>
    rw [isInput_of_prepare color h hf] at input
    cases input

/-- **A check changes nothing but its report** and the missing directories above it, however it ends. -/
theorem footprint_check (t : FileTree) (color : Bool) (a : CheckArguments) :
    (check t color a).tree = t ∨ ∃ settings, (Settings.load t (workingPath t)).map (·.settings) = .ok settings
      ∧ Footprint (reportPath t a settings) t (check t color a).tree := by
  cases h : prepare t a with
  | error failure => exact Or.inl (tree_check_of_error color h)
  | ok p =>
    have loads := prepare_eq_ok_iff.mp h
    refine Or.inr ⟨p.settings, loads.settings, ?_⟩
    have path : p.reportFile = reportPath t a p.settings := loads.reportFile
    rw [tree_check_of_prepare color h, ← path]
    split
    next => exact .refl _ t
    next => exact Report.footprint_write t _ _ _

/-! ## Making settings -/

/-- The path of the settings in the working directory. -/
def settingsPath (t : FileTree) : String :=
  Path.join (workingPath t) Settings.fileName

/-- The location of the settings in the working directory. -/
def settingsPlace (t : FileTree) : Location :=
  t.workingDirectory ++ [Settings.fileName]

def defaultFile : Item :=
  .file (Text.Utf8.encode Settings.default.document.toList)

theorem isName_fileName : IsName Settings.fileName := by decide

theorem workingPath_ne_empty (t : FileTree) : workingPath t ≠ "" := by
  intro h
  have := congrArg String.toList h
  simp [workingPath] at this

theorem settingsPath_asks (t : FileTree) : Path.endsInSlash (settingsPath t) = false
    ∧ FileTree.endsAtDot (settingsPath t) = false ∧ FileTree.asksForDirectory (settingsPath t) = false := by
  have slash := Path.endsInSlash_join (workingPath_ne_empty t) isName_fileName
  have last := Path.lastSegment?_join (workingPath_ne_empty t) isName_fileName
  refine ⟨slash, ?_, ?_⟩
  · rw [settingsPath, FileTree.endsAtDot, last]
    decide
  · rw [settingsPath, FileTree.asksForDirectory, slash, last]
    decide

/-- Whether the path of the settings is not too long. -/
def SettingsReachable (t : FileTree) : Prop :=
  Text.Utf8.size (settingsPath t).toList < FileTree.longestPath

/-- There are settings if something stands at their place and their path is not too long. -/
theorem exists?_settingsPath (sound : t.Sound) :
    t.exists? (settingsPath t) = true ↔ SettingsReachable t ∧ t.item? (settingsPlace t) ≠ none := by
  by_cases short : SettingsReachable t
  · have located : t.locate (settingsPath t) = .ok (settingsPlace t) :=
      locate_join_workingPath sound isName_fileName short
    rw [FileTree.exists?_of_locate located (settingsPath_asks t).2.2, Option.isSome_iff_ne_none, and_iff_right short]
  · have long : t.locate (settingsPath t) = .error .nameTooLong :=
      locate_join_workingPath_of_long sound isName_fileName (Nat.not_lt.mp short)
    rw [FileTree.exists?_of_locate_error long]
    simp [short]

theorem write_settings (sound : t.Sound) (short : SettingsReachable t) (free : t.item? (settingsPlace t) = none) :
    t.write (settingsPath t) (Text.Utf8.encode Settings.default.document.toList)
      = .ok (t.set (settingsPlace t) defaultFile) :=
  FileTree.write_of_free (locate_join_workingPath sound isName_fileName short) free (settingsPath_asks t).1
    (settingsPath_asks t).2.1

theorem init_of_exists (color : Bool) (h : t.exists? (settingsPath t) = true) :
    (init t color).status = .failure ∧ (init t color).tree = t := by
  have kept : init t color = {
      status := .failure
      complaint := some ("Error: " ++ Settings.fileName ++ " already exists")
      tree := t } := if_pos h
  rw [kept]
  exact ⟨rfl, rfl⟩

theorem init_of_not_exists (color : Bool) (h : ¬t.exists? (settingsPath t) = true) : init t color
    = match t.write (settingsPath t) (Text.Utf8.encode Settings.default.document.toList) with
      | .error cause => .failed t (.settingsFile (settingsPath t) cause) ""
      | .ok t => { status := .success, output := initOutput t color, tree := t } :=
  if_neg h

theorem init_of_long (sound : t.Sound) (color : Bool) (long : ¬SettingsReachable t) :
    (init t color).status = .error ∧ (init t color).tree = t := by
  have failed : t.write (settingsPath t) (Text.Utf8.encode Settings.default.document.toList)
      = .error .nameTooLong := by
    unfold FileTree.write settingsPath
    rw [locate_join_workingPath_of_long sound isName_fileName (Nat.not_lt.mp long)]
    rfl
  rw [init_of_not_exists color fun there => long ((exists?_settingsPath sound).mp there).1, failed]
  exact ⟨rfl, rfl⟩

/-- Where nothing stands the default settings are made, and nothing else changes. -/
theorem init_of_free (sound : t.Sound) (color : Bool) (short : SettingsReachable t)
    (free : t.item? (settingsPlace t) = none) :
    (init t color).status = .success ∧ (init t color).tree = t.set (settingsPlace t) defaultFile := by
  rw [init_of_not_exists color fun there => ((exists?_settingsPath sound).mp there).2 free,
    write_settings sound short free]
  exact ⟨rfl, rfl⟩

theorem find?_of_exists {directory : String} (h : t.exists? (Path.join directory Settings.fileName) = true) :
    Settings.find? t directory = some (Path.join directory Settings.fileName) := by
  rw [Settings.find?, Settings.findFrom, if_pos h]

theorem loadFile_of_decode {path : String} {text : List Char} {s : Settings} (h : t.readText path = .ok text)
    (hs : Settings.decode text = .ok s) : Settings.loadFile t path = Settings.checked s := by
  unfold Settings.loadFile
  rw [h]
  simp only [Except.mapError, bind, Except.bind, hs]

/-- **Settings that were made are loaded** as the default ones. -/
theorem load_of_init (sound : t.Sound) (short : SettingsReachable t) (free : t.item? (settingsPlace t) = none) :
    Settings.load (t.set (settingsPlace t) defaultFile) (workingPath t)
      = .ok ⟨.default, some (settingsPath t)⟩ := by
  have read := FileTree.read_of_write (write_settings sound short free)
  have there : (t.set (settingsPlace t) defaultFile).exists? (settingsPath t) = true := by
    obtain ⟨item, item_there, -⟩ := exists_of_bind_eq_ok read
    rw [FileTree.exists?, item_there]
    rfl
  have text := FileTree.readText_of_read read
  have loaded : Settings.loadFile (t.set (settingsPlace t) defaultFile) (settingsPath t) = .ok .default := by
    rw [loadFile_of_decode text (Settings.decode_written _)]
    rfl
  unfold Settings.load
  rw [find?_of_exists there]
  show (Settings.loadFile _ (settingsPath t)).map _ = _
  rw [loaded]
  rfl

/-! ## Both commands -/

/-- **What the commands do to files.** A check changes nothing but its report and the missing directories above it; it
changes nothing at all if it writes no report or fails on the settings, the rules, the package or what is ignored of it.
Making settings fails where there are settings, that is where something stands at their place and their path is not too
long; unless it succeeds it changes nothing. If it succeeds then nothing stood at their place, all that is new is their
file, and from the same working directory they are loaded as the default ones. -/
theorem file_effects {t : FileTree} (sound : t.Sound) (color : Bool) :
    (∀ a : CheckArguments,
        ((check t color a).tree = t ∨ ∃ settings, (Settings.load t (workingPath t)).map (·.settings) = .ok settings
            ∧ Footprint (reportPath t a settings) t (check t color a).tree)
          ∧ (a.noReport = true → (check t color a).tree = t)
          ∧ ∀ failure, (check t color a).failure = some failure → failure.isInput = true → (check t color a).tree = t)
      ∧ ((init t color).status = .failure ↔ t.exists? (settingsPath t) = true)
      ∧ (t.exists? (settingsPath t) = true ↔ SettingsReachable t ∧ t.item? (settingsPlace t) ≠ none)
      ∧ ((init t color).status ≠ .success → (init t color).tree = t)
      ∧ ((init t color).status = .success → t.item? (settingsPlace t) = none
          ∧ (init t color).tree = t.set (settingsPlace t) defaultFile
          ∧ Settings.load (init t color).tree (workingPath (init t color).tree)
            = .ok ⟨.default, some (settingsPath t)⟩) := by
  refine ⟨fun a => ⟨footprint_check t color a, tree_check_of_noReport t color,
    fun _ hf input => tree_check_of_isInput t color hf input⟩, ?_⟩
  have there := exists?_settingsPath sound
  by_cases he : t.exists? (settingsPath t) = true
  · obtain ⟨status, tree⟩ := init_of_exists color he
    exact ⟨⟨fun _ => he, fun _ => status⟩, there, fun _ => tree, fun made => nomatch status.symm.trans made⟩
  by_cases short : SettingsReachable t
  · have free : t.item? (settingsPlace t) = none := by
      by_contra item
      exact he (there.mpr ⟨short, item⟩)
    obtain ⟨status, tree⟩ := init_of_free sound color short free
    refine ⟨⟨fun failed => (nomatch status.symm.trans failed), fun h => absurd h he⟩, there,
      fun other => absurd status other, fun _ => ⟨free, tree, ?_⟩⟩
    rw [tree]
    exact load_of_init sound short free
  · obtain ⟨status, tree⟩ := init_of_long sound color short
    exact ⟨⟨fun failed => (nomatch status.symm.trans failed), fun h => absurd h he⟩, there, fun _ => tree,
      fun made => nomatch status.symm.trans made⟩

/-- In a directory with nothing but the rules a check without a report changes nothing, and the settings that are made
there are loaded. -/
theorem file_effects_rulesOnly : rulesOnly.Sound
    ∧ (check rulesOnly false { noReport := true }).tree = rulesOnly
    ∧ (init rulesOnly false).status = .success
    ∧ Settings.load (init rulesOnly false).tree (workingPath (init rulesOnly false).tree)
      = .ok ⟨.default, some "/w/.tdqarc.json"⟩ := by
  obtain ⟨checks, -, -, -, made⟩ := file_effects sound_rulesOnly false
  have short : SettingsReachable rulesOnly := by
    unfold SettingsReachable
    decide +kernel
  have status : (init rulesOnly false).status = .success :=
    (init_of_free sound_rulesOnly false short (by decide +kernel)).1
  have path : settingsPath rulesOnly = "/w/.tdqarc.json" := by decide +kernel
  exact ⟨sound_rulesOnly, (checks { noReport := true }).2.1 rfl, status, path ▸ (made status).2.2⟩

end PackageAudit.CommandLine
