import PackageAudit.Proofs.Artifact.Name
import PackageAudit.Proofs.FileTree.Grown
import PackageAudit.Proofs.Package.Scripts
import PackageAudit.Proofs.Text.Lines
import PackageAudit.Proofs.Text.Utf8

/-!
# Packages that follow the naming convention

A package follows the convention if it has a file for each of its tables and views, named after it, and two scripts that
drop objects again, one on each line (`Conventional`). Two different readers then find the same names: a file names its
object up to the last full stop of its last component (`Kept.objectName_artifactPath`), and a line of a script names one
between the first command and the last semicolon (`firstGroup?_commandLine`), so names may hold full stops, semicolons,
blanks and commands.

Scripts are opened by their paths, so these have to be plain; the objects only have to be listed.

Main statement: such a package passes, and what its scripts omit is named (`open_conventional`). A script in a directory
whose name holds a backslash is missed (`slashed_unrolled`).
-/

namespace PackageAudit.Package

open Audit.ObjectCounts (Lists said stray unrolledCreated unrolledDeleted)

variable {t : FileTree} {location : Location} {root name command base : String} {ignores file dir : List String}
  {bytes : List UInt8} {keywordsFile : Option String} {p : Package} {names : NameSet}

/-! ## Commands on lines -/

/-- The line with a command for an object. -/
def commandLine (command name : String) : List Char :=
  (command ++ " " ++ name ++ ";").toList

/-- **The name on the line of a command** is captured, whatever it holds but line feeds. -/
theorem firstGroup?_commandLine (h : '\n' ∉ commandLine command name) :
    (commandPattern command).firstGroup? 1 (commandLine command name) = some name.toList := by
  have line : commandLine command name = (command ++ " ").toList ++ (name.toList ++ [';']) := by
    simp [commandLine]
  have begun : (command ++ " ").toList.isPrefixOf ((command ++ " ").toList ++ (name.toList ++ [';'])) = true :=
    List.isPrefixOf_iff_prefix.mpr (List.prefix_append _ _)
  have between : commandPattern command = Regex.between (command ++ " ") ';' := rfl
  rw [between, Regex.firstGroup?_between h, line, Text.cutFirst_of_isPrefixOf begun, List.drop_left, Option.bind_some,
    Text.cutLast_append name.toList List.not_mem_nil]
  rfl

/-! ## Paths of files with a name -/

theorem normalizePath_append (a b : String) :
    Artifact.normalizePath (a ++ b) = Artifact.normalizePath a ++ Artifact.normalizePath b := by
  simp [Artifact.normalizePath]

/-- The path of a file as an artifact ends in a slash and the name of the file. -/
theorem Kept.exists_artifactPath_eq (hk : Kept t location ignores (dir ++ [name]) bytes) (hr : Rooted t root location)
    (h : '\\' ∉ name.toList) : ∃ before, (artifactPath root (dir ++ [name])).toList = before ++ '/' :: name.toList := by
  have names := hr.wellFormed.isName_of_file hk.item
  have above := Path.continues_foldl_join hr.ne_empty hr.nul_notMem fun n hn => names n (List.mem_append_left _ hn)
  obtain ⟨before, path, -⟩ := Path.exists_join_eq above.ne_empty (names name (by simp))
  have slash : Artifact.normalizePath "/" = "/" := by decide
  refine ⟨(Artifact.normalizePath before).toList, ?_⟩
  rw [artifactPath, List.foldl_concat, path, normalizePath_append, normalizePath_append, slash,
    Artifact.normalizePath_of_notMem h]
  simp

/-- A file with a name and an extension is an artifact whose path ends in the extension and names the object. -/
theorem Kept.objectName_artifactPath {extension : List Char} {full : String}
    (hk : Kept t location ignores (dir ++ [full]) bytes) (hr : Rooted t root location)
    (whole : full.toList = name.toList ++ '.' :: extension) (ne_empty : name ≠ "") (slashes : '\\' ∉ full.toList)
    (own : '.' ∉ extension) : ('.' :: extension) <:+ (artifactPath root (dir ++ [full])).toList
      ∧ Artifact.objectName (artifactPath root (dir ++ [full])) = name := by
  obtain ⟨before, path⟩ := hk.exists_artifactPath_eq hr slashes
  have component := Artifact.lastComponent_append before
    (hr.wellFormed.isName_of_file hk.item full (by simp)).slash_notMem
  rw [← path, whole] at component
  refine ⟨⟨before ++ '/' :: name.toList, by rw [path, whole]; simp⟩, ?_⟩
  rw [Artifact.objectName_of_lastComponent component (mt String.toList_eq_nil_iff.mp ne_empty) own,
    String.ofList_toList]

/-! ## The convention -/

/-- The parts of paths by which scripts are told that name objects. -/
def scriptNames : List String := ["_Drop_Tables.sql", "_Drop_Views.sql", "_Backup_Views.sql"]

/-- A script that drops objects again: its lines are the commands for them, in any order; its path is plain, ends in its
own name, and holds no other name of a script. -/
structure IsRollback (t : FileTree) (location : Location) (root : String) (ignores : List String)
    (base command : String) (names : NameSet) (file : List String) : Prop where
  written : ∃ (order : List String) (text : List Char), Kept t location ignores file (Text.Utf8.encode text)
    ∧ Text.Written (order.map (commandLine command)) text ∧ ∀ name, name ∈ order ↔ name ∈ names
  plain : Plain (Path.below root file)
  own : ("Rollback" ++ base).toList <:+ (Path.below root file).toList
  only : ∀ script ∈ scriptNames, script.toList <:+: (Path.below root file).toList → script = base

theorem IsRollback.of_below {path : String}
    (written : ∃ (order : List String) (text : List Char), Kept t location ignores file (Text.Utf8.encode text)
      ∧ Text.Written (order.map (commandLine command)) text ∧ ∀ name, name ∈ order ↔ name ∈ names)
    (below : Path.below root file = path) (plain : Plain path) (own : ("Rollback" ++ base).toList <:+ path.toList)
    (only : ∀ script ∈ scriptNames, Artifact.mentions script path = true → script = base) :
    IsRollback t location root ignores base command names file := by
  subst below
  exact ⟨written, plain, own, fun script hs named => only script hs (Artifact.mentions_iff.mpr named)⟩

/-- A file that creates one of some objects: it has the name of the object, and its path holds no name of a script. -/
structure IsCreation (root extension : String) (names : NameSet) (file : List String) : Prop where
  named : ∃ dir, ∃ name ∈ names, file = dir ++ [name ++ extension]
  silent : ∀ script ∈ scriptNames, ¬script.toList <:+: (artifactPath root file).toList

/-- A package that follows the convention: it has a file for each table and for each view, and scripts that drop tables
and views again, and nothing else. -/
structure Conventional (t : FileTree) (location : Location) (root : String) (ignores : List String)
    (tables views droppedTables droppedViews : NameSet) : Prop where
  table : ∀ name ∈ tables, ∃ dir bytes, Kept t location ignores (dir ++ [name ++ ".tbl"]) bytes
    ∧ isListed root (dir ++ [name ++ ".tbl"]) = true
  view : ∀ name ∈ views, ∃ dir bytes, Kept t location ignores (dir ++ [name ++ ".viw"]) bytes
    ∧ isListed root (dir ++ [name ++ ".viw"]) = true
  dropTables : ∃ file, IsRollback t location root ignores "_Drop_Tables.sql" "DROP TABLE" droppedTables file
  dropViews : ∃ file, IsRollback t location root ignores "_Drop_Views.sql" "DROP VIEW" droppedViews file
  names : ∀ name, name ∈ tables ∨ name ∈ views → name ≠ "" ∧ '\\' ∉ name.toList
  complete : ∀ file bytes, Kept t location ignores file bytes →
    IsCreation root ".tbl" tables file ∨ IsCreation root ".viw" views file
      ∨ IsRollback t location root ignores "_Drop_Tables.sql" "DROP TABLE" droppedTables file
      ∨ IsRollback t location root ignores "_Drop_Views.sql" "DROP VIEW" droppedViews file

/-! ## What the scripts say -/

section Scripts

variable {globs : List Glob} {part : String}

/-- The text at the plain path of a kept file is that of the file. -/
theorem Kept.textOf_below (hk : Kept t location ignores file bytes) (hr : Rooted t root location)
    (hp : Plain (Path.below root file)) : textOf t (Path.below root file) = some (Text.Utf8.decodeLossy bytes) := by
  have size := hp.size_lt
  rw [← hk.foldl_join hr] at size
  have read := hr.wellFormed.read_foldl_join hr.locate (hk.ne_nil hr) hk.item size
  rw [hk.foldl_join hr] at read
  rw [textOf, read]
  rfl

/-- **What a script drops again** is what is captured in it, if it is the only script with such a path. -/
theorem IsRollback.captured_iff (hs : IsRollback t location root ignores base command names file)
    (hr : Rooted t root location) (valid : readGlobs ignores = .ok globs)
    (alone : ∀ file bytes, Kept t location ignores file bytes → base.toList <:+: (artifactPath root file).toList →
      IsRollback t location root ignores base command names file)
    (below : base.toList <:+: part.toList) (above : part.toList <:+: ("Rollback" ++ base).toList) :
    Captured t (pathsBelow t root location globs) command part name ↔ name ∈ names := by
  constructor
  · rintro ⟨path, listed, named, text, read, line, hline, captured⟩
    obtain ⟨file, bytes, hk, -, rfl⟩ := (mem_pathsBelow hr valid).mp listed
    rw [← hk.foldl_join hr] at named
    obtain ⟨⟨order, own, hk, written, dropped⟩, plain, -, -⟩ := alone file bytes hk (below.trans named)
    rw [Artifact.normalizePath_of_notMem plain.backslash_notMem, hk.textOf_below hr plain,
      Text.Utf8.decodeLossy_encode, Option.some_inj] at read
    rw [← read, Text.lines_of_written written] at hline
    obtain ⟨n, hn, rfl⟩ := List.mem_map.mp hline
    rw [firstGroup?_commandLine (written.unbroken _ hline).lf_notMem, Option.some_inj, String.toList_inj] at captured
    exact captured ▸ (dropped n).mp hn
  · intro hname
    obtain ⟨⟨order, text, hk, written, dropped⟩, plain, own, -⟩ := hs
    have hline : commandLine command name ∈ order.map (commandLine command) :=
      List.mem_map_of_mem ((dropped name).mpr hname)
    refine ⟨Path.below root file, ?_, above.trans own.isInfix, text, ?_, commandLine command name, ?_, ?_⟩
    · exact (mem_pathsBelow hr valid).mpr
        ⟨file, _, hk, hk.isListed hr plain, (Artifact.normalizePath_of_notMem plain.backslash_notMem).symm⟩
    · rw [hk.textOf_below hr plain, Text.Utf8.decodeLossy_encode]
    · rw [Text.lines_of_written written]
      exact hline
    · exact firstGroup?_commandLine (written.unbroken _ hline).lf_notMem

end Scripts

/-! ## What the package says -/

section Conventional

variable {globs : List Glob} {tables views droppedTables droppedViews : NameSet} {script extension : String}

theorem IsRollback.artifactPath_eq (hs : IsRollback t location root ignores base command names file)
    (hr : Rooted t root location) : artifactPath root file = Path.below root file := by
  obtain ⟨⟨_, _, hk, -⟩, plain, -, -⟩ := hs
  exact hk.artifactPath_eq hr plain.backslash_notMem

/-- The path of a script ends in no other text than that of its own name. -/
theorem IsRollback.not_suffix (hs : IsRollback t location root ignores base command names file)
    (differs : ¬extension.toList <:+ ("Rollback" ++ base).toList)
    (short : extension.toList.length ≤ ("Rollback" ++ base).toList.length) :
    ¬extension.toList <:+ (Path.below root file).toList :=
  fun ends => differs (List.suffix_of_suffix_length_le ends hs.own short)

/-- A file whose path holds the name of a script is that script. -/
theorem Conventional.isRollback (c : Conventional t location root ignores tables views droppedTables droppedViews)
    (hr : Rooted t root location) (hk : Kept t location ignores file bytes) (hscript : script ∈ scriptNames)
    (named : script.toList <:+: (artifactPath root file).toList) :
    script = "_Drop_Tables.sql"
        ∧ IsRollback t location root ignores "_Drop_Tables.sql" "DROP TABLE" droppedTables file
      ∨ script = "_Drop_Views.sql"
        ∧ IsRollback t location root ignores "_Drop_Views.sql" "DROP VIEW" droppedViews file := by
  rcases c.complete file bytes hk with creation | creation | rollback | rollback
  · exact absurd named (creation.silent script hscript)
  · exact absurd named (creation.silent script hscript)
  · rw [rollback.artifactPath_eq hr] at named
    exact Or.inl ⟨rollback.only script hscript named, rollback⟩
  · rw [rollback.artifactPath_eq hr] at named
    exact Or.inr ⟨rollback.only script hscript named, rollback⟩

theorem Conventional.captured_table (c : Conventional t location root ignores tables views droppedTables droppedViews)
    (hr : Rooted t root location) (valid : readGlobs ignores = .ok globs)
    (below : "_Drop_Tables.sql".toList <:+: script.toList)
    (above : script.toList <:+: "Rollback_Drop_Tables.sql".toList) :
    Captured t (pathsBelow t root location globs) "DROP TABLE" script name ↔ name ∈ droppedTables := by
  obtain ⟨file, rollback⟩ := c.dropTables
  refine rollback.captured_iff hr valid (fun file bytes hk named => ?_) below above
  rcases c.isRollback hr hk (by simp [scriptNames]) named with ⟨-, own⟩ | ⟨other, -⟩
  · exact own
  · exact absurd other (by decide)

theorem Conventional.captured_view (c : Conventional t location root ignores tables views droppedTables droppedViews)
    (hr : Rooted t root location) (valid : readGlobs ignores = .ok globs)
    (below : "_Drop_Views.sql".toList <:+: script.toList)
    (above : script.toList <:+: "Rollback_Drop_Views.sql".toList) :
    Captured t (pathsBelow t root location globs) "DROP VIEW" script name ↔ name ∈ droppedViews := by
  obtain ⟨file, rollback⟩ := c.dropViews
  refine rollback.captured_iff hr valid (fun file bytes hk named => ?_) below above
  rcases c.isRollback hr hk (by simp [scriptNames]) named with ⟨other, -⟩ | ⟨-, own⟩
  · exact absurd other (by decide)
  · exact own

theorem Conventional.not_captured_saved
    (c : Conventional t location root ignores tables views droppedTables droppedViews) (hr : Rooted t root location)
    (valid : readGlobs ignores = .ok globs) :
    ¬Captured t (pathsBelow t root location globs) "SHOW VIEW" "_Backup_Views.sql" name := by
  rintro ⟨path, listed, named, -⟩
  obtain ⟨file, bytes, hk, -, rfl⟩ := (mem_pathsBelow hr valid).mp listed
  rw [← hk.foldl_join hr] at named
  rcases c.isRollback hr hk (by simp [scriptNames]) named with ⟨other, -⟩ | ⟨other, -⟩
  · exact absurd other (by decide)
  · exact absurd other (by decide)

/-- **What is deleted** is what the scripts drop. -/
theorem Conventional.deleted_eq (c : Conventional t location root ignores tables views droppedTables droppedViews)
    (hr : Rooted t root location) (valid : readGlobs ignores = .ok globs) :
    deleted t (pathsBelow t root location globs) = droppedTables.union droppedViews := by
  refine NameSet.ext_mem fun name => ?_
  rw [mem_deleted, NameSet.mem_union, c.captured_table hr valid List.infix_rfl ⟨"Rollback".toList, [], rfl⟩,
    c.captured_view hr valid List.infix_rfl ⟨"Rollback".toList, [], rfl⟩]

/-- **What is rolled back** is what the scripts drop. -/
theorem Conventional.rolledBack_eq (c : Conventional t location root ignores tables views droppedTables droppedViews)
    (hr : Rooted t root location) (valid : readGlobs ignores = .ok globs) :
    rolledBack t (pathsBelow t root location globs) = droppedTables.union droppedViews := by
  refine NameSet.ext_mem fun name => ?_
  rw [mem_rolledBack, NameSet.mem_union, c.captured_table hr valid ⟨"Rollback".toList, [], rfl⟩ List.infix_rfl,
    c.captured_view hr valid ⟨"Rollback".toList, [], rfl⟩ List.infix_rfl, or_iff_left (c.not_captured_saved hr valid)]

theorem Kept.names_object (hk : Kept t location ignores (dir ++ [name ++ extension]) bytes)
    (hr : Rooted t root location) (plain : name ≠ "" ∧ '\\' ∉ name.toList)
    (known : extension = ".tbl" ∨ extension = ".viw") :
    (".tbl".toList <:+ (artifactPath root (dir ++ [name ++ extension])).toList
        ∨ ".viw".toList <:+ (artifactPath root (dir ++ [name ++ extension])).toList)
      ∧ Artifact.objectName (artifactPath root (dir ++ [name ++ extension])) = name := by
  obtain ⟨ne_empty, slashes⟩ := plain
  have whole : (name ++ extension).toList = name.toList ++ extension.toList := String.toList_append
  rcases known with rfl | rfl
  · exact (hk.objectName_artifactPath hr whole ne_empty (by simp [slashes]) (by decide)).imp_left Or.inl
  · exact (hk.objectName_artifactPath hr whole ne_empty (by simp [slashes]) (by decide)).imp_left Or.inr

theorem IsCreation.objectName_mem (hc : IsCreation root extension names file)
    (hk : Kept t location ignores file bytes) (hr : Rooted t root location)
    (plain : ∀ name ∈ names, name ≠ "" ∧ '\\' ∉ name.toList) (known : extension = ".tbl" ∨ extension = ".viw") :
    Artifact.objectName (artifactPath root file) ∈ names := by
  obtain ⟨dir, name, hname, rfl⟩ := hc.named
  rw [(hk.names_object hr (plain name hname) known).2]
  exact hname

/-- What is created is named by the kept files with the path of a table or a view. -/
theorem mem_created (hr : Rooted t root location) (valid : readGlobs ignores = .ok globs) :
    name ∈ created (pathsBelow t root location globs) ↔ ∃ file bytes, Kept t location ignores file bytes
      ∧ isListed root file = true
      ∧ (".tbl".toList <:+ (artifactPath root file).toList ∨ ".viw".toList <:+ (artifactPath root file).toList)
      ∧ Artifact.objectName (artifactPath root file) = name := by
  simp only [created, NameSet.mem_ofList, List.mem_map, List.mem_filter, Bool.or_eq_true, Artifact.hasSuffix_iff]
  constructor
  · rintro ⟨path, ⟨listed, ends⟩, named⟩
    obtain ⟨file, bytes, hk, hlisted, rfl⟩ := (mem_pathsBelow hr valid).mp listed
    rw [← hk.foldl_join hr] at ends named
    exact ⟨file, bytes, hk, hlisted, ends, named⟩
  · rintro ⟨file, bytes, hk, hlisted, ends, named⟩
    refine ⟨artifactPath root file, ⟨(mem_pathsBelow hr valid).mpr ⟨file, bytes, hk, hlisted, ?_⟩, ends⟩, named⟩
    rw [artifactPath, hk.foldl_join hr]

/-- **What is created** is what there are files for. -/
theorem Conventional.created_eq (c : Conventional t location root ignores tables views droppedTables droppedViews)
    (hr : Rooted t root location) (valid : readGlobs ignores = .ok globs) :
    created (pathsBelow t root location globs) = tables.union views := by
  refine NameSet.ext_mem fun name => ?_
  rw [mem_created hr valid, NameSet.mem_union]
  constructor
  · rintro ⟨file, bytes, hk, -, ends, rfl⟩
    rcases c.complete file bytes hk with creation | creation | rollback | rollback
    · exact Or.inl (creation.objectName_mem hk hr (fun n hn => c.names n (Or.inl hn)) (Or.inl rfl))
    · exact Or.inr (creation.objectName_mem hk hr (fun n hn => c.names n (Or.inr hn)) (Or.inr rfl))
    · rw [rollback.artifactPath_eq hr] at ends
      exact absurd ends (not_or.mpr ⟨rollback.not_suffix (by decide) (by decide),
        rollback.not_suffix (by decide) (by decide)⟩)
    · rw [rollback.artifactPath_eq hr] at ends
      exact absurd ends (not_or.mpr ⟨rollback.not_suffix (by decide) (by decide),
        rollback.not_suffix (by decide) (by decide)⟩)
  · rintro (hname | hname)
    · obtain ⟨dir, bytes, hk, listed⟩ := c.table name hname
      exact ⟨_, bytes, hk, listed, hk.names_object hr (c.names name (Or.inl hname)) (Or.inl rfl)⟩
    · obtain ⟨dir, bytes, hk, listed⟩ := c.view name hname
      exact ⟨_, bytes, hk, listed, hk.names_object hr (c.names name (Or.inr hname)) (Or.inr rfl)⟩

end Conventional

/-! ## The comparison -/

/-- The names in some scripts are all names but one. -/
structure Omits (omitted : String) (all dropped : NameSet) : Prop where
  mem : omitted ∈ all
  mem_iff : ∀ name, name ∈ dropped ↔ name ∈ all ∧ name ≠ omitted

theorem Omits.missing_iff {omitted : String} {all dropped other : NameSet} (h : Omits omitted all dropped)
    (apart : omitted ∉ other) :
    (name ∈ all ∨ name ∈ other) ∧ ¬(name ∈ dropped ∨ name ∈ other) ↔ name = omitted := by
  rw [h.mem_iff]
  constructor
  · tauto
  · rintro rfl
    exact ⟨Or.inl h.mem, by tauto⟩

/-- **A package that follows the convention passes, and what its scripts miss is named.** It can be opened, and right
then the created names are those of its tables and views, and both the deleted names and those that are rolled back are
the ones that its scripts drop. So the comparison adds what is said of the names that no script drops to the failures
that were filed before, and no other failure: none if the scripts drop all tables and views, in which case the three
sets are those names; and exactly one, which names one object, if one of the scripts omits it and the other does not
drop it. -/
theorem open_conventional {globs : List Glob} {tables views droppedTables droppedViews : NameSet}
    (c : Conventional t location root ignores tables views droppedTables droppedViews) (hr : Rooted t root location)
    (valid : readGlobs ignores = .ok globs) (keywordsFile : Option String) :
    ∃ p facts, Package.open t root keywordsFile ignores = .ok p ∧ facts = (p.learnAll t builtinFacts).facts
      ∧ facts.created = tables.union views
      ∧ facts.deleted = droppedTables.union droppedViews
      ∧ facts.rolledBack = droppedTables.union droppedViews
      ∧ (∃ missing, Lists missing (fun name => (name ∈ tables ∨ name ∈ views)
            ∧ ¬(name ∈ droppedTables ∨ name ∈ droppedViews))
          ∧ ∀ f, (Audit.ObjectCounts.check facts f).messages ".Object Counts" .error
              = f.messages ".Object Counts" .error ++ said "created but not rolled back" missing)
      ∧ (droppedTables = tables → droppedViews = views → ∀ f,
          (Audit.ObjectCounts.check facts f).messages ".Object Counts" .error = f.messages ".Object Counts" .error)
      ∧ ∀ name, (Omits name tables droppedTables ∧ droppedViews = views ∧ name ∉ views)
            ∨ (Omits name views droppedViews ∧ droppedTables = tables ∧ name ∉ tables) → ∀ f,
          (Audit.ObjectCounts.check facts f).messages ".Object Counts" .error = f.messages ".Object Counts" .error
            ++ ["These objects are created but not rolled back: \n" ++ name] := by
  have opened : Package.open t root keywordsFile ignores = .ok _ := hr.open_eq valid keywordsFile
  obtain ⟨created, deleted, rolledBack⟩ := facts_of_open opened t
  rw [c.created_eq hr valid] at created
  rw [c.deleted_eq hr valid] at deleted
  rw [c.rolledBack_eq hr valid] at rolledBack
  refine ⟨_, _, opened, rfl, created, deleted, rolledBack, ?_⟩
  generalize (learnAll t _ builtinFacts).facts = facts at *
  have failures (f : Findings) := Audit.ObjectCounts.messages_check_error_of_deleted (f := f)
    (deleted.trans rolledBack.symm)
  have missing : Lists (unrolledCreated facts).names fun name => (name ∈ tables ∨ name ∈ views)
      ∧ ¬(name ∈ droppedTables ∨ name ∈ droppedViews) := by
    refine (Audit.ObjectCounts.lists_names _).congr fun name => ?_
    rw [unrolledCreated, NameSet.mem_diff, created, rolledBack, NameSet.mem_union, NameSet.mem_union]
  refine ⟨⟨_, missing, failures⟩, ?_, ?_⟩
  · rintro rfl rfl f
    have nothing : (unrolledCreated facts).names = [] :=
      List.eq_nil_iff_forall_not_mem.mpr fun name listed => and_not_self ((missing.mem name).mp listed)
    rw [nothing] at failures
    exact (failures f).trans (List.append_nil _)
  · intro name omitted f
    have one : (unrolledCreated facts).names = [name] := by
      refine missing.eq_singleton fun n => ?_
      rcases omitted with ⟨omits, rfl, apart⟩ | ⟨omits, rfl, apart⟩
      · exact omits.missing_iff apart
      · simpa only [or_comm] using omits.missing_iff apart
    rw [one] at failures
    exact failures f

/-- A package with a table and a view whose scripts drop the table. -/
def oneDropped : FileTree :=
  let package := (({} : FileTree).set ["pkg"] .directory).set ["pkg", "sub"] .directory
  let objects := (package.set ["pkg", "sub", "DB.T;1.tbl"] (.file [])).set ["pkg", "V.viw"] (.file [])
  (objects.set ["pkg", "Rollback_Drop_Tables.sql"] (.file (Text.Utf8.encode "DROP TABLE DB.T;1;\r\n".toList))).set
    ["pkg", "Rollback_Drop_Views.sql"] (.file (Text.Utf8.encode []))

theorem rooted_oneDropped : Rooted oneDropped "pkg" ["pkg"] :=
  ⟨by decide +kernel, by decide +kernel, by decide +kernel⟩

theorem kept_oneDropped (h : oneDropped.item? (["pkg"] ++ file) = some (.file bytes)) :
    Kept oneDropped ["pkg"] [] file bytes :=
  ⟨h, by simp [Ignored]⟩

theorem isRollback_oneDropped_tables : IsRollback oneDropped ["pkg"] "pkg" [] "_Drop_Tables.sql" "DROP TABLE"
    (.ofList ["DB.T;1"]) ["Rollback_Drop_Tables.sql"] := by
  have path : Path.below "pkg" ["Rollback_Drop_Tables.sql"] = "pkg/Rollback_Drop_Tables.sql" := by decide +kernel
  have kept : Kept oneDropped ["pkg"] [] ["Rollback_Drop_Tables.sql"]
      (Text.Utf8.encode "DROP TABLE DB.T;1;\r\n".toList) := kept_oneDropped (by decide +kernel)
  have line : Text.Written (["DB.T;1"].map (commandLine "DROP TABLE")) "DROP TABLE DB.T;1;\r\n".toList :=
    .line ⟨by decide, by decide⟩ .crlf (fun h => nomatch h) .nil
  exact .of_below ⟨_, _, kept, line, fun name => NameSet.mem_ofList.symm⟩ path ⟨by decide +kernel, by decide +kernel⟩
    ⟨"pkg/".toList, rfl⟩ (by decide +kernel)

theorem isRollback_oneDropped_views : IsRollback oneDropped ["pkg"] "pkg" [] "_Drop_Views.sql" "DROP VIEW" .empty
    ["Rollback_Drop_Views.sql"] := by
  have path : Path.below "pkg" ["Rollback_Drop_Views.sql"] = "pkg/Rollback_Drop_Views.sql" := by decide +kernel
  have kept : Kept oneDropped ["pkg"] [] ["Rollback_Drop_Views.sql"] (Text.Utf8.encode []) :=
    kept_oneDropped (by decide +kernel)
  exact .of_below ⟨[], [], kept, .nil, fun name => Iff.rfl⟩ path ⟨by decide +kernel, by decide +kernel⟩
    ⟨"pkg/".toList, rfl⟩ (by decide +kernel)

theorem conventional_oneDropped : Conventional oneDropped ["pkg"] "pkg" [] (.ofList ["DB.T;1"]) (.ofList ["V"])
    (.ofList ["DB.T;1"]) .empty := by
  have only {name n : String} (h : name ∈ NameSet.ofList [n]) : name = n :=
    List.mem_singleton.mp (NameSet.mem_ofList.mp h)
  refine ⟨fun name h => ?_, fun name h => ?_, ⟨_, isRollback_oneDropped_tables⟩, ⟨_, isRollback_oneDropped_views⟩,
    fun name h => ?_, fun file bytes hk => ?_⟩
  · exact only h ▸ ⟨["sub"], [], kept_oneDropped (by decide +kernel), by decide +kernel⟩
  · exact only h ▸ ⟨[], [], kept_oneDropped (by decide +kernel), by decide +kernel⟩
  · rcases h with h | h
    · exact only h ▸ by decide
    · exact only h ▸ by decide
  · have files : oneDropped.filesBelow ["pkg"] = [["sub", "DB.T;1.tbl"], ["V.viw"], ["Rollback_Drop_Tables.sql"],
        ["Rollback_Drop_Views.sql"]] := by decide +kernel
    have silent {path : String} (h : ∀ script ∈ scriptNames, Artifact.mentions script path = false) :
        ∀ script ∈ scriptNames, ¬script.toList <:+: path.toList := fun script hs => by
      rw [← Artifact.mentions_iff, h script hs]
      exact Bool.false_ne_true
    have there := rooted_oneDropped.wellFormed.mem_filesBelow.mpr ⟨bytes, hk.item⟩
    rw [files] at there
    simp only [List.mem_cons, List.not_mem_nil, or_false] at there
    rcases there with rfl | rfl | rfl | rfl
    · exact Or.inl ⟨⟨["sub"], "DB.T;1", by decide, by decide⟩, silent (by decide +kernel)⟩
    · exact Or.inr (Or.inl ⟨⟨[], "V", by decide, by decide⟩, silent (by decide +kernel)⟩)
    · exact Or.inr (Or.inr (Or.inl isRollback_oneDropped_tables))
    · exact Or.inr (Or.inr (Or.inr isRollback_oneDropped_views))

/-- The view is the one name that is created and not rolled back. -/
theorem open_conventional_oneDropped : ∃ p, Package.open oneDropped "pkg" none [] = .ok p
    ∧ (Audit.ObjectCounts.check (p.learnAll oneDropped builtinFacts).facts .empty).messages ".Object Counts" .error
      = ["These objects are created but not rolled back: \nV"] := by
  obtain ⟨p, facts, opened, rfl, -, -, -, -, -, omitted⟩ :=
    open_conventional conventional_oneDropped rooted_oneDropped rfl none
  refine ⟨p, opened, omitted "V" (Or.inr ⟨⟨?_, fun name => ?_⟩, rfl, ?_⟩) .empty⟩
  · exact NameSet.mem_ofList.mpr (List.mem_singleton.mpr rfl)
  · rw [NameSet.mem_ofList]
    simp
  · rw [NameSet.mem_ofList]
    decide

/-- A package with a table and with both scripts, one of them in a directory whose name holds a backslash. -/
def slashed : FileTree :=
  let package := ((({} : FileTree).set ["pkg"] .directory).set ["pkg", "Rollback_Drop_Views.sql"] (.file [])).set
    ["pkg", "X.tbl"] (.file [])
  (package.set ["pkg", "a\\b"] .directory).set ["pkg", "a\\b", "Rollback_Drop_Tables.sql"]
    (.file (Text.Utf8.encode "DROP TABLE X;".toList))

/-- The script that drops the table is not found by its path, so the table counts as not rolled back. -/
theorem slashed_unrolled : slashed.WellFormed
    ∧ slashed.filesBelow ["pkg"] = [["Rollback_Drop_Views.sql"], ["X.tbl"], ["a\\b", "Rollback_Drop_Tables.sql"]]
    ∧ slashed.item? ["pkg", "Rollback_Drop_Views.sql"] = some (.file [])
    ∧ slashed.item? ["pkg", "a\\b", "Rollback_Drop_Tables.sql"]
      = some (.file (Text.Utf8.encode "DROP TABLE X;".toList))
    ∧ ∃ p facts, Package.open slashed "pkg" none [] = .ok p ∧ facts = (p.learnAll slashed builtinFacts).facts
      ∧ facts.created.names = ["X"] ∧ facts.deleted.names = [] ∧ facts.rolledBack.names = []
      ∧ (Audit.ObjectCounts.check facts .empty).messages ".Object Counts" .error
        = ["These objects are created but not rolled back: \nX"] := by
  have rooted : Rooted slashed "pkg" ["pkg"] := ⟨by decide +kernel, by decide +kernel, by decide +kernel⟩
  have valid : readGlobs [] = .ok [] := rfl
  have opened : Package.open slashed "pkg" none [] = .ok _ := rooted.open_eq valid none
  have paths : pathsBelow slashed "pkg" ["pkg"] []
      = ["pkg/Rollback_Drop_Views.sql", "pkg/X.tbl", "pkg/a/b/Rollback_Drop_Tables.sql"] := by
    have kept : ((slashed.filesBelow ["pkg"]).filter fun names =>
        isListed "pkg" names && !([] : List Glob).any (·.admits (relativePath names))).map (artifactPath "pkg")
        = ["pkg/Rollback_Drop_Views.sql", "pkg/X.tbl", "pkg/a/b/Rollback_Drop_Tables.sql"] := by decide +kernel
    exact (congrArg List.mergeSort kept).trans (List.mergeSort_of_pairwise (by decide +kernel))
  rw [paths] at opened
  refine ⟨rooted.wellFormed, by decide +kernel, by decide +kernel, by decide +kernel, _, _, opened, rfl, ?_⟩
  decide +kernel

end PackageAudit.Package
