import PackageAudit.Package.Derive
import PackageAudit.Proofs.Regex.Search
import PackageAudit.Proofs.Text.Lines
import PackageAudit.Regex.Pattern

/-!
# The names on the lines of scripts

On a line without line feeds a command captures what stands between its first occurrence and the last semicolon of the
line, if that is not before it (`Named`, `firstGroup?_commandPattern`). The pattern of a command is the one that is
written with a group of dots behind the command (`read_commandPattern`).

The names are collected file by file (`collectNames`): each file adds what its lines capture and nothing is taken away
(`mem_collectNames`). The names of the deleted objects and of those that are rolled back are collected in this way,
script after script (`deleted_eq_collect`, `rolledBack_eq_collect`).

Main statement: `names_collected`.
-/

namespace PackageAudit.Package

variable {t : FileTree} {paths : List String} {select : String → Bool} {pattern : Regex} {names : NameSet}
  {command name : String} {line : List Char}

/-! ## What a line captures -/

/-- Whether a name stands on a line between a command and the last semicolon. The command is its first occurrence with a
blank behind it, and the semicolon is the last of the whole line. -/
def Named (command : String) (line name : List Char) : Prop :=
  ∃ front rest, line = front ++ (command ++ " ").toList ++ (name ++ ';' :: rest)
    ∧ (∀ earlier, earlier ++ (command ++ " ").toList <+: line → front.length ≤ earlier.length) ∧ ';' ∉ rest

/-- **A command captures a name** exactly if the name stands between it and the last semicolon. -/
theorem firstGroup?_commandPattern (h : '\n' ∉ line) {name : List Char} :
    (commandPattern command).firstGroup? 1 line = some name ↔ Named command line name := by
  have between : commandPattern command = Regex.between (command ++ " ") ';' := rfl
  rw [between, Regex.firstGroup?_between h, Option.bind_eq_some_iff]
  simp only [Option.map_eq_some_iff, Prod.exists, Text.cutFirst_eq_some_iff, Text.cutLast_eq_some_iff]
  constructor
  · rintro ⟨front, after, ⟨stands, first⟩, _, rest, ⟨rfl, last⟩, rfl⟩
    exact ⟨front, rest, stands, first, last⟩
  · rintro ⟨front, rest, stands, first, last⟩
    exact ⟨front, _, ⟨stands, first⟩, name, rest, ⟨rfl, last⟩, rfl⟩

/-- The pattern of a command as it is written: its characters one by one, a group of dots, and a semicolon. -/
def writtenPattern (command : String) : Regex :=
  .concat ((command ++ " ").toList.map (fun c => .char (.single c)) ++ [.group 1 (.many .dot), .literal ";"])

theorem firstGroup?_writtenPattern (command : String) (line : List Char) :
    (writtenPattern command).firstGroup? 1 line = (commandPattern command).firstGroup? 1 line := by
  refine Regex.firstGroup?_congr (fun chars p => ?_) 1 line
  refine Regex.ways_concat_append ?_ (List.cons_ne_nil _ _) chars p
  simp

/-- **The patterns of the three commands** are those that are written with a group of dots and a semicolon. -/
theorem read_commandPattern (h : command ∈ ["DROP TABLE", "DROP VIEW", "SHOW VIEW"]) :
    Pattern.read (command ++ " (.*);") = .ok (writtenPattern command) := by
  simp only [List.mem_cons, List.not_mem_nil, or_false] at h
  rcases h with rfl | rfl | rfl <;> rfl

/-! ## Collecting names -/

theorem mem_linesWhere : line ∈ linesWhere t paths select
    ↔ ∃ path ∈ paths, select path = true ∧ ∃ text, textOf t path = some text ∧ line ∈ Text.lines text := by
  simp only [linesWhere, List.mem_flatMap, List.mem_filterMap, List.mem_filter]
  constructor
  · rintro ⟨text, ⟨path, ⟨listed, selected⟩, read⟩, hline⟩
    exact ⟨path, listed, selected, text, read, hline⟩
  · rintro ⟨path, listed, selected, text, read, hline⟩
    exact ⟨text, ⟨path, ⟨listed, selected⟩, read⟩, hline⟩

/-- The names that a pattern captures on lines. -/
def captures (pattern : Regex) (lines : List (List Char)) : List String :=
  lines.filterMap fun line => (pattern.firstGroup? 1 line).map String.ofList

theorem captures_append (pattern : Regex) (first second : List (List Char)) :
    captures pattern (first ++ second) = captures pattern first ++ captures pattern second :=
  List.filterMap_append

/-- A name is captured if it is the first group on some line. -/
theorem mem_captures {lines : List (List Char)} :
    name ∈ captures pattern lines ↔ ∃ line ∈ lines, pattern.firstGroup? 1 line = some name.toList := by
  rw [captures, List.mem_filterMap]
  refine exists_congr fun line => and_congr_right fun _ => ?_
  rw [Option.map_eq_some_iff]
  constructor
  · rintro ⟨_, captured, rfl⟩
    rw [captured, String.toList_ofList]
  · exact fun captured => ⟨_, captured, String.ofList_toList⟩

/-- Adds the names that a pattern captures on the lines of the selected files, one file after the other. Files that
cannot be read are passed over. -/
def collectNames (t : FileTree) (paths : List String) (select : String → Bool) (pattern : Regex) (names : NameSet) :
    NameSet :=
  (paths.filter select).foldl (fun names path =>
    match textOf t path with
    | none => names
    | some text => names.insertAll (captures pattern (Text.lines text))) names

/-- Collecting names file by file adds those on all lines together. -/
theorem collectNames_eq (t : FileTree) (paths : List String) (select : String → Bool) (pattern : Regex)
    (names : NameSet) :
    collectNames t paths select pattern names = names.insertAll (captures pattern (linesWhere t paths select)) := by
  unfold collectNames linesWhere
  induction paths.filter select generalizing names with
  | nil => rfl
  | cons path paths ih =>
    rw [List.foldl_cons, ih]
    cases hread : textOf t path with
    | none => rw [List.filterMap_cons_none hread]
    | some text =>
      rw [List.filterMap_cons_some hread, List.flatMap_cons, captures_append]
      exact (List.foldl_append ..).symm

theorem mem_captures_linesWhere : name ∈ captures pattern (linesWhere t paths select)
    ↔ ∃ path ∈ paths, select path = true ∧ ∃ text, textOf t path = some text
      ∧ ∃ line ∈ Text.lines text, pattern.firstGroup? 1 line = some name.toList := by
  simp only [mem_captures, mem_linesWhere]
  constructor
  · rintro ⟨line, ⟨path, listed, selected, text, read, hline⟩, captured⟩
    exact ⟨path, listed, selected, text, read, line, hline, captured⟩
  · rintro ⟨path, listed, selected, text, read, line, hline, captured⟩
    exact ⟨line, ⟨path, listed, selected, text, read, hline⟩, captured⟩

/-- **Names are only added**: those that are captured on some line of a selected file that can be read. -/
theorem mem_collectNames : name ∈ collectNames t paths select pattern names ↔ name ∈ names
    ∨ ∃ path ∈ paths, select path = true ∧ ∃ text, textOf t path = some text
      ∧ ∃ line ∈ Text.lines text, pattern.firstGroup? 1 line = some name.toList := by
  rw [collectNames_eq, NameSet.mem_insertAll, or_comm, mem_captures_linesWhere]

/-- The names of the deleted objects are collected from the scripts that drop tables, and then from those that drop
views. -/
theorem deleted_eq_collect (t : FileTree) (paths : List String) : deleted t paths
    = collectNames t paths (Artifact.mentions "_Drop_Views.sql") (commandPattern "DROP VIEW")
        (collectNames t paths (Artifact.mentions "_Drop_Tables.sql") (commandPattern "DROP TABLE") .empty) := by
  rw [collectNames_eq, collectNames_eq]
  exact List.foldl_append ..

/-- The names of the objects that are rolled back are collected from the scripts that drop tables again, from those that
drop views again, and then from those that save views. -/
theorem rolledBack_eq_collect (t : FileTree) (paths : List String) : rolledBack t paths
    = collectNames t paths (Artifact.mentions "_Backup_Views.sql") (commandPattern "SHOW VIEW")
        (collectNames t paths (Artifact.mentions "Rollback_Drop_Views.sql") (commandPattern "DROP VIEW")
          (collectNames t paths (Artifact.mentions "Rollback_Drop_Tables.sql") (commandPattern "DROP TABLE")
            .empty)) := by
  rw [collectNames_eq, collectNames_eq, collectNames_eq]
  exact (List.foldl_append ..).trans (congrArg (NameSet.insertAll · _) (List.foldl_append ..))

/-- **Names are collected from lines.** On a line without line feeds the pattern of a command captures the name between
the first occurrence of the command and the last semicolon, and nothing if there is none; the patterns of the three
commands are read from their written form. Collecting from selected files adds exactly the names between the command and
the last semicolon on the lines of those that can be read, and removes none; what is deleted and what is rolled back is
collected in this way. -/
theorem names_collected (t : FileTree) (paths : List String) (select : String → Bool) (command : String)
    (names : NameSet) :
    (∀ line, '\n' ∉ line →
      (∀ name, (commandPattern command).firstGroup? 1 line = some name ↔ Named command line name)
        ∧ ((commandPattern command).firstGroup? 1 line = none ↔ ¬∃ name, Named command line name))
      ∧ (command ∈ ["DROP TABLE", "DROP VIEW", "SHOW VIEW"] → ∃ r, Pattern.read (command ++ " (.*);") = .ok r
        ∧ ∀ line, r.firstGroup? 1 line = (commandPattern command).firstGroup? 1 line)
      ∧ (∀ name, name ∈ collectNames t paths select (commandPattern command) names ↔ name ∈ names
        ∨ ∃ path ∈ paths, select path = true ∧ ∃ text, textOf t path = some text
          ∧ ∃ line ∈ Text.lines text, Named command line name.toList)
      ∧ deleted t paths
        = collectNames t paths (Artifact.mentions "_Drop_Views.sql") (commandPattern "DROP VIEW")
            (collectNames t paths (Artifact.mentions "_Drop_Tables.sql") (commandPattern "DROP TABLE") .empty)
      ∧ rolledBack t paths
        = collectNames t paths (Artifact.mentions "_Backup_Views.sql") (commandPattern "SHOW VIEW")
            (collectNames t paths (Artifact.mentions "Rollback_Drop_Views.sql") (commandPattern "DROP VIEW")
              (collectNames t paths (Artifact.mentions "Rollback_Drop_Tables.sql") (commandPattern "DROP TABLE")
                .empty)) := by
  refine ⟨fun line h => ⟨fun name => firstGroup?_commandPattern h, ?_⟩, fun known => ?_, fun name => ?_,
    deleted_eq_collect t paths, rolledBack_eq_collect t paths⟩
  · simp only [← firstGroup?_commandPattern h, ← Option.isSome_iff_exists, Option.not_isSome_iff_eq_none]
  · exact ⟨_, read_commandPattern known, firstGroup?_writtenPattern command⟩
  · rw [mem_collectNames]
    refine or_congr_right <| exists_congr fun path => and_congr_right fun _ => and_congr_right fun _ =>
      exists_congr fun text => and_congr_right fun _ => exists_congr fun line => and_congr_right fun hline => ?_
    exact firstGroup?_commandPattern ((Text.written_lines text).unbroken line hline).lf_notMem

/-- On a line with two commands and a semicolon in front the name reaches from the first command to the last semicolon;
without a semicolon behind the command there is no name. -/
theorem names_collected_twice : Named "DROP TABLE" ";DROP TABLE A; DROP TABLE B;--".toList "A; DROP TABLE B".toList
    ∧ (¬∃ name, Named "DROP TABLE" ";DROP TABLE A".toList name)
    ∧ ∃ r, Pattern.read "DROP TABLE (.*);" = .ok r ∧ r.firstGroup? 1 "DROP TABLE ;".toList = some [] := by
  obtain ⟨captured, written, -⟩ := names_collected {} [] (fun _ => true) "DROP TABLE" .empty
  obtain ⟨r, read, same⟩ := written (by decide)
  have both := ((captured ";DROP TABLE A; DROP TABLE B;--".toList (by decide)).1 "A; DROP TABLE B".toList).mp
    (by decide +kernel)
  have none_behind := (captured ";DROP TABLE A".toList (by decide)).2.mp (by decide +kernel)
  exact ⟨both, none_behind, r, read, (same _).trans (by decide +kernel)⟩

end PackageAudit.Package
