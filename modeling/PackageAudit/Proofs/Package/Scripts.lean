import PackageAudit.Proofs.Audit.Counts
import PackageAudit.Proofs.Package.Check
import PackageAudit.Proofs.Package.Names
import PackageAudit.Proofs.Package.Paths

/-!
# Names in scripts

Scripts name the objects that a package deletes and rolls back, after a command on a line (`Captured`). The paths of the
scripts that roll back a deletion hold the names of the scripts that delete (`Captured.of_part`), so whatever they drop
is both deleted and rolled back. What is rolled back without being created or deleted is therefore a view that was saved
(`mem_stray_iff`).

Main statement: `rollback_deletes`.
-/

namespace PackageAudit.Package

open Audit.ObjectCounts (Lists said stray)

variable {t t₀ : FileTree} {p : Package} {paths : List String} {command script script' name root : String}
  {ignores : List String} {keywordsFile : Option String}

/-! ## Captured names -/

/-- Whether a name stands after a command: on a line of the text of a listed artifact whose path holds the name of a
script. -/
def Captured (t : FileTree) (paths : List String) (command script name : String) : Prop :=
  ∃ path ∈ paths, script.toList <:+: path.toList ∧ ∃ text, textOf t path = some text
    ∧ ∃ line ∈ Text.lines text, (commandPattern command).firstGroup? 1 line = some name.toList

theorem mem_namesAfter : name ∈ namesAfter t paths command script ↔ Captured t paths command script name := by
  have captured : namesAfter t paths command script
      = captures (commandPattern command) (linesWhere t paths (Artifact.mentions script)) := rfl
  rw [captured, mem_captures_linesWhere]
  simp only [Artifact.mentions, Text.contains_iff, Captured]

/-- A name that is captured in scripts with a longer name is captured in those with a part of it. -/
theorem Captured.of_part (h : Captured t paths command script name) (part : script'.toList <:+: script.toList) :
    Captured t paths command script' name := by
  obtain ⟨path, listed, named, text⟩ := h
  exact ⟨path, listed, part.trans named, text⟩

theorem mem_deleted : name ∈ deleted t paths ↔ Captured t paths "DROP TABLE" "_Drop_Tables.sql" name
    ∨ Captured t paths "DROP VIEW" "_Drop_Views.sql" name := by
  rw [deleted, NameSet.mem_ofList, List.mem_append, mem_namesAfter, mem_namesAfter]

/-- The objects that are rolled back are named in the scripts that drop tables or views again, or save views. -/
theorem mem_rolledBack : name ∈ rolledBack t paths ↔ (Captured t paths "DROP TABLE" "Rollback_Drop_Tables.sql" name
    ∨ Captured t paths "DROP VIEW" "Rollback_Drop_Views.sql" name)
      ∨ Captured t paths "SHOW VIEW" "_Backup_Views.sql" name := by
  rw [rolledBack, NameSet.mem_ofList, List.mem_append, List.mem_append, mem_namesAfter, mem_namesAfter, mem_namesAfter]

/-- **What is dropped again** counts as deleted. -/
theorem mem_deleted_of_captured (h : Captured t paths "DROP TABLE" "Rollback_Drop_Tables.sql" name
    ∨ Captured t paths "DROP VIEW" "Rollback_Drop_Views.sql" name) : name ∈ deleted t paths := by
  have tables : "_Drop_Tables.sql".toList <:+: "Rollback_Drop_Tables.sql".toList := ⟨"Rollback".toList, [], rfl⟩
  have views : "_Drop_Views.sql".toList <:+: "Rollback_Drop_Views.sql".toList := ⟨"Rollback".toList, [], rfl⟩
  exact mem_deleted.mpr (h.imp (·.of_part tables) (·.of_part views))

/-! ## The comparison -/

/-- The names that a package derives at once for the built-in checks. -/
theorem facts_of_open (h : Package.open t₀ root keywordsFile ignores = .ok p) (t : FileTree) :
    (p.learnAll t builtinFacts).facts.created = created p.paths
      ∧ (p.learnAll t builtinFacts).facts.deleted = deleted t p.paths
      ∧ (p.learnAll t builtinFacts).facts.rolledBack = rolledBack t p.paths := by
  rw [eq_of_open h]
  exact ⟨rfl, rfl, rfl⟩

/-- What is rolled back and neither created nor deleted was saved. -/
theorem mem_stray_iff (h : Package.open t₀ root keywordsFile ignores = .ok p) (t : FileTree) :
    name ∈ stray (p.learnAll t builtinFacts).facts ↔ Captured t p.paths "SHOW VIEW" "_Backup_Views.sql" name
      ∧ name ∉ (p.learnAll t builtinFacts).facts.created ∧ name ∉ (p.learnAll t builtinFacts).facts.deleted := by
  obtain ⟨-, deleted, rolledBack⟩ := facts_of_open h t
  rw [stray, NameSet.mem_diff, NameSet.mem_union, not_or, deleted, rolledBack, mem_rolledBack]
  constructor
  · rintro ⟨dropped | saved, untouched⟩
    · exact absurd (mem_deleted_of_captured dropped) untouched.2
    · exact ⟨saved, untouched⟩
  · rintro ⟨saved, untouched⟩
    exact ⟨Or.inr saved, untouched⟩

/-- **What is dropped again counts as deleted.** A package was opened, and derives its facts from the files as they are,
then or later. The names that are captured in its scripts for dropping tables or views again are both deleted and rolled
back. So the comparison finds to be rolled back only, whatever was filed before, exactly the names of saved views that
are neither created nor deleted, and there are none without a script for saving views. -/
theorem rollback_deletes (h : Package.open t₀ root keywordsFile ignores = .ok p) (t : FileTree) (f : Findings) :
    (∀ name, Captured t p.paths "DROP TABLE" "Rollback_Drop_Tables.sql" name
        ∨ Captured t p.paths "DROP VIEW" "Rollback_Drop_Views.sql" name →
      name ∈ (p.learnAll t builtinFacts).facts.deleted ∧ name ∈ (p.learnAll t builtinFacts).facts.rolledBack)
    ∧ ∃ unrolledCreated unrolledDeleted stray : List String,
        (Audit.ObjectCounts.check (p.learnAll t builtinFacts).facts f).messages ".Object Counts" .error
            = f.messages ".Object Counts" .error
              ++ (said "created but not rolled back" unrolledCreated
                ++ said "deleted but not rolled back" unrolledDeleted
                ++ said "not created or deleted but are rolled back" stray)
        ∧ Lists stray (fun name => Captured t p.paths "SHOW VIEW" "_Backup_Views.sql" name
            ∧ name ∉ (p.learnAll t builtinFacts).facts.created ∧ name ∉ (p.learnAll t builtinFacts).facts.deleted)
        ∧ ((∀ path ∈ p.paths, ¬"_Backup_Views.sql".toList <:+: path.toList) → stray = []) := by
  have exact_names := (Audit.ObjectCounts.lists_names (stray (p.learnAll t builtinFacts).facts)).congr
    fun _ => mem_stray_iff h t
  refine ⟨fun name dropped => ?_, _, _, _, Audit.ObjectCounts.messages_check_error, exact_names, fun unsaved => ?_⟩
  · obtain ⟨-, deleted, rolledBack⟩ := facts_of_open h t
    rw [deleted, rolledBack]
    exact ⟨mem_deleted_of_captured dropped, mem_rolledBack.mpr (Or.inl dropped)⟩
  · refine List.eq_nil_iff_forall_not_mem.mpr fun name listed => ?_
    obtain ⟨⟨path, hp, saved, -⟩, -⟩ := (exact_names.mem name).mp listed
    exact unsaved path hp saved

/-- A package with one script, which has two of the names: it drops a table again and saves a view. -/
def restoring : FileTree :=
  (({} : FileTree).set ["pkg"] .directory).set ["pkg", "Rollback_Drop_Tables.sql_Backup_Views.sql"]
    (.file (Text.Utf8.encode "DROP TABLE DB.T;\r\nSHOW VIEW DB.V;".toList))

/-- The table is both deleted and rolled back, and the view is rolled back only. -/
theorem rollback_deletes_restoring : ∃ p, Package.open restoring "pkg" none [] = .ok p
    ∧ "DB.T" ∈ (p.learnAll restoring builtinFacts).facts.deleted
    ∧ "DB.T" ∈ (p.learnAll restoring builtinFacts).facts.rolledBack
    ∧ "DB.V" ∈ stray (p.learnAll restoring builtinFacts).facts
    ∧ Captured restoring p.paths "SHOW VIEW" "_Backup_Views.sql" "DB.V" := by
  have listed : paths <$> Package.open restoring "pkg" none []
      = .ok ["pkg/Rollback_Drop_Tables.sql_Backup_Views.sql"] := by decide +kernel
  obtain ⟨p, opened, paths⟩ := exists_of_map_eq_ok listed
  have captured : Captured restoring p.paths "DROP TABLE" "Rollback_Drop_Tables.sql" "DB.T" := by
    rw [← mem_namesAfter, paths]
    decide +kernel
  obtain ⟨both, -⟩ := rollback_deletes opened restoring .empty
  obtain ⟨deleted, rolledBack⟩ := both "DB.T" (Or.inl captured)
  have found : "DB.V" ∈ stray (p.learnAll restoring builtinFacts).facts := by
    rw [eq_of_open opened, paths]
    decide +kernel
  exact ⟨p, opened, deleted, rolledBack, found, ((mem_stray_iff opened restoring).mp found).1⟩

end PackageAudit.Package
