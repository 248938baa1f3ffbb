import PackageAudit.Catalog.Token
import PackageAudit.Text.Search

/-!
# Kinds of artifacts

What an artifact defines is told by its path: the suffix of the file names tables, views and comments, and
the folder names backups. The two are independent, so a path has at most two kinds.
-/

namespace PackageAudit.Artifact

/-- Whether a path ends in the given text. -/
def hasSuffix (suffix path : String) : Bool :=
  suffix.toList.isSuffixOf path.toList

/-- Whether a path contains the given text. -/
def mentions (part path : String) : Bool :=
  Text.contains part.toList path.toList

/-- The kind that the suffix of a path tells. -/
def fileKind (path : String) : Option Filter :=
  if hasSuffix ".tbl" path then some .createTable
  else if hasSuffix ".viw" path then some .createView
  else if hasSuffix ".cmt" path then some .createComment
  else none

/-- The kind that the folders of a path tell. -/
def backupKind (path : String) : Option Filter :=
  if mentions "Auto_Backup_Tables" path then some .createBackupTable
  else if mentions "Auto_Backup_Views" path then some .createBackupView
  else none

/-- The kinds of an artifact, that of its file first. -/
def kinds (path : String) : List Filter :=
  (fileKind path).toList ++ (backupKind path).toList

theorem nodup_kinds (path : String) : (kinds path).Nodup := by
  unfold kinds fileKind backupKind
  repeat' split
  all_goals simp

end PackageAudit.Artifact
