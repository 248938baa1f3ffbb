import PackageAudit.FileTree.Access
import PackageAudit.Report.Basic

/-!
# Report files

A report is written to a file; directories that are missing above it are made.
-/

namespace PackageAudit.Report

/-- Why a report file cannot be written. -/
inductive WriteError where
  | directory (path : String) (cause : FileError)
  | file (path : String) (cause : FileError)
  deriving DecidableEq, Repr

/-- The message for a report file that cannot be written. -/
def WriteError.message : WriteError → String
  | .directory path cause => "Failed to create report directory: " ++ path ++ ": " ++ cause.message
  | .file path cause => "Failed to write report: " ++ path ++ ": " ++ cause.message

/-- Makes the directories above a path. -/
def makeParents (t : FileTree) (path : String) : FileTree × Option WriteError :=
  match Path.parent? path with
  | none | some "" => (t, none)
  | some parent =>
    let (t, e) := t.makeDirectories parent
    (t, e.map (.directory parent))

/-- Writes a report file. What was made before an error stays. -/
def write (t : FileTree) (path : String) (format : ReportFormat) (f : Findings) :
    FileTree × Option WriteError :=
  match makeParents t path with
  | (t, some e) => (t, some e)
  | (t, none) =>
    match t.write path (Text.Utf8.encode (document format f).toList) with
    | .ok t => (t, none)
    | .error e => (t, some (.file path e))

end PackageAudit.Report
