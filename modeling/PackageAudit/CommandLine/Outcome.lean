import PackageAudit.Package.Basic
import PackageAudit.Report.File
import PackageAudit.Settings.Load

/-!
# Outcomes of commands

A command ends with a status and has printed some text; it may have failed, and it leaves a file tree behind.
-/

namespace PackageAudit.CommandLine

/-- How a command ends. -/
inductive ExitStatus where
  | success
  /-- The check found failures, or there was nothing to do. -/
  | failure
  | error
  deriving DecidableEq, Repr

/-- The exit code of a status. -/
def ExitStatus.code : ExitStatus → Nat
  | .success => 0
  | .failure => 1
  | .error => 2

/-- Why a command cannot do its work. -/
inductive Failure where
  | settings (cause : Settings.LoadError)
  | catalog (path : String) (cause : CatalogError)
  | package (cause : Package.OpenError)
  | report (cause : Report.WriteError)
  | settingsFile (path : String) (cause : FileError)
  deriving DecidableEq, Repr

/-- The message for a file of settings that cannot be decoded, up to what is wrong with it. -/
def undecodable (path : String) : String :=
  "Failed to parse config file: " ++ Text.shown path

/-- What is wrong with settings that cannot be decoded. A text that is no JSON is only told apart from one that ends too
early, and the line and the column of the error are not said. -/
def decodeMessage : DecodeError → String
  | .fault .syntactic => "invalid JSON"
  | .fault .unfinished => "unexpected end of JSON"
  | .mismatch m => m.message

/-- The message for a failure. -/
def Failure.message : Failure → String
  | .settings (.unreadable path cause) =>
    "Failed to read config file: " ++ Text.shown path ++ ": " ++ cause.message
  | .settings (.undecodable path cause) => undecodable path ++ ": " ++ decodeMessage cause
  | .settings (.invalid cause) => cause.message
  | .catalog path cause => "Invalid rule catalog: " ++ path ++ ": " ++ cause.message
  | .package cause => cause.message
  | .report cause => cause.message
  | .settingsFile path cause => "Failed to write " ++ path ++ ": " ++ cause.message

/-- What a command has done. -/
structure Outcome where
  status : ExitStatus
  /-- What was printed. -/
  output : String := ""
  /-- What was printed as an error. -/
  complaint : Option String := none
  failure : Option Failure := none
  tree : FileTree

/-- A command that cannot do its work. -/
def Outcome.failed (tree : FileTree) (failure : Failure) (output : String) : Outcome :=
  { status := .error, output, failure := some failure, tree }

def workingPath (t : FileTree) : String :=
  "/" ++ Text.join "/" t.workingDirectory

end PackageAudit.CommandLine
