import PackageAudit.CommandLine.Check
import PackageAudit.CommandLine.Init

/-!
# Running a command
-/

namespace PackageAudit.CommandLine

/-- The help for all commands. -/
def helpText : String :=
  Report.Console.ofLines [
    "A fast CLI tool for running declarative quality checks against Teradata deployment packages",
    "",
    "Usage: tdqa [COMMAND]",
    "",
    "Commands:",
    "  check  Run quality checks against an extracted Teradata package",
    "  init   Initialize a new .tdqarc.json configuration file",
    "  help   Print this message or the help of the given subcommand(s)",
    "",
    "Options:",
    "  -h, --help     Print help",
    "  -V, --version  Print version"]

/-- Runs what the arguments ask for; without a command the help is printed. -/
def run (t : FileTree) (color : Bool) (command : Option Command) : Outcome :=
  match command with
  | some (.check a) => check t color a
  | some .init => init t color
  | none => { status := .success, output := helpText, tree := t }

end PackageAudit.CommandLine
