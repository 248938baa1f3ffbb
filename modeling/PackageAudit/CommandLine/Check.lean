import PackageAudit.CommandLine.Arguments
import PackageAudit.CommandLine.Outcome
import PackageAudit.Report.Console

/-!
# Checking a package

The command loads settings, rules and package, runs the check, prints what was found and writes a report. What
was found is printed even if the report cannot be written.
-/

namespace PackageAudit.CommandLine

/-- What is needed to run a check. -/
structure Prepared where
  settings : Settings
  catalog : Catalog
  package : Package
  reportFile : String
  reportFormat : ReportFormat

/-- Loads what is needed to run a check. -/
def prepare (t : FileTree) (a : CheckArguments) : Except Failure Prepared := do
  let here := workingPath t
  let settings ← ((Settings.load t here).mapError .settings).map (·.settings)
  let rulesFile := a.rules.getD (Path.join here settings.rulesFile)
  let keywordsFile := a.keywords.getD (Path.join here settings.reservedKeywordsFile)
  let catalog ← (Catalog.load ((t.readText rulesFile).toOption.map String.ofList) settings.catalogSection).mapError
    (.catalog rulesFile)
  let package ← (Package.open t a.packageDir (some keywordsFile) settings.ignores).mapError .package
  .ok { settings, catalog, package
        reportFile := a.report.getD (Path.join here settings.reportFile)
        reportFormat := a.format.getD settings.reportFormat }

def reportLine (color : Bool) (path : String) : String :=
  Report.Console.paint color .bold "Report:" ++ " " ++ path ++ "\n"

/-- Runs a check that is prepared. -/
def runCheck (t : FileTree) (color : Bool) (noReport : Bool) (p : Prepared) : Outcome :=
  let findings := (p.package.check t p.settings.options p.catalog).findings
  let output := Report.Console.document color findings
  let status := if findings.hasFailures then ExitStatus.failure else .success
  if noReport then { status, output, tree := t }
  else match Report.write t p.reportFile p.reportFormat findings with
    | (tree, none) => { status, output := output ++ reportLine color p.reportFile, tree }
    | (tree, some cause) => .failed tree (.report cause) output

/-- Checks a package. -/
def check (t : FileTree) (color : Bool) (a : CheckArguments) : Outcome :=
  match prepare t a with
  | .ok p => runCheck t color a.noReport p
  | .error failure => .failed t failure ""

end PackageAudit.CommandLine
