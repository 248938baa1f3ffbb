import PackageAudit.CommandLine.Outcome
import PackageAudit.Report.Console

/-!
# Making a settings file

The command writes the default settings to the working directory, unless there are settings already, and says
which of the files that they name exist.
-/

namespace PackageAudit.CommandLine

/-- A label with blanks after it up to the tenth column. -/
def labelled (label : String) : String :=
  "  " ++ label ++ String.ofList (List.replicate (10 - label.length) ' ')

/-- The line for a file that the settings name. -/
def inputLine (t : FileTree) (color : Bool) (label file : String) : String :=
  let status :=
    if t.isFile (Path.join (workingPath t) file) then Report.Console.paint color .green "found"
    else Report.Console.paint color .yellow "not found yet"
  labelled label ++ file ++ " (" ++ status ++ ")"

/-- What is printed after the settings were written. -/
def initOutput (t : FileTree) (color : Bool) : String :=
  let s := Settings.default
  let paint := Report.Console.paint color .green
  Report.Console.ofLines [
    paint Report.Console.successMark ++ " " ++ paint ("Created " ++ Settings.fileName),
    inputLine t color "rules:" s.rulesFile,
    inputLine t color "keywords:" s.reservedKeywordsFile,
    labelled "report:" ++ s.reportFile ++ " (" ++ s.reportFormat.token ++ ")"]

/-- Makes a settings file. -/
def init (t : FileTree) (color : Bool) : Outcome :=
  let path := Path.join (workingPath t) Settings.fileName
  if t.exists? path then
    { status := .failure, complaint := some ("Error: " ++ Settings.fileName ++ " already exists"), tree := t }
  else
    match t.write path (Text.Utf8.encode Settings.default.document.toList) with
    | .error cause => .failed t (.settingsFile path cause) ""
    | .ok t => { status := .success, output := initOutput t color, tree := t }

end PackageAudit.CommandLine
