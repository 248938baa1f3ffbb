import PackageAudit.Findings.Entry
import PackageAudit.Json.Value
import PackageAudit.Report.Format

/-!
# Reports as JSON

The report is an object with the name of the suite, a summary of the numbers, and one result for each entry,
in which a level without messages does not occur.
-/

namespace PackageAudit.Report.Structured

/-- A member that occurs only if it has a text. -/
def optional (key : String) (text : Option String) : List (String × Json.Value) :=
  (text.map fun text => (key, Json.Value.text text)).toList

def result (e : Findings.Entry) : Json.Value :=
  .record (("name", .text e.name) :: optional "failure" e.failure ++ optional "warning" e.warning
    ++ optional "information" e.information)

def summary (f : Findings) : Json.Value :=
  .record [("artifacts", .nat f.size), ("failures", .nat f.failureCount), ("warnings", .nat f.warningCount)]

def value (f : Findings) : Json.Value :=
  .record [("suite", .text suiteName), ("summary", summary f), ("results", .array (f.entries.map result))]

def document (f : Findings) : String :=
  (value f).pretty

end PackageAudit.Report.Structured
