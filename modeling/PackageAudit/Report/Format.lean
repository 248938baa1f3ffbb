/-!
# Formats of report files
-/

namespace PackageAudit

/-- The format of a report file. -/
inductive ReportFormat where
  | junit
  | json
  deriving DecidableEq, Repr

namespace ReportFormat

def token : ReportFormat → String
  | .junit => "junit"
  | .json => "json"

def values : List ReportFormat := [.junit, .json]

def ofToken? (text : String) : Option ReportFormat :=
  values.find? (·.token == text)

theorem ofToken?_token (f : ReportFormat) : ofToken? f.token = some f := by cases f <;> rfl

end ReportFormat

/-- The name under which reports present a check. -/
def suiteName : String := "Teradata Package Check"

end PackageAudit
