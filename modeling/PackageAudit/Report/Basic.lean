import PackageAudit.Report.JUnit
import PackageAudit.Report.Structured

/-!
# Reports
-/

namespace PackageAudit.Report

/-- The report on findings in a format. -/
def document (format : ReportFormat) (f : Findings) : String :=
  match format with
  | .junit => JUnit.document f
  | .json => Structured.document f

end PackageAudit.Report
