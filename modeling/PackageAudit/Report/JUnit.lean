import PackageAudit.Findings.Entry
import PackageAudit.Markup.Writer
import PackageAudit.Report.Format

/-!
# Reports for build servers

The report is a marked-up document with one test case for each entry: failures are its failure, warnings its
error, and information its output. Each tag stands on a line of its own, except that the text of an output
stands between its tags on one line.
-/

namespace PackageAudit.Report.JUnit

/-- A line of the document: its depth and its text. -/
structure Line where
  depth : Nat
  text : List Char

def Line.write (l : Line) : List Char :=
  List.replicate (2 * l.depth) ' ' ++ l.text ++ ['\n']

/-- The lines inside the test case of an entry. -/
def caseContent (e : Findings.Entry) : List Line :=
  (e.failure.map fun message =>
      ⟨3, Markup.emptyTag "failure" [("type", "failure"), ("message", message)]⟩).toList
    ++ (e.warning.map fun message =>
      ⟨3, Markup.emptyTag "error" [("type", "error"), ("message", message)]⟩).toList
    ++ (e.information.map fun message =>
      ⟨3, Markup.startTag "system-out" [] ++ Markup.escape message.toList ++ Markup.endTag "system-out"⟩).toList

/-- The lines of the test case of an entry. -/
def caseLines (e : Findings.Entry) : List Line :=
  let attributes := [("name", e.name), ("classname", e.name)]
  match caseContent e with
  | [] => [⟨2, Markup.emptyTag "testcase" attributes⟩]
  | content => ⟨2, Markup.startTag "testcase" attributes⟩ :: content ++ [⟨2, Markup.endTag "testcase"⟩]

/-- The numbers that both levels of suites state. -/
def counts (f : Findings) : List (String × String) :=
  [("tests", toString f.size), ("failures", toString f.failureCount), ("errors", toString f.warningCount)]

/-- The lines of the document. -/
def lines (f : Findings) : List Line :=
  [⟨0, "<?xml version=\"1.0\" encoding=\"UTF-8\"?>".toList⟩, ⟨0, Markup.startTag "testsuites" (counts f)⟩,
      ⟨1, Markup.startTag "testsuite" (("name", suiteName) :: counts f)⟩]
    ++ f.entries.flatMap caseLines
    ++ [⟨1, Markup.endTag "testsuite"⟩, ⟨0, Markup.endTag "testsuites"⟩]

def document (f : Findings) : String :=
  String.ofList ((lines f).flatMap Line.write)

end PackageAudit.Report.JUnit
