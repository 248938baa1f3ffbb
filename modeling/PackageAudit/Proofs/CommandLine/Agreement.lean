import PackageAudit.Proofs.CommandLine.Check
import PackageAudit.Proofs.Report.File
import PackageAudit.Proofs.Report.Tally

/-!
# Reports agree with each other and with the status

All reports on the same findings state the same numbers, and those with entries bear them out. A check that comes to
its end prints these numbers and writes them to its report, and its status says whether the number of failures is zero
(`reports_agree`).
-/

namespace PackageAudit

namespace Report

/-- Whether a text is a report in a format that states numbers and bears them out. -/
def Tells (format : ReportFormat) (text : String) (n : Tally) : Prop :=
  match format with
  | .junit => JUnit.Tells text n
  | .json => Structured.Tells text n

theorem tells_document (format : ReportFormat) (f : Findings) : Tells format (document format f) f.tally := by
  cases format with
  | junit => exact JUnit.tells_document f
  | json => exact Structured.tells_document f

end Report

namespace CommandLine

open Report (Tells)

variable {t : FileTree} {a : CheckArguments} {p : Prepared}

theorem hasFailures_iff_tally (f : Findings) : f.hasFailures = true ↔ f.tally.failures ≠ 0 := by
  rw [Findings.hasFailures_iff, Nat.pos_iff_ne_zero]
  rfl

/-- The report of a check that came to its end is read at its path. -/
theorem readText_report (color : Bool) (h : prepare t a = .ok p) (hr : ¬ReportFails t a p) (hn : a.noReport = false) :
    (check t color a).tree.readText p.reportFile
      = .ok (Report.document p.reportFormat (p.findings t)).toList := by
  obtain ⟨t', hw⟩ := exists_write hr hn
  rw [check_of_write color h hn hw]
  exact Report.readText_of_write hw

/-- **All reports agree with each other and with the status.** The report for build servers, the report as JSON and the
last line on the console state the same numbers; the first two bear them out, and the console has a line of success
exactly if two of the numbers are zero. A check ends in an error only if it cannot be prepared or its report cannot be
written. Otherwise what it prints and what it writes state the numbers of the same findings, and it ends with the status
of failure exactly if the number of failures is not zero. -/
theorem reports_agree :
    (∀ f : Findings, Report.JUnit.Tells (Report.JUnit.document f) f.tally
      ∧ Report.Structured.Tells (Report.Structured.document f) f.tally
      ∧ ∀ color, Report.Console.Tells color (Report.Console.document color f) f.tally)
    ∧ ∀ (t : FileTree) (color : Bool) (a : CheckArguments),
      ((check t color a).status = .error
          ∧ ((∃ failure, prepare t a = .error failure) ∨ ∃ p, prepare t a = .ok p ∧ ReportFails t a p))
        ∨ ∃ p printed n, prepare t a = .ok p ∧ n = (p.findings t).tally
          ∧ ((check t color a).status = .failure ↔ n.failures ≠ 0)
          ∧ ((check t color a).status = .success ↔ n.failures = 0)
          ∧ (check t color a).output = printed ++ (if a.noReport then "" else reportLine color p.reportFile)
          ∧ Report.Console.Tells color printed n
          ∧ (a.noReport = true
            ∨ ∃ report : String, (check t color a).tree.readText p.reportFile = .ok report.toList
              ∧ Tells p.reportFormat report n) := by
  refine ⟨fun f => ⟨Report.JUnit.tells_document f, Report.Structured.tells_document f, fun color =>
    Report.Console.tells_document color f⟩, fun t color a => ?_⟩
  by_cases failed : (check t color a).status = .error
  · exact Or.inl ⟨failed, (status_check_error t color a).mp failed⟩
  have ended := mt (status_check_error t color a).mpr failed
  rw [not_or] at ended
  obtain ⟨prepared, written⟩ := ended
  cases h : prepare t a with
  | error failure => exact absurd ⟨failure, h⟩ prepared
  | ok p =>
    have hr : ¬ReportFails t a p := fun fails => written ⟨p, h, fails⟩
    have status : (check t color a).status = if (p.findings t).hasFailures then .failure else .success := by
      rw [check_of_prepare color h hr]
    have failures := hasFailures_iff_tally (p.findings t)
    refine Or.inr ⟨p, _, _, rfl, rfl, ?_, ?_, ?_, Report.Console.tells_document color (p.findings t), ?_⟩
    · rw [status, ← failures]
      cases (p.findings t).hasFailures <;> simp
    · rw [status, ← not_iff_not, ← ne_eq (p.findings t).tally.failures, ← failures]
      cases (p.findings t).hasFailures <;> simp
    · rw [check_of_prepare color h hr]
    · cases hn : a.noReport with
      | true => exact Or.inl rfl
      | false => exact Or.inr ⟨_, readText_report color h hr hn, Report.tells_document _ _⟩

end CommandLine
end PackageAudit
