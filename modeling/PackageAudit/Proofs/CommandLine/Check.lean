import PackageAudit.CommandLine.Check
import PackageAudit.Proofs.Audit.Blocking
import PackageAudit.Proofs.Package.Check

/-!
# How a check of a package ends

A check ends in an error if it cannot be prepared or its report cannot be written (`status_check_error`). Otherwise the
status says whether the build is blocked: by objects that are not balanced or by a broken rule of level error, and by
nothing else (`blocks_build_iff`).
-/

namespace PackageAudit.CommandLine

open Audit (Blocks runWithoutChangeRequest)

variable {t : FileTree} {a : CheckArguments} {p : Prepared}

/-- The findings of a check that is prepared: what a run finds on what the files say. -/
def Prepared.findings (t : FileTree) (p : Prepared) : Findings :=
  Audit.run p.settings.options (p.package.survey t) p.catalog

theorem open_of_prepare (h : prepare t a = .ok p) :
    ∃ file, Package.open t a.packageDir (some file) p.settings.ignores = .ok p.package := by
  unfold prepare at h
  obtain ⟨settings, -, h⟩ := exists_of_bind_eq_ok h
  obtain ⟨catalog, -, h⟩ := exists_of_bind_eq_ok h
  obtain ⟨package, hopen, h⟩ := exists_of_bind_eq_ok h
  cases h
  exact ⟨_, ok_of_mapError_eq_ok hopen⟩

theorem findings_of_prepare (h : prepare t a = .ok p) :
    (p.package.check t p.settings.options p.catalog).findings = p.findings t := by
  obtain ⟨file, hopen⟩ := open_of_prepare h
  exact Package.findings_check_of_open hopen _ _

/-- Whether the report of a check cannot be written. -/
def ReportFails (t : FileTree) (a : CheckArguments) (p : Prepared) : Prop :=
  a.noReport = false ∧ ∃ cause, (Report.write t p.reportFile p.reportFormat (p.findings t)).2 = some cause

/-- The status of a check that is prepared. -/
theorem status_of_prepare (color : Bool) (h : prepare t a = .ok p) :
    (ReportFails t a p ∧ (check t color a).status = .error)
      ∨ ¬ReportFails t a p
        ∧ (check t color a).status = if (p.findings t).hasFailures then .failure else .success := by
  unfold check ReportFails
  rw [h]
  unfold runCheck
  simp only [findings_of_prepare h]
  cases a.noReport with
  | true => exact Or.inr ⟨fun hr => (nomatch hr.1), rfl⟩
  | false =>
    cases hw : Report.write t p.reportFile p.reportFormat (p.findings t) with
    | mk tree result =>
      cases result with
      | none => exact Or.inr ⟨fun ⟨_, _, hc⟩ => (nomatch hc), rfl⟩
      | some cause => exact Or.inl ⟨⟨rfl, cause, rfl⟩, rfl⟩

/-- What a check does that is prepared and whose report can be written. -/
theorem check_of_prepare (color : Bool) (h : prepare t a = .ok p) (hr : ¬ReportFails t a p) : check t color a = {
    status := if (p.findings t).hasFailures then .failure else .success
    output := Report.Console.document color (p.findings t) ++ if a.noReport then "" else reportLine color p.reportFile
    tree := if a.noReport then t else (Report.write t p.reportFile p.reportFormat (p.findings t)).1 } := by
  unfold ReportFails at hr
  unfold check
  rw [h]
  unfold runCheck
  simp only [findings_of_prepare h]
  cases hn : a.noReport with
  | true => simp
  | false =>
    cases hw : Report.write t p.reportFile p.reportFormat (p.findings t) with
    | mk tree result =>
      cases result with
      | none => simp
      | some cause => exact absurd ⟨hn, cause, by rw [hw]⟩ hr

theorem exists_write (hr : ¬ReportFails t a p) (hn : a.noReport = false) :
    ∃ t', Report.write t p.reportFile p.reportFormat (p.findings t) = (t', none) := by
  cases hw : Report.write t p.reportFile p.reportFormat (p.findings t) with
  | mk t' result =>
    cases result with
    | none => exact ⟨t', rfl⟩
    | some cause => exact absurd ⟨hn, cause, by rw [hw]⟩ hr

/-- What a check does that is prepared and whose report is written. -/
theorem check_of_write (color : Bool) (h : prepare t a = .ok p) (hn : a.noReport = false) {t' : FileTree}
    (hw : Report.write t p.reportFile p.reportFormat (p.findings t) = (t', none)) : check t color a = {
    status := if (p.findings t).hasFailures then .failure else .success
    output := Report.Console.document color (p.findings t) ++ reportLine color p.reportFile
    tree := t' } := by
  have written : ¬ReportFails t a p := by
    rintro ⟨-, cause, failed⟩
    rw [hw] at failed
    cases failed
  rw [check_of_prepare color h written, hn, hw]
  rfl

theorem status_of_prepare_error (color : Bool) {failure : Failure} (h : prepare t a = .error failure) :
    (check t color a).status = .error := by
  unfold check
  rw [h]
  rfl

/-- A check ends in an error if it cannot be prepared or its report cannot be written. -/
theorem status_check_error (t : FileTree) (color : Bool) (a : CheckArguments) :
    (check t color a).status = .error
      ↔ (∃ failure, prepare t a = .error failure) ∨ ∃ p, prepare t a = .ok p ∧ ReportFails t a p := by
  cases h : prepare t a with
  | error failure => simp [status_of_prepare_error color h]
  | ok p =>
    rcases status_of_prepare color h with ⟨fails, status⟩ | ⟨fails, status⟩
    · simp [status, fails]
    · cases hf : (p.findings t).hasFailures <;> simp [status, fails, hf]

/-- A check that comes to its end tells whether the build is blocked. -/
theorem status_check (t : FileTree) (color : Bool) (a : CheckArguments) :
    (check t color a).status = .error
      ∨ ∃ p, prepare t a = .ok p
        ∧ ((check t color a).status = .failure ↔ Blocks p.settings.options (p.package.survey t) p.catalog)
        ∧ ((check t color a).status = .success ↔ ¬Blocks p.settings.options (p.package.survey t) p.catalog) := by
  cases h : prepare t a with
  | error failure => exact Or.inl (status_of_prepare_error color h)
  | ok p =>
    rcases status_of_prepare color h with ⟨-, status⟩ | ⟨-, status⟩
    · exact Or.inl status
    · have blocked : (p.findings t).hasFailures = true
          ↔ Blocks p.settings.options (p.package.survey t) p.catalog := Audit.run_hasFailures
      refine Or.inr ⟨p, rfl, ?_⟩
      rw [status, ← blocked]
      cases (p.findings t).hasFailures <;> simp

/-- **The build is blocked exactly when it should be.** A run has failures if the objects that are created or deleted
are not those that are rolled back, or a rule of level error is broken; rules that cannot block and the change request
number make no difference. A check of a package that comes to its end tells whether this is so of what the files say,
and it comes to its end if it can be prepared and its report can be written. -/
theorem blocks_build_iff :
    (∀ (o : Audit.Options) (corpus : Corpus) (catalog : Catalog),
        ((Audit.run o corpus catalog).hasFailures = true ↔ Blocks o corpus catalog)
          ∧ (Audit.run o corpus (catalog.keepRules catalog.canBlock)).hasFailures
            = (Audit.run o corpus catalog).hasFailures
          ∧ (runWithoutChangeRequest o corpus catalog).hasFailures = (Audit.run o corpus catalog).hasFailures)
      ∧ ∀ (t : FileTree) (color : Bool) (a : CheckArguments),
        ((check t color a).status = .error
            ↔ (∃ failure, prepare t a = .error failure) ∨ ∃ p, prepare t a = .ok p ∧ ReportFails t a p)
          ∧ ((check t color a).status = .error
            ∨ ∃ p, prepare t a = .ok p
              ∧ ((check t color a).status = .failure ↔ Blocks p.settings.options (p.package.survey t) p.catalog)
              ∧ ((check t color a).status = .success ↔ ¬Blocks p.settings.options (p.package.survey t) p.catalog)) :=
  ⟨fun _ _ _ => ⟨Audit.run_hasFailures, Audit.hasFailures_keepRules, Audit.hasFailures_withoutChangeRequest⟩,
    fun t color a => ⟨status_check_error t color a, status_check t color a⟩⟩

end PackageAudit.CommandLine
