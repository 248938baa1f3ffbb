import PackageAudit.Proofs.FileTree.Footprint
import PackageAudit.Report.File

/-!
# Report files that were written

Once a report was written it can be read at its path (`readText_of_write`), and writing it again changes nothing
(`write_of_write`). Apart from the report itself, writing only makes directories where nothing stood
(`written_of_write`) and where a path above that of the report leads, even if it fails on the way (`footprint_write`).
-/

namespace PackageAudit.Report

variable {t t' : FileTree} {path : String} {format : ReportFormat} {f : Findings}

def bytes (format : ReportFormat) (f : Findings) : List UInt8 :=
  Text.Utf8.encode (document format f).toList

/-- Making directories above a path furnishes a tree where paths above it lead. -/
theorem furnished_makeParents (t : FileTree) (path : String) :
    FileTree.Furnished (Path.IsAbove · path) t (makeParents t path).1 := by
  unfold makeParents
  split
  next => exact .refl _ t
  next => exact .refl _ t
  next parent _ hparent => exact FileTree.furnished_makeDirectories t (.parent hparent) fun above => above.up

theorem widened_makeParents (t : FileTree) (path : String) : FileTree.Widened t (makeParents t path).1 :=
  (furnished_makeParents t path).widened

/-- **Writing a report changes nothing but the report** and the missing directories above it, whether it comes to its
end or not. -/
theorem footprint_write (t : FileTree) (path : String) (format : ReportFormat) (f : Findings) :
    FileTree.Footprint path t (write t path format f).1 := by
  have furnished := furnished_makeParents t path
  unfold write
  split
  next failed =>
    rw [failed] at furnished
    exact furnished.footprint
  next made =>
    rw [made] at furnished
    split
    next written => exact furnished.footprint_of_write written
    next => exact furnished.footprint

/-- The directories above a path are there once they were made, also after the tree has grown. -/
theorem makeParents_of_makeParents {s : FileTree} (h : makeParents t path = (s, none)) (grown : FileTree.Grown s t') :
    makeParents t' path = (t', none) := by
  unfold makeParents at h ⊢
  split at h
  next => rfl
  next => rfl
  next parent hne _ =>
    obtain ⟨rfl, made⟩ := Prod.mk.inj h
    have there : (t.makeDirectories parent).1.isDirectory parent = true :=
      FileTree.isDirectory_of_makeDirectories (fun he => hne he) (Option.map_eq_none_iff.mp made)
    simp only [FileTree.makeDirectories_of_isDirectory (grown.isDirectory there), Option.map_none]

/-- A report that was written was written to a tree in which some directories were made. -/
theorem exists_of_write (h : write t path format f = (t', none)) :
    ∃ s, makeParents t path = (s, none) ∧ s.write path (bytes format f) = .ok t' := by
  unfold write at h
  split at h
  next => cases h
  next s made =>
    split at h
    next written =>
      cases h
      exact ⟨s, made, written⟩
    next => cases h

theorem written_of_write (h : write t path format f = (t', none)) :
    ∃ place, t'.locate path = .ok place ∧ FileTree.Written t t' place := by
  obtain ⟨s, made, written⟩ := exists_of_write h
  have widened := widened_makeParents t path
  rw [made] at widened
  exact widened.written written

theorem sound_of_write (hs : t.Sound) (h : write t path format f = (t', none)) : t'.Sound := by
  obtain ⟨s, made, written⟩ := exists_of_write h
  have sound : (makeParents t path).1.Sound := by
    unfold makeParents
    split
    next => exact hs
    next => exact hs
    next parent _ _ => exact hs.makeDirectories parent
  rw [made] at sound
  obtain ⟨place, hl, hd, rfl⟩ := FileTree.exists_set_of_write written
  exact sound.set hl hd _

/-- **A report that was written** is read at its path. -/
theorem readText_of_write (h : write t path format f = (t', none)) :
    t'.readText path = .ok (document format f).toList := by
  obtain ⟨s, -, written⟩ := exists_of_write h
  exact FileTree.readText_of_read (FileTree.read_of_write written)

/-- **Writing a report again** changes nothing. -/
theorem write_of_write (h : write t path format f = (t', none)) : write t' path format f = (t', none) := by
  obtain ⟨s, made, written⟩ := exists_of_write h
  obtain ⟨location, -, hd, rfl⟩ := FileTree.exists_set_of_write written
  have again := FileTree.write_of_write written
  unfold write
  rw [makeParents_of_makeParents made (FileTree.grown_set hd _)]
  simp only [bytes] at again ⊢
  rw [again]

end PackageAudit.Report
