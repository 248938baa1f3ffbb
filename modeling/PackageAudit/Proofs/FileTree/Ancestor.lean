import Mathlib.Data.List.DropRight
import PackageAudit.FileTree.Path
import PackageAudit.Proofs.Lists

/-!
# The directories above a path

`Path.parent?` takes the last component of a path away, and what is left is a shorter beginning of the path
(`exists_eq_append_of_parent?`). So the way upwards from a path (`Path.ancestor?`) has an end: it takes no more steps
than the path has characters (`ancestor?_eq_none_of_length_lt`).
-/

namespace PackageAudit.Path

variable {path parent start directory : String} {fewer steps : Nat}

/-- Where a number of steps upwards leads from a path, if there are so many. -/
def ancestor? (start : String) : Nat → Option String
  | 0 => some start
  | steps + 1 => (ancestor? start steps).bind parent?

/-! ## One step -/

theorem lead_append (path : List Char) : (lead path).1 ++ (lead path).2 = path := by
  unfold lead
  split <;> rfl

theorem trimSegments_prefix (segments : List (List Char)) : trimSegments segments <+: segments :=
  List.rdropWhile_prefix isIdle segments

/-- **The path above** is a beginning of the path, and shorter. -/
theorem exists_eq_append_of_parent? (h : parent? path = some parent) :
    ∃ taken, taken ≠ [] ∧ path.toList = parent.toList ++ taken := by
  have whole := lead_append path.toList
  unfold parent? at h
  generalize lead path.toList = cut at h whole
  obtain ⟨lead, body⟩ := cut
  simp only at h whole
  split at h
  next =>
    -- nothing but the dot in front, which is taken away
    split at h
    next dot =>
      cases h
      exact ⟨path.toList, by rw [← whole, dot]; exact List.cons_ne_nil _ _, rfl⟩
    next => cases h
  next last before hlast =>
    cases h
    rw [String.toList_ofList, ← whole]
    have segments : ∃ after, body.splitOn '/' = trimSegments before.reverse ++ after ∧ after ≠ [] := by
      obtain ⟨idle, hidle⟩ := trimSegments_prefix (body.splitOn '/')
      obtain ⟨dropped, hdropped⟩ := trimSegments_prefix before.reverse
      rw [List.reverse_eq_iff.mp hlast, List.reverse_cons, ← hdropped] at hidle
      exact ⟨dropped ++ [last] ++ idle, by rw [← hidle]; simp only [List.append_assoc], by simp⟩
    obtain ⟨after, hsplit, hafter⟩ := segments
    have hbody : ['/'].intercalate (body.splitOn '/') = body := List.intercalate_splitOn '/'
    rw [hsplit] at hbody
    by_cases hbefore : trimSegments before.reverse = []
    · refine ⟨body, ?_, by rw [hbefore]; simp⟩
      rintro rfl
      simp [trimSegments, isIdle] at hlast
    · rw [intercalate_append hbefore hafter] at hbody
      exact ⟨['/'] ++ ['/'].intercalate after, by simp, by rw [← hbody]; simp only [List.append_assoc]⟩

theorem length_lt_of_parent? (h : parent? path = some parent) : parent.length < path.length := by
  obtain ⟨taken, ne_nil, whole⟩ := exists_eq_append_of_parent? h
  have := List.length_pos_iff.mpr ne_nil
  rw [← String.length_toList, ← String.length_toList, whole, List.length_append]
  omega

/-! ## The way upwards -/

theorem ancestor?_succ (start : String) (steps : Nat) :
    ancestor? start (steps + 1) = (parent? start).bind (ancestor? · steps) := by
  induction steps with
  | zero => cases h : parent? start <;> simp [ancestor?, h]
  | succ steps ih =>
    rw [ancestor?, ih, Option.bind_assoc]
    rfl

/-- Each step upwards takes at least one character away. -/
theorem length_add_le_of_ancestor? : ∀ {steps : Nat} {directory : String}, ancestor? start steps = some directory →
    directory.length + steps ≤ start.length
  | 0, directory, h => by
    cases h
    exact Nat.le_refl _
  | steps + 1, directory, h => by
    obtain ⟨between, hbetween, hparent⟩ := Option.bind_eq_some_iff.mp h
    have before := length_add_le_of_ancestor? hbetween
    have last := length_lt_of_parent? hparent
    omega

/-- **The way upwards ends** after no more steps than the path has characters. -/
theorem ancestor?_eq_none_of_length_lt (h : start.length < steps) : ancestor? start steps = none := by
  cases hd : ancestor? start steps with
  | none => rfl
  | some directory =>
    have := length_add_le_of_ancestor? hd
    omega

end PackageAudit.Path
