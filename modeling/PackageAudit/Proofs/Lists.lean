import Mathlib.Data.List.Basic
import Mathlib.Data.List.Induction
import Mathlib.Data.List.Nodup
import Mathlib.Data.List.TakeWhile

/-!
# Lists

Facts about lists that say nothing about packages: what is left of a list after a filter (`flatMap_filter`,
`filter_congr_of_kept`, `filter_tagged`), what stands in front of a place or between separators
(`mem_of_mem_takeWhile_ne`, `prefix_append_cases`, `mem_of_mem_splitOn`, `intercalate_append`), runs over lists that
agree (`foldlM_congr`), and the order in which values first appear (`pairwise_idxOf_eraseDups`).
-/

namespace PackageAudit

variable {α β : Type}

/-! ## Filters -/

theorem flatMap_filter (keep : α → Bool) (f : α → List β) (l : List α) :
    (l.filter keep).flatMap f = l.flatMap fun a => if keep a then f a else [] := by
  induction l with
  | nil => rfl
  | cons a l ih =>
    rw [List.flatMap_cons, ← ih, List.filter_cons]
    split <;> simp

theorem flatMap_filter_of_nil {keep : α → Bool} {f : α → List β} {l : List α}
    (h : ∀ a ∈ l, keep a = false → f a = []) : (l.filter keep).flatMap f = l.flatMap f := by
  rw [flatMap_filter]
  refine List.flatMap_congr fun a ha => ?_
  split
  next => rfl
  next dropped => exact (h a ha (Bool.eq_false_iff.mpr dropped)).symm

/-- Lists with the same kept members have the same selected ones, if what is selected is kept. -/
theorem filter_congr_of_kept {keep select : α → Bool} {l m : List α} (filtered : m.filter keep = l.filter keep)
    (kept : ∀ a, select a = true → keep a = true) : m.filter select = l.filter select := by
  have through (l : List α) : (l.filter keep).filter select = l.filter select := by
    rw [List.filter_filter]
    refine List.filter_congr fun a _ => ?_
    cases hs : select a with
    | true => rw [kept a hs]; rfl
    | false => rfl
  rw [← through m, filtered, through l]

/-- Of values that are tagged with where they come from, those with one tag are those that come from there. -/
theorem filter_tagged {tag : Nat} (f : Nat → List α) : ∀ {tags : List Nat}, tags.Nodup →
    ((tags.flatMap fun i => (f i).map (i, ·)).filter (·.1 == tag)).map (·.2) = if tag ∈ tags then f tag else []
  | [], _ => rfl
  | i :: tags, h => by
    obtain ⟨hi, distinct⟩ := List.nodup_cons.mp h
    rw [List.flatMap_cons, List.filter_append, List.map_append, filter_tagged f distinct, List.filter_map, List.map_map]
    by_cases own : i = tag
    · subst own
      simp [hi, Function.comp_def]
    · simp [own, Ne.symm own, Function.comp_def]

/-! ## Fronts and parts -/

/-- What stands in a list before a member is what stands before one of its places. -/
theorem mem_of_mem_takeWhile_ne [DecidableEq α] {a b : α} {front back : List α}
    (h : b ∈ (front ++ a :: back).takeWhile (· ≠ a)) : b ∈ front := by
  rw [List.takeWhile_append, List.takeWhile_cons_of_neg (by simp), List.append_nil] at h
  split at h
  next => exact h
  next => exact (List.takeWhile_prefix _).subset h

theorem head?_dropWhile_ne [DecidableEq α] (a : α) (l : List α) : ∀ b ∈ (l.dropWhile (· ≠ a)).head?, b = a := by
  intro b hb
  have := List.head?_dropWhile_not (· ≠ a) l
  rw [Option.mem_def.mp hb] at this
  simpa using this

/-- A front of two lists in a row ends in the first one, or goes on into the second one. -/
theorem prefix_append_cases {part front back : List α} (h : part <+: front ++ back) :
    (part <+: front ∧ part ≠ front) ∨ ∃ tail, part = front ++ tail ∧ tail <+: back := by
  by_cases whole : front <+: part
  · obtain ⟨tail, rfl⟩ := whole
    exact .inr ⟨tail, rfl, (List.prefix_append_right_inj front).mp h⟩
  · refine .inl ⟨?_, fun he => whole (he ▸ List.prefix_rfl)⟩
    exact (List.prefix_or_prefix_of_prefix h (List.prefix_append front back)).resolve_right whole

/-- Between separators stand members of the list, and no separator. -/
theorem mem_of_mem_splitOn [DecidableEq α] {separator a : α} {l segment : List α} (hs : segment ∈ l.splitOn separator)
    (ha : a ∈ segment) : a ∈ l ∧ a ≠ separator := by
  induction l generalizing segment with
  | nil =>
    obtain rfl : segment = [] := by simpa using hs
    cases ha
  | cons b l ih =>
    rw [List.splitOn_cons_eq_if_modifyHead] at hs
    split at hs
    next =>
      rcases List.mem_cons.mp hs with rfl | hs
      · cases ha
      · obtain ⟨hmem, hne⟩ := ih hs ha
        exact ⟨List.mem_cons_of_mem b hmem, hne⟩
    next hb =>
      obtain ⟨first, rest, hsplit⟩ := List.exists_cons_of_ne_nil (List.splitOn_ne_nil separator l)
      rw [hsplit, List.modifyHead_cons] at hs
      rw [hsplit] at ih
      rcases List.mem_cons.mp hs with rfl | hs
      · rcases List.mem_cons.mp ha with rfl | ha
        · exact ⟨List.mem_cons_self, fun h => hb (beq_iff_eq.mpr h)⟩
        · obtain ⟨hmem, hne⟩ := ih List.mem_cons_self ha
          exact ⟨List.mem_cons_of_mem b hmem, hne⟩
      · obtain ⟨hmem, hne⟩ := ih (List.mem_cons_of_mem first hs) ha
        exact ⟨List.mem_cons_of_mem b hmem, hne⟩

theorem intercalate_append {separator : List α} : ∀ {before after : List (List α)}, before ≠ [] → after ≠ [] →
    separator.intercalate (before ++ after) = separator.intercalate before ++ separator ++ separator.intercalate after
  | [l], next :: after, _, _ => by simp
  | l :: second :: before, after, _, hafter => by
    have ih : separator.intercalate (second :: before ++ after)
        = separator.intercalate (second :: before) ++ separator ++ separator.intercalate after :=
      intercalate_append (List.cons_ne_nil second before) hafter
    rw [List.cons_append, List.cons_append, List.intercalate_cons_cons, ← List.cons_append, ih,
      List.intercalate_cons_cons]
    simp only [List.append_assoc]

/-! ## Runs and first places -/

theorem findSome?_id_cons (o : Option α) (os : List (Option α)) :
    (o :: os).findSome? id = o.or (os.findSome? id) := by
  cases o <;> rfl

/-- A run does not tell items apart that each step does not tell apart. -/
theorem foldlM_congr {ε σ : Type} {step : σ → α → Except ε σ} {r : α → α → Prop}
    (same : ∀ a b, r a b → ∀ s, step s b = step s a) {items items' : List α} (h : List.Forall₂ r items items') :
    ∀ s, items'.foldlM step s = items.foldlM step s := by
  induction h with
  | nil => exact fun s => rfl
  | @cons a b items items' ha _ ih =>
    intro s
    rw [List.foldlM_cons, List.foldlM_cons, same a b ha]
    exact congrArg (step s a >>= ·) (funext ih)

/-- In a list without its repetitions the values stand in the order in which they first appeared. -/
theorem pairwise_idxOf_eraseDups [DecidableEq α] (l : List α) :
    l.eraseDups.Pairwise fun a b => l.idxOf a < l.idxOf b := by
  induction l using List.reverseRecOn with
  | nil => simp
  | append_singleton l c ih =>
    have kept {a : α} (ha : a ∈ l.eraseDups) : (l ++ [c]).idxOf a = l.idxOf a :=
      List.idxOf_append_of_mem (List.mem_eraseDups.mp ha)
    have before : l.eraseDups.Pairwise fun a b => (l ++ [c]).idxOf a < (l ++ [c]).idxOf b := by
      refine List.Pairwise.imp_of_mem (fun ha hb h => ?_) ih
      rw [kept ha, kept hb]
      exact h
    by_cases known : c ∈ l
    · have same : (l ++ [c]).eraseDups = l.eraseDups := by
        rw [List.eraseDups_append]
        simp [List.removeAll, known]
      rw [same]
      exact before
    · have last : (l ++ [c]).eraseDups = l.eraseDups ++ [c] := by
        rw [List.eraseDups_append]
        simp [List.removeAll, known, List.eraseDups_cons]
      rw [last]
      refine List.pairwise_append.mpr ⟨before, List.pairwise_singleton _ _, fun a ha b hb => ?_⟩
      obtain rfl := List.mem_singleton.mp hb
      rw [kept ha, List.idxOf_append_of_notMem known]
      exact Nat.lt_of_lt_of_le (List.idxOf_lt_length_of_mem (List.mem_eraseDups.mp ha)) (Nat.le_add_right _ _)

end PackageAudit
