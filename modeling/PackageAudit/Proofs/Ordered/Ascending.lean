import Mathlib.Data.List.Sort
import PackageAudit.Ordered.NameSet
import PackageAudit.Ordered.Register

/-!
# Ascending lists

In a strictly ascending list the members say everything: which texts stand in which order (`sublist_iff_of_ascending`)
and what the list is (`eq_of_ascending`, `eq_of_ascending_keys`). So a set of names is determined by its members
(`NameSet.ext_mem`), and a register by its answers (`Register.ext_get?`): what is filed under a key is what the register
answers (`Register.mem_entries_iff`).
-/

namespace PackageAudit

theorem nodup_of_ascending {l : List String} (h : l.Pairwise (· < ·)) : l.Nodup :=
  h.imp (S := (· ≠ ·)) fun h => by rintro rfl; exact String.lt_irrefl _ h

/-- In an ascending list texts stand in a given order if they are listed and ascend in it. -/
theorem sublist_iff_of_ascending {l xs : List String} (h : l.Pairwise (· < ·)) :
    xs.Sublist l ↔ xs.Pairwise (· < ·) ∧ ∀ x ∈ xs, x ∈ l := by
  constructor
  · intro hs
    exact ⟨h.sublist hs, fun x hx => hs.subset hx⟩
  · rintro ⟨hx, hm⟩
    exact List.sublist_of_subperm_of_pairwise (List.subperm_of_subset (nodup_of_ascending hx) hm) hx h

theorem eq_of_ascending {l m : List String} (hl : l.Pairwise (· < ·)) (hm : m.Pairwise (· < ·))
    (h : ∀ x, x ∈ l ↔ x ∈ m) : l = m :=
  List.Sublist.antisymm ((sublist_iff_of_ascending hm).mpr ⟨hl, fun x hx => (h x).mp hx⟩)
    ((sublist_iff_of_ascending hl).mpr ⟨hm, fun x hx => (h x).mpr hx⟩)

/-- A list of entries with ascending keys is determined by its members. -/
theorem eq_of_ascending_keys {α : Type} {l m : List (String × α)} (hl : (l.map (·.1)).Pairwise (· < ·))
    (hm : (m.map (·.1)).Pairwise (· < ·)) (h : ∀ e, e ∈ l ↔ e ∈ m) : l = m := by
  rw [List.pairwise_map] at hl hm
  have nodup {l : List (String × α)} (hl : l.Pairwise (·.1 < ·.1)) : l.Nodup :=
    hl.imp (S := (· ≠ ·)) fun h => by rintro rfl; exact String.lt_irrefl _ h
  refine List.Perm.eq_of_pairwise (fun a b _ _ hab hba => ?_) hl hm
    ((List.perm_ext_iff_of_nodup (nodup hl) (nodup hm)).mpr h)
  exact absurd (String.lt_trans hab hba) (String.lt_irrefl _)

theorem NameSet.ext_mem {s t : NameSet} (h : ∀ name, name ∈ s ↔ name ∈ t) : s = t := by
  obtain ⟨names, ascending⟩ := s
  obtain ⟨names', ascending'⟩ := t
  obtain rfl : names = names' := eq_of_ascending ascending ascending' h
  rfl

/-- What is filed under a key is what the register answers for it. -/
theorem Register.mem_entries_iff {α : Type} {r : Register α} {key : String} {a : α} :
    (key, a) ∈ r.entries ↔ r.get? key = some a := by
  obtain ⟨entries, ascending⟩ := r
  unfold get?
  simp only
  constructor
  · intro h
    induction entries with
    | nil => cases h
    | cons e entries ih =>
      obtain ⟨smaller, rest⟩ := List.pairwise_cons.mp ascending
      rcases List.mem_cons.mp h with rfl | h
      · simp
      · have hne : e.1 ≠ key := by
          rintro rfl
          exact String.lt_irrefl _ (smaller _ (List.mem_map_of_mem (f := (·.1)) h))
        rw [List.find?_cons_of_neg (by simpa using hne)]
        exact ih rest h
  · intro h
    obtain ⟨⟨k, b⟩, hfound, rfl⟩ := Option.map_eq_some_iff.mp h
    obtain rfl : k = key := by simpa using List.find?_some hfound
    exact List.mem_of_find?_eq_some hfound

theorem Register.ext_get? {α : Type} {r s : Register α} (h : ∀ key, r.get? key = s.get? key) : r = s := by
  have same : r.entries = s.entries :=
    eq_of_ascending_keys r.ascending s.ascending fun _ => by rw [mem_entries_iff, mem_entries_iff, h]
  cases r
  cases s
  cases same
  rfl

end PackageAudit
