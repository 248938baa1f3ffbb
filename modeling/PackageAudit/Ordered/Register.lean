/-!
# Registers

A register files values under texts and lists them in the ascending order of the texts, each text once. The
order is that of code points, which is also the order of the UTF-8 bytes. A value is changed or filed by
`update`, which changes the answer of `get?` for its own key only (`get?_update`).
-/

namespace PackageAudit

/-- Values filed under keys, in ascending order of the keys. -/
structure Register (α : Type) where
  entries : List (String × α) := []
  ascending : (entries.map (·.1)).Pairwise (· < ·)

namespace Register

variable {α : Type}

theorem ascending_nil : (([] : List (String × α)).map (·.1)).Pairwise (· < ·) :=
  List.Pairwise.nil

def empty : Register α :=
  ⟨[], ascending_nil⟩

def keys (r : Register α) : List String :=
  r.entries.map (·.1)

def size (r : Register α) : Nat :=
  r.entries.length

def get? (r : Register α) (key : String) : Option α :=
  (r.entries.find? (·.1 == key)).map (·.2)

/-- The entries after the value under `key` has been changed, or filed where there was none. -/
def updateEntries (key : String) (change : Option α → α) : List (String × α) → List (String × α)
  | [] => [(key, change none)]
  | (k, a) :: rest =>
    if key < k then (key, change none) :: (k, a) :: rest
    else if k = key then (k, change (some a)) :: rest
    else (k, a) :: updateEntries key change rest

/-- A change adds its key and no other. -/
theorem mem_keys_updateEntries {key : String} {change : Option α → α} {entries : List (String × α)}
    {k : String} : k ∈ (updateEntries key change entries).map (·.1) ↔ k = key ∨ k ∈ entries.map (·.1) := by
  induction entries with
  | nil => simp [updateEntries]
  | cons e rest ih =>
    obtain ⟨k', a⟩ := e
    simp only [updateEntries]
    split
    · simp
    · split
      · next h => subst h; simp
      · simp only [List.map_cons, List.mem_cons, ih]
        constructor
        · rintro (h | h | h) <;> simp [h]
        · rintro (h | h | h) <;> simp [h]

/-- A change keeps the order. -/
theorem ascending_updateEntries {key : String} {change : Option α → α} {entries : List (String × α)}
    (h : (entries.map (·.1)).Pairwise (· < ·)) :
    ((updateEntries key change entries).map (·.1)).Pairwise (· < ·) := by
  induction entries with
  | nil => simp [updateEntries]
  | cons e rest ih =>
    obtain ⟨k, a⟩ := e
    obtain ⟨hk, hrest⟩ := List.pairwise_cons.mp h
    simp only [updateEntries]
    split
    · next hlt =>
      refine List.pairwise_cons.mpr ⟨fun x hx => ?_, h⟩
      rcases List.mem_cons.mp hx with rfl | hx
      · exact hlt
      · exact String.lt_trans hlt (hk x hx)
    · next hlt =>
      split
      · exact List.pairwise_cons.mpr ⟨hk, hrest⟩
      · next hne =>
        refine List.pairwise_cons.mpr ⟨fun x hx => ?_, ih hrest⟩
        rcases mem_keys_updateEntries.mp hx with rfl | hx
        · rcases Decidable.em (k < x) with hkx | hkx
          · exact hkx
          · exact absurd (String.le_antisymm (String.not_lt.mp hlt) (String.not_lt.mp hkx)) hne
        · exact hk x hx

/-- Changes the value under a key; `change` is given the value, or `none` where there is none yet. -/
def update (r : Register α) (key : String) (change : Option α → α) : Register α where
  entries := updateEntries key change r.entries
  ascending := ascending_updateEntries r.ascending

/-- What a change does to the answers: only its own key answers differently. -/
theorem get?_update (r : Register α) (key : String) (change : Option α → α) (k : String) :
    (r.update key change).get? k = if k = key then some (change (r.get? key)) else r.get? k := by
  obtain ⟨entries, ascending⟩ := r
  unfold get? update
  simp only
  induction entries with
  | nil =>
    by_cases h : k = key
    · simp [updateEntries, h]
    · simp [updateEntries, h, beq_eq_false_iff_ne.mpr (Ne.symm h)]
  | cons e rest ih =>
    obtain ⟨k', a⟩ := e
    obtain ⟨hk, hrest⟩ := List.pairwise_cons.mp ascending
    have ih := ih hrest
    have absent (hlt : key < k') : (((k', a) :: rest).find? (·.1 == key)) = none := by
      refine List.find?_eq_none.mpr fun x hx => ?_
      have : key < x.1 := by
        rcases List.mem_cons.mp hx with rfl | hx
        · exact hlt
        · exact String.lt_trans hlt (hk _ (List.mem_map_of_mem hx))
      simpa using fun h => String.lt_irrefl _ (h ▸ this)
    simp only [updateEntries]
    split
    · next hlt =>
      rw [absent hlt]
      by_cases h : k = key
      · simp [h]
      · rw [List.find?_cons, beq_eq_false_iff_ne.mpr (Ne.symm h), if_neg h]
    · split
      · next heq =>
        subst heq
        by_cases h : k = k'
        · simp [h]
        · simp [h, beq_eq_false_iff_ne.mpr (Ne.symm h)]
      · next hne =>
        by_cases h : k = k'
        · subst h; simp [hne]
        · simpa [List.find?_cons, beq_eq_false_iff_ne.mpr (Ne.symm h), beq_eq_false_iff_ne.mpr hne] using ih

theorem mem_keys_update {r : Register α} {key : String} {change : Option α → α} {k : String} :
    k ∈ (r.update key change).keys ↔ k = key ∨ k ∈ r.keys :=
  mem_keys_updateEntries

theorem isSome_get?_iff {r : Register α} {key : String} : (r.get? key).isSome ↔ key ∈ r.keys := by
  simp [get?, keys, List.find?_isSome]

end Register
end PackageAudit
