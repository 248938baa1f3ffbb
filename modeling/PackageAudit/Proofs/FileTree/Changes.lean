import PackageAudit.Proofs.FileTree.Access
import PackageAudit.Proofs.Lists

/-!
# Trees stay well-formed

A path is followed name by name, so the location that it leads to consists of names and stands in directories
(`Reached`, `WellFormed.reached_of_locate`). What a change puts there stands in a directory, and what it removes goes
with everything below it. So changes keep a tree well-formed (`WellFormed.set`, `WellFormed.without`), and every tree
that is made of nothing by changes is (`Made.wellFormed`).
-/

namespace PackageAudit.FileTree

variable {t : FileTree} {location : Location}

/-- A location of names, with directories on the way to it. -/
structure Reached (t : FileTree) (location : Location) : Prop where
  isName : ∀ name ∈ location, IsName name
  parents : ∀ n < location.length, t.item? (location.take n) = some .directory

/-! ## Following a path -/

theorem reached_nil (t : FileTree) : t.Reached [] :=
  ⟨fun _ hm => absurd hm List.not_mem_nil, fun _ hn => absurd hn (Nat.not_lt_zero _)⟩

theorem WellFormed.reached (ht : t.WellFormed) {item : Item} (h : t.item? location = some item) :
    t.Reached location := by
  by_cases hroot : location = []
  · subst hroot
    exact t.reached_nil
  · have hp := (item?_eq_some_iff hroot).mp h
    exact ⟨ht.isName _ hp, ht.parents _ hp⟩

/-- What stands between the slashes of a path and says something: a name, unless it leads up or is too long. -/
structure IsSegment (name : String) : Prop where
  ne_empty : name ≠ ""
  ne_dot : name ≠ "."
  slash_notMem : '/' ∉ name.toList
  nul_notMem : '\x00' ∉ name.toList

/-- One segment leads from a directory to a location that is reached. -/
theorem WellFormed.reached_step (ht : t.WellFormed) {here there : Location} {name : String}
    (h : t.step here name = .ok there) (hs : IsSegment name) : t.Reached there := by
  unfold step at h
  split at h
  next => cases h
  next => cases h
  next hhere =>
    have hr := ht.reached hhere
    split at h
    -- a step up
    next =>
      cases h
      refine ⟨fun n hn => hr.isName n (List.dropLast_subset _ hn), fun n hn => ?_⟩
      rw [List.length_dropLast] at hn
      have hparent := hr.parents n (by omega)
      rwa [List.dropLast_eq_take, List.take_take, Nat.min_eq_left (by omega)]
    next hup =>
      split at h
      next => cases h
      next hsize =>
        cases h
        constructor
        · intro n hn
          rcases List.mem_append.mp hn with hn | hn
          · exact hr.isName n hn
          · rw [List.mem_singleton.mp hn]
            exact ⟨hs.ne_empty, hs.ne_dot, hup, hs.slash_notMem, hs.nul_notMem, Nat.not_lt.mp hsize⟩
        · intro n hn
          rw [List.length_append, List.length_singleton] at hn
          rw [List.take_append_of_le_length (by omega)]
          by_cases hlast : n = here.length
          · rw [hlast, List.take_length]
            exact hhere
          · exact hr.parents n (by omega)

theorem isSegment_of_mem_names {path name : String} (hn : '\x00' ∉ path.toList) (h : name ∈ Path.names path) :
    IsSegment name := by
  obtain ⟨hsegment, hidle⟩ := List.mem_filter.mp h
  obtain ⟨segment, hmem, rfl⟩ := List.mem_map.mp hsegment
  have between {x : Char} (hx : x ∈ (String.ofList segment).toList) : x ∈ path.toList ∧ x ≠ '/' :=
    mem_of_mem_splitOn hmem (by rwa [String.toList_ofList] at hx)
  rw [Bool.and_eq_true, decide_eq_true_iff, decide_eq_true_iff] at hidle
  exact ⟨hidle.1, hidle.2, fun hx => (between hx).2 rfl, fun hx => hn (between hx).1⟩

/-- **One segment after the other** leads to a location that is reached. -/
theorem WellFormed.reached_foldlM (ht : t.WellFormed) {names : List String} (hn : ∀ name ∈ names, IsSegment name) :
    ∀ {here : Location}, t.Reached here → names.foldlM t.step here = .ok location → t.Reached location := by
  induction names with
  | nil =>
    intro here hr h
    cases h
    exact hr
  | cons name names ih =>
    intro here _ h
    rw [List.foldlM_cons] at h
    obtain ⟨there, hstep, h⟩ := exists_of_bind_eq_ok h
    exact ih (fun n hm => hn n (List.mem_cons_of_mem name hm)) (ht.reached_step hstep (hn name List.mem_cons_self)) h

/-- **A path leads** to a location of names with directories on the way to it. -/
theorem WellFormed.reached_of_locate (ht : t.WellFormed) (hw : t.Reached t.workingDirectory) {path : String}
    (h : t.locate path = .ok location) : t.Reached location := by
  refine ht.reached_foldlM (fun _ => isSegment_of_mem_names (nul_notMem_of_locate h)) ?_ (foldlM_of_locate h)
  unfold start
  split
  · exact t.reached_nil
  · exact hw

/-! ## Changes -/

/-- Where an item is put, it stands; elsewhere stands what stood there. -/
theorem item?_set (h : location ≠ []) (item : Item) (other : Location) :
    (t.set location item).item? other = if other = location then some item else t.item? other := by
  by_cases hroot : other = []
  · subst hroot
    rw [if_neg (Ne.symm h)]
    rfl
  · rw [FileTree.item?, if_neg hroot, FileTree.set, Roster.find?_put]
    by_cases hsame : location = other
    · rw [if_pos hsame, if_pos hsame.symm]
      rfl
    · rw [if_neg hsame, if_neg (Ne.symm hsame), FileTree.item?, if_neg hroot]

/-- **An item that is put where no directory stands**, in a directory and under a name, keeps a tree well-formed. -/
theorem WellFormed.set (ht : t.WellFormed) (hr : t.Reached location) (hd : t.item? location ≠ some .directory)
    (item : Item) : (t.set location item).WellFormed := by
  have hne : location ≠ [] := by
    rintro rfl
    exact hd rfl
  have kept {n : Nat} {place : Location} (h : t.item? (place.take n) = some .directory) :
      (t.set location item).item? (place.take n) = some .directory := by
    rw [item?_set hne, if_neg, h]
    intro hsame
    exact hd (hsame ▸ h)
  have placed {p : Placed} (hp : p ∈ (t.set location item).placed.items) :
      p.location = location ∨ p ∈ t.placed.items :=
    (Roster.mem_put_iff.mp hp).imp (congrArg Placed.location) And.left
  constructor
  · intro p hp
    rcases placed hp with h | hp
    · exact h ▸ hne
    · exact ht.ne_root p hp
  · intro p hp
    rcases placed hp with h | hp
    · exact h ▸ hr.isName
    · exact ht.isName p hp
  · intro p hp n hn
    rcases placed hp with h | hp
    · rw [h] at hn ⊢
      exact kept (hr.parents n hn)
    · exact kept (ht.parents p hp n hn)

/-- Nothing but what stands at a location and below it is removed. -/
def without (t : FileTree) (location : Location) : FileTree :=
  { t with placed := t.placed.filter fun p => !location.isPrefixOf p.location }

/-- Removing a location with everything below it keeps a tree well-formed. -/
theorem WellFormed.without (ht : t.WellFormed) (location : Location) : (t.without location).WellFormed := by
  refine ⟨fun p hp => ht.ne_root p (List.mem_filter.mp hp).1, fun p hp => ht.isName p (List.mem_filter.mp hp).1, ?_⟩
  intro p hp n hn
  obtain ⟨hp, hkept⟩ := List.mem_filter.mp hp
  have hparent := ht.parents p hp n hn
  by_cases hroot : p.location.take n = []
  · rw [hroot]
    rfl
  -- what stands above something that is kept does not stand below what is removed, either
  · refine (item?_eq_some_iff hroot).mpr (List.mem_filter.mpr ⟨(item?_eq_some_iff hroot).mp hparent, ?_⟩)
    rw [Bool.not_eq_true', ← Bool.not_eq_true, List.isPrefixOf_iff_prefix] at hkept ⊢
    exact fun habove => hkept (habove.trans (List.take_prefix n p.location))

/-- Writing puts a file where no directory stands. -/
theorem exists_set_of_write {path : String} {bytes : List UInt8} {t' : FileTree} (h : t.write path bytes = .ok t') :
    ∃ location, t.locate path = .ok location ∧ t.item? location ≠ some .directory
      ∧ t' = t.set location (.file bytes) := by
  obtain ⟨location, hlocate, h⟩ := exists_of_bind_eq_ok h
  split at h
  next => cases h
  next =>
    split at h
    next => cases h
    next => cases h
    next => cases h
    next no_directory =>
      cases h
      exact ⟨location, hlocate, no_directory, rfl⟩

theorem exists_set_of_makeDirectory {path : String} {t' : FileTree} (h : t.makeDirectory path = .ok t') :
    ∃ location, t.locate path = .ok location ∧ t.item? location = none ∧ t' = t.set location .directory := by
  obtain ⟨location, hlocate, h⟩ := exists_of_bind_eq_ok h
  split at h
  next => cases h
  next => cases h
  next => cases h
  next free _ =>
    cases h
    exact ⟨location, hlocate, free, rfl⟩

theorem exists_without_of_remove {path : String} {t' : FileTree} (h : t.remove path = .ok t') :
    ∃ location, t.locate path = .ok location ∧ t' = t.without location := by
  obtain ⟨_, -, h⟩ := exists_of_bind_eq_ok h
  obtain ⟨location, hlocate, h⟩ := exists_of_bind_eq_ok h
  cases h
  exact ⟨location, hlocate, rfl⟩

/-- The trees that are made of nothing by changes, seen from the root. -/
inductive Made : FileTree → Prop
  | empty : Made {}
  | write {t t' : FileTree} {path : String} {bytes : List UInt8} (made : Made t) (h : t.write path bytes = .ok t') :
      Made t'
  | makeDirectory {t t' : FileTree} {path : String} (made : Made t) (h : t.makeDirectory path = .ok t') : Made t'
  | remove {t t' : FileTree} {path : String} (made : Made t) (h : t.remove path = .ok t') : Made t'

/-- **Every tree that is made is well-formed.** -/
theorem Made.wellFormed (h : Made t) : t.WellFormed ∧ t.workingDirectory = [] := by
  induction h with
  | empty => exact ⟨⟨fun _ hp => absurd hp List.not_mem_nil, fun _ hp => absurd hp List.not_mem_nil,
      fun _ hp => absurd hp List.not_mem_nil⟩, rfl⟩
  | @write t _ _ _ _ h ih =>
    obtain ⟨ht, hw⟩ := ih
    obtain ⟨location, hlocate, hd, rfl⟩ := exists_set_of_write h
    exact ⟨ht.set (ht.reached_of_locate (hw ▸ t.reached_nil) hlocate) hd _, hw⟩
  | @makeDirectory t _ _ _ h ih =>
    obtain ⟨ht, hw⟩ := ih
    obtain ⟨location, hlocate, hfree, rfl⟩ := exists_set_of_makeDirectory h
    exact ⟨ht.set (ht.reached_of_locate (hw ▸ t.reached_nil) hlocate) (by simp [hfree]) _, hw⟩
  | remove _ h ih =>
    obtain ⟨ht, hw⟩ := ih
    obtain ⟨location, -, rfl⟩ := exists_without_of_remove h
    exact ⟨ht.without location, hw⟩

end PackageAudit.FileTree
