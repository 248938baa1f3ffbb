/-!
# Rosters

A roster lists definitions in the order in which their names first appeared. A later definition of a name takes
the place of the earlier one, so names are distinct and the number of a definition stands for one name for
ever.
-/

namespace PackageAudit

/-- Named definitions, numbered in the order of the first appearance of their names. -/
structure Roster (α : Type) {κ : Type} (name : α → κ) where
  items : List α := []
  nodup : (items.map name).Nodup := by exact List.nodup_nil

namespace Roster

variable {α κ : Type} [DecidableEq κ] {name : α → κ}

def id? (r : Roster α name) (n : κ) : Option Nat :=
  r.items.findIdx? (name · == n)

def find? (r : Roster α name) (n : κ) : Option α :=
  r.items.find? (name · == n)

def get? (r : Roster α name) (id : Nat) : Option α :=
  r.items[id]?

def size (r : Roster α name) : Nat :=
  r.items.length

/-- The definitions after one more: it takes the place of the one with its name, or comes last. -/
def putItems (name : α → κ) (items : List α) (a : α) : List α :=
  match items.findIdx? (name · == name a) with
  | some id => items.set id a
  | none => items ++ [a]

/-- Replacing a definition keeps the names, and a new one adds its name at the end. -/
theorem map_putItems (items : List α) (a : α) :
    (putItems name items a).map name
      = if name a ∈ items.map name then items.map name else items.map name ++ [name a] := by
  unfold putItems
  split
  · next id h =>
    obtain ⟨hlt, hid, -⟩ := List.findIdx?_eq_some_iff_getElem.mp h
    have hname : name items[id] = name a := by simpa using hid
    have hmem : name a ∈ items.map name := hname ▸ List.mem_map_of_mem (List.getElem_mem hlt)
    rw [if_pos hmem, List.map_set, ← hname]
    refine List.ext_getElem (by simp) fun i _ _ => ?_
    rw [List.getElem_set]
    split <;> simp_all
  · next h =>
    have hmem : name a ∉ items.map name := by
      intro hm
      obtain ⟨b, hb, hn⟩ := List.mem_map.mp hm
      have := List.findIdx?_eq_none_iff.mp h b hb
      simp [hn] at this
    rw [if_neg hmem]; simp

/-- Adds a definition. -/
def put (r : Roster α name) (a : α) : Roster α name where
  items := putItems name r.items a
  nodup := by
    rw [map_putItems]
    split
    · exact r.nodup
    · next h =>
      exact List.nodup_append.mpr ⟨r.nodup, by simp, fun x hx y hy => by
        rintro rfl; exact h (List.mem_singleton.mp hy ▸ hx)⟩

theorem size_le_size_put (r : Roster α name) (a : α) : r.size ≤ (r.put a).size := by
  show r.items.length ≤ (putItems name r.items a).length
  unfold putItems
  split <;> simp

theorem lt_size_of_id? {r : Roster α name} {n : κ} {id : Nat} (h : r.id? n = some id) : id < r.size := by
  obtain ⟨hlt, -⟩ := List.findIdx?_eq_some_iff_getElem.mp h
  exact hlt

/-- The definitions that satisfy a predicate. -/
def filter (r : Roster α name) (keep : α → Bool) : Roster α name where
  items := r.items.filter keep
  nodup := r.nodup.sublist (List.filter_sublist.map name)

end Roster

end PackageAudit
