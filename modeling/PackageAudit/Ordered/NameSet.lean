/-!
# Sets of names

A set of names is listed in ascending order, each name once. What an operation does is said by
which names are members of its result (`mem_insert`, `mem_inter`, `mem_diff`, `mem_union`).
-/

namespace PackageAudit

/-- A finite set of names, in ascending order. -/
structure NameSet where
  names : List String := []
  ascending : names.Pairwise (· < ·) := by exact List.Pairwise.nil
  deriving DecidableEq

namespace NameSet

instance : Membership String NameSet := ⟨fun s name => name ∈ s.names⟩

instance {name : String} {s : NameSet} : Decidable (name ∈ s) :=
  inferInstanceAs (Decidable (name ∈ s.names))

def empty : NameSet := {}

/-- The names after one more. -/
def insertName (name : String) : List String → List String
  | [] => [name]
  | n :: rest =>
    if name < n then name :: n :: rest
    else if n = name then n :: rest
    else n :: insertName name rest

/-- Inserting a name adds it and no other. -/
theorem mem_insertName {name n : String} {names : List String} :
    n ∈ insertName name names ↔ n = name ∨ n ∈ names := by
  induction names with
  | nil => simp [insertName]
  | cons m rest ih =>
    simp only [insertName]
    split
    · simp
    · split
      · next h => subst h; simp
      · simp only [List.mem_cons, ih]
        constructor
        · rintro (h | h | h) <;> simp [h]
        · rintro (h | h | h) <;> simp [h]

/-- Inserting a name keeps the order. -/
theorem ascending_insertName {name : String} {names : List String} (h : names.Pairwise (· < ·)) :
    (insertName name names).Pairwise (· < ·) := by
  induction names with
  | nil => simp [insertName]
  | cons n rest ih =>
    obtain ⟨hn, hrest⟩ := List.pairwise_cons.mp h
    simp only [insertName]
    split
    · next hlt =>
      refine List.pairwise_cons.mpr ⟨fun x hx => ?_, h⟩
      rcases List.mem_cons.mp hx with rfl | hx
      · exact hlt
      · exact String.lt_trans hlt (hn x hx)
    · next hlt =>
      split
      · exact h
      · next hne =>
        refine List.pairwise_cons.mpr ⟨fun x hx => ?_, ih hrest⟩
        rcases mem_insertName.mp hx with rfl | hx
        · rcases Decidable.em (n < x) with hnx | hnx
          · exact hnx
          · exact absurd (String.le_antisymm (String.not_lt.mp hlt) (String.not_lt.mp hnx)) hne
        · exact hn x hx

def insert (s : NameSet) (name : String) : NameSet where
  names := insertName name s.names
  ascending := ascending_insertName s.ascending

/-- A set with the names of a list added. -/
def insertAll (s : NameSet) (names : List String) : NameSet :=
  names.foldl insert s

def ofList (names : List String) : NameSet :=
  empty.insertAll names

/-- The members that satisfy a predicate. -/
def filter (s : NameSet) (keep : String → Bool) : NameSet where
  names := s.names.filter keep
  ascending := s.ascending.filter keep

/-- The members that are in another set too. -/
def inter (s t : NameSet) : NameSet :=
  s.filter (· ∈ t)

/-- The members that are not in another set. -/
def diff (s t : NameSet) : NameSet :=
  s.filter (· ∉ t)

def union (s t : NameSet) : NameSet :=
  s.insertAll t.names

theorem mem_def {s : NameSet} {name : String} : name ∈ s ↔ name ∈ s.names := Iff.rfl

@[simp] theorem notMem_empty (name : String) : name ∉ empty := List.not_mem_nil

@[simp] theorem mem_insert {s : NameSet} {name n : String} : n ∈ s.insert name ↔ n = name ∨ n ∈ s :=
  mem_insertName

@[simp] theorem mem_insertAll {s : NameSet} {names : List String} {n : String} :
    n ∈ s.insertAll names ↔ n ∈ names ∨ n ∈ s := by
  induction names generalizing s with
  | nil => simp [insertAll]
  | cons m rest ih =>
    show n ∈ (s.insert m).insertAll rest ↔ _
    rw [ih, mem_insert, List.mem_cons]
    constructor
    · rintro (h | h | h) <;> simp [h]
    · rintro ((h | h) | h) <;> simp [h]

@[simp] theorem mem_ofList {names : List String} {n : String} : n ∈ ofList names ↔ n ∈ names := by
  simp [ofList]

@[simp] theorem mem_filter {s : NameSet} {keep : String → Bool} {n : String} :
    n ∈ s.filter keep ↔ n ∈ s ∧ keep n = true :=
  List.mem_filter

@[simp] theorem mem_inter {s t : NameSet} {n : String} : n ∈ s.inter t ↔ n ∈ s ∧ n ∈ t := by
  simp [inter]

@[simp] theorem mem_diff {s t : NameSet} {n : String} : n ∈ s.diff t ↔ n ∈ s ∧ n ∉ t := by
  simp [diff]

@[simp] theorem mem_union {s t : NameSet} {n : String} : n ∈ s.union t ↔ n ∈ s ∨ n ∈ t := by
  rw [union, mem_insertAll, or_comm]
  rfl

end NameSet
end PackageAudit
