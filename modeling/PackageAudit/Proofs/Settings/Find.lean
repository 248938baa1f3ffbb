import Mathlib.Data.Nat.Find
import PackageAudit.Proofs.FileTree.Ancestor
import PackageAudit.Settings.Load

/-!
# Where settings are found

Settings are looked for in a directory and then in those above it, as the equation `find?_eq` says: fuel never runs out,
since a path gets shorter with every step upwards. The search ends in the first directory that holds settings or a
repository (`EndsAt`), if there is one (`exists_endsAt`).

Main statement: what is found are the settings of that directory, and nothing if it has none or if there is no such
directory (`find?_reference`).
-/

namespace PackageAudit.Settings

variable {t : FileTree} {start directory parent : String} {steps fuel : Nat}

/-- Whether there are settings in a directory. -/
def HasSettings (t : FileTree) (directory : String) : Prop :=
  t.exists? (Path.join directory fileName) = true

/-- Whether a directory is the top of a repository. -/
def IsRepository (t : FileTree) (directory : String) : Prop :=
  t.exists? (Path.join directory repositoryMark) = true

/-- Whether the search goes no further than a directory. -/
def Stops (t : FileTree) (directory : String) : Prop :=
  HasSettings t directory ∨ IsRepository t directory

instance : DecidablePred (HasSettings t) := fun directory =>
  inferInstanceAs (Decidable (t.exists? (Path.join directory fileName) = true))

instance : DecidablePred (IsRepository t) := fun directory =>
  inferInstanceAs (Decidable (t.exists? (Path.join directory repositoryMark) = true))

/-- The directory in which the search from another one ends: the first one on the way upwards that stops it. -/
structure EndsAt (t : FileTree) (start : String) (steps : Nat) (directory : String) : Prop where
  reached : Path.ancestor? start steps = some directory
  stops : Stops t directory
  nearest : ∀ fewer < steps, ∀ below, Path.ancestor? start fewer = some below → ¬Stops t below

/-! ## The search as a loop -/

/-- Fuel above the length of a path makes no difference. -/
theorem findFrom_congr : ∀ {fuel fuel' : Nat} {directory : String}, directory.length < fuel →
    directory.length < fuel' → findFrom t fuel directory = findFrom t fuel' directory
  | fuel + 1, fuel' + 1, directory, h, h' => by
    rw [findFrom, findFrom]
    cases hp : Path.parent? directory with
    | none => rfl
    | some parent =>
      have shorter := Path.length_lt_of_parent? hp
      have same : findFrom t fuel parent = findFrom t fuel' parent := findFrom_congr (by omega) (by omega)
      rw [Option.bind_some, Option.bind_some, same]

/-- **The search** looks at a directory and goes on above it. -/
theorem find?_eq (t : FileTree) (directory : String) : find? t directory
    = if HasSettings t directory then some (Path.join directory fileName)
      else if IsRepository t directory then none
      else (Path.parent? directory).bind (find? t) := by
  rw [find?, findFrom]
  cases hp : Path.parent? directory with
  | none => rfl
  | some parent =>
    have shorter := Path.length_lt_of_parent? hp
    have same : findFrom t (directory.length + 1) parent = find? t parent := findFrom_congr (by omega) (by omega)
    rw [Option.bind_some, Option.bind_some, same]
    rfl

theorem find?_of_not_stops (h : ¬Stops t directory) : find? t directory = (Path.parent? directory).bind (find? t) := by
  obtain ⟨unset, outside⟩ := not_or.mp h
  rw [find?_eq, if_neg unset, if_neg outside]

/-! ## Where it ends -/

theorem find?_of_stops (h : Stops t directory) :
    find? t directory = if HasSettings t directory then some (Path.join directory fileName) else none := by
  rw [find?_eq]
  by_cases hs : HasSettings t directory
  · rw [if_pos hs, if_pos hs]
  · rw [if_neg hs, if_neg hs, if_pos (h.resolve_left hs)]

/-- A search that ends further up ends there when it begins one step further up. -/
theorem EndsAt.above (h : EndsAt t start (steps + 1) directory) :
    ¬Stops t start ∧ ∃ parent, Path.parent? start = some parent ∧ EndsAt t parent steps directory := by
  refine ⟨h.nearest 0 (Nat.zero_lt_succ steps) start rfl, ?_⟩
  have way := h.reached
  rw [Path.ancestor?_succ] at way
  obtain ⟨parent, hparent, reached⟩ := Option.bind_eq_some_iff.mp way
  refine ⟨parent, hparent, reached, h.stops, fun fewer less below hbelow => ?_⟩
  refine h.nearest (fewer + 1) (Nat.succ_lt_succ less) below ?_
  rw [Path.ancestor?_succ, hparent]
  exact hbelow

/-- What is found are the settings of the directory in which the search ends. -/
theorem EndsAt.find?_eq : ∀ {steps : Nat} {start : String}, EndsAt t start steps directory →
    find? t start = if HasSettings t directory then some (Path.join directory fileName) else none
  | 0, start, h => by
    obtain rfl := Option.some.inj h.reached
    exact find?_of_stops h.stops
  | steps + 1, start, h => by
    obtain ⟨goes_on, parent, hparent, above⟩ := h.above
    rw [find?_of_not_stops goes_on, hparent]
    exact above.find?_eq

theorem find?_eq_none {start : String} (h : ∀ steps directory, Path.ancestor? start steps = some directory →
    ¬Stops t directory) : find? t start = none := by
  rw [find?_of_not_stops (h 0 start rfl)]
  cases hp : Path.parent? start with
  | none => rfl
  | some parent =>
    have above : find? t parent = none := find?_eq_none fun steps directory reached => by
      refine h (steps + 1) directory ?_
      rw [Path.ancestor?_succ, hp]
      exact reached
    exact above
termination_by start.length
decreasing_by exact Path.length_lt_of_parent? hp

theorem exists_endsAt (reached : Path.ancestor? start steps = some directory) (stops : Stops t directory) :
    ∃ fewer ≤ steps, ∃ below, EndsAt t start fewer below := by
  classical
  have stopped : ∃ k, ∃ d, Path.ancestor? start k = some d ∧ Stops t d := ⟨steps, directory, reached, stops⟩
  obtain ⟨below, hbelow, first⟩ := Nat.find_spec stopped
  refine ⟨Nat.find stopped, Nat.find_min' stopped ⟨directory, reached, stops⟩, below, hbelow, first, ?_⟩
  intro fewer less between hbetween hstops
  exact Nat.find_min stopped less ⟨between, hbetween, hstops⟩

/-- The search ends somewhere, or nothing on the way upwards stops it. -/
theorem endsAt_or (t : FileTree) (start : String) : (∃ steps directory, EndsAt t start steps directory)
    ∨ ∀ steps directory, Path.ancestor? start steps = some directory → ¬Stops t directory := by
  by_cases stopped : ∃ steps directory, Path.ancestor? start steps = some directory ∧ Stops t directory
  · obtain ⟨steps, directory, reached, stops⟩ := stopped
    obtain ⟨fewer, -, below, ends⟩ := exists_endsAt reached stops
    exact .inl ⟨fewer, below, ends⟩
  · exact .inr fun steps directory reached stops => stopped ⟨steps, directory, reached, stops⟩

/-- A file that is found belongs to the directory in which the search ends. -/
theorem EndsAt.of_find? {file : String} (h : EndsAt t start steps directory) (found : find? t start = some file) :
    HasSettings t directory ∧ file = Path.join directory fileName := by
  rw [h.find?_eq] at found
  split at found
  next there => exact ⟨there, (Option.some.inj found).symm⟩
  next => cases found

/-- **Where settings are found**: in the first directory on the way upwards that holds settings or a repository, if it
holds settings; otherwise nowhere. The way upwards ends. Nothing above a repository is found, and what is found has no
settings below it. -/
theorem find?_reference (t : FileTree) (start : String) :
    Path.ancestor? start (start.length + 1) = none
      ∧ ((∃ steps directory, EndsAt t start steps directory
            ∧ find? t start = if HasSettings t directory then some (Path.join directory fileName) else none)
          ∨ (∀ steps directory, Path.ancestor? start steps = some directory → ¬Stops t directory)
            ∧ find? t start = none)
      ∧ (∀ steps directory file, Path.ancestor? start steps = some directory → IsRepository t directory →
          find? t start = some file →
          ∃ fewer ≤ steps, ∃ below, Path.ancestor? start fewer = some below ∧ file = Path.join below fileName)
      ∧ ∀ file, find? t start = some file → ∃ steps directory, Path.ancestor? start steps = some directory
          ∧ file = Path.join directory fileName ∧ HasSettings t directory
          ∧ ∀ fewer < steps, ∀ below, Path.ancestor? start fewer = some below → ¬HasSettings t below := by
  refine ⟨Path.ancestor?_eq_none_of_length_lt (Nat.lt_succ_self _), ?_, ?_, ?_⟩
  · rcases endsAt_or t start with ⟨steps, directory, ends⟩ | nowhere
    · exact .inl ⟨steps, directory, ends, ends.find?_eq⟩
    · exact .inr ⟨nowhere, find?_eq_none nowhere⟩
  · intro steps directory file reached repository found
    obtain ⟨fewer, le, below, ends⟩ := exists_endsAt reached (.inr repository)
    exact ⟨fewer, le, below, ends.reached, (ends.of_find? found).2⟩
  · intro file found
    rcases endsAt_or t start with ⟨steps, directory, ends⟩ | nowhere
    · obtain ⟨there, same⟩ := ends.of_find? found
      exact ⟨steps, directory, ends.reached, same, there,
        fun fewer less below reached settings => ends.nearest fewer less below reached (.inl settings)⟩
    · rw [find?_eq_none nowhere] at found
      cases found

/-- Settings beside a repository count, and those above it do not. -/
example :
    let repository := (({} : FileTree).set ["w"] .directory).set ["w", ".git"] .directory
    find? (repository.set ["w", ".tdqarc.json"] (.file [])) "/w/a" = some "/w/.tdqarc.json"
      ∧ find? (repository.set [".tdqarc.json"] (.file [])) "/w/a" = none := by
  decide +kernel

end PackageAudit.Settings
