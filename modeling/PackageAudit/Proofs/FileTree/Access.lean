import PackageAudit.Proofs.Failure
import PackageAudit.Proofs.FileTree.Path
import PackageAudit.Proofs.Ordered.Roster

/-!
# Files below a root

In a well-formed tree every name can be a name and stands in a directory (`FileTree.WellFormed`). There the files listed
below a root are the files that stand there, each once (`mem_filesBelow`, `nodup_filesBelow`), and the path of such a
file leads to it (`locate_foldl_join`): reading it gives the bytes of that file, as long as the path is not too long
(`read_foldl_join`).
-/

namespace PackageAudit.FileTree

variable {t : FileTree} {location : Location} {file : List String} {bytes : List UInt8}

/-- Every name can be a name, and every place is in a directory. -/
structure WellFormed (t : FileTree) : Prop where
  ne_root : ∀ p ∈ t.placed.items, p.location ≠ []
  isName : ∀ p ∈ t.placed.items, ∀ name ∈ p.location, IsName name
  parents : ∀ p ∈ t.placed.items, ∀ n < p.location.length, t.item? (p.location.take n) = some .directory

instance (t : FileTree) : Decidable t.WellFormed :=
  decidable_of_iff (∀ p ∈ t.placed.items, p.location ≠ [] ∧ (∀ name ∈ p.location, IsName name)
      ∧ ∀ n < p.location.length, t.item? (p.location.take n) = some .directory)
    ⟨fun h => ⟨fun p hp => (h p hp).1, fun p hp => (h p hp).2.1, fun p hp => (h p hp).2.2⟩,
      fun ⟨h₁, h₂, h₃⟩ p hp => ⟨h₁ p hp, h₂ p hp, h₃ p hp⟩⟩

/-! ## What stands at a location -/

theorem item?_eq_some_iff {item : Item} (h : location ≠ []) :
    t.item? location = some item ↔ ⟨location, item⟩ ∈ t.placed.items := by
  rw [item?, if_neg h, Option.map_eq_some_iff]
  constructor
  · rintro ⟨⟨location', item'⟩, hfind, rfl⟩
    obtain ⟨hmem, rfl⟩ := Roster.find?_eq_some_iff.mp hfind
    exact hmem
  · intro hmem
    exact ⟨_, Roster.find?_eq_some_iff.mpr ⟨hmem, rfl⟩, rfl⟩

theorem mem_of_item?_file (h : t.item? location = some (.file bytes)) : ⟨location, .file bytes⟩ ∈ t.placed.items := by
  refine (item?_eq_some_iff ?_).mp h
  rintro rfl
  cases h

theorem WellFormed.isName_of_file (ht : t.WellFormed) (h : t.item? (location ++ file) = some (.file bytes)) :
    ∀ name ∈ file, IsName name :=
  fun name hname => ht.isName _ (mem_of_item?_file h) name (List.mem_append_right _ hname)

theorem WellFormed.directory_of_file (ht : t.WellFormed) (h : t.item? (location ++ file) = some (.file bytes))
    {n : Nat} (hn : n < file.length) : t.item? (location ++ file.take n) = some .directory := by
  have hparent := ht.parents _ (mem_of_item?_file h) (location.length + n) (by simp; omega)
  rwa [List.take_length_add_append] at hparent

/-! ## The list of files -/

/-- **The files listed below a root** are those that stand there. -/
theorem WellFormed.mem_filesBelow (ht : t.WellFormed) :
    file ∈ t.filesBelow location ↔ ∃ bytes, t.item? (location ++ file) = some (.file bytes) := by
  unfold filesBelow
  rw [List.mem_filterMap]
  constructor
  · rintro ⟨⟨place, item⟩, hp, h⟩
    cases item with
    | directory => cases h
    | file bytes =>
      rw [Option.ite_none_right_eq_some, Bool.and_eq_true, List.isPrefixOf_iff_prefix] at h
      obtain ⟨⟨-, names, rfl⟩, hfile⟩ := h
      obtain rfl : names = file := by simpa using hfile
      exact ⟨bytes, (item?_eq_some_iff (ht.ne_root _ hp)).mpr hp⟩
  · rintro ⟨bytes, h⟩
    have hp := mem_of_item?_file h
    have reachable : t.isReachable (location ++ file) = true := by
      rw [isReachable, List.all_eq_true]
      intro n hn
      exact decide_eq_true (ht.parents _ hp n (List.mem_range.mp hn))
    have below : location.isPrefixOf (location ++ file) = true :=
      List.isPrefixOf_iff_prefix.mpr (List.prefix_append location file)
    refine ⟨_, hp, ?_⟩
    simp [reachable, below]

/-- **No file is listed twice.** -/
theorem nodup_filesBelow (t : FileTree) (location : Location) : (t.filesBelow location).Nodup := by
  -- in front of the names of a listed file stands its root, which gives its place; no two things have one place
  have places : ((t.filesBelow location).map (location ++ ·)).Sublist (t.placed.items.map Placed.location) := by
    unfold filesBelow
    induction t.placed.items with
    | nil => exact List.Sublist.refl _
    | cons p items ih =>
      rw [List.filterMap_cons]
      split
      next => exact ih.cons _
      next file hfile =>
        have place : location ++ file = p.location := by
          split at hfile
          next => cases hfile
          next =>
            rw [Option.ite_none_right_eq_some, Bool.and_eq_true, List.isPrefixOf_iff_prefix] at hfile
            obtain ⟨⟨-, names, hnames⟩, hdrop⟩ := hfile
            rw [← hnames] at hdrop ⊢
            simpa using hdrop.symm
        rw [List.map_cons, List.map_cons, place]
        exact ih.cons_cons _
  exact (t.placed.nodup.sublist places).of_map _

/-! ## The way to a file -/

/-- **One name after the other** leads from directory to directory. -/
theorem foldlM_step (h : ∀ n < file.length, t.item? (location ++ file.take n) = some .directory)
    (hn : ∀ name ∈ file, IsName name) : file.foldlM t.step location = .ok (location ++ file) := by
  induction file generalizing location with
  | nil => rw [List.append_nil]; rfl
  | cons name file ih =>
    have own : IsName name := hn name List.mem_cons_self
    have here : t.item? location = some .directory := by simpa using h 0 (by simp)
    have one : t.step location name = .ok (location ++ [name]) := by
      rw [step, here]
      simp only
      rw [if_neg own.ne_up, if_neg (Nat.not_lt.mpr own.size_le)]
    rw [List.foldlM_cons, one]
    show file.foldlM t.step (location ++ [name]) = _
    rw [ih ?_ fun n hm => hn n (List.mem_cons_of_mem name hm), List.append_assoc, List.singleton_append]
    intro n hlt
    have next := h (n + 1) (Nat.succ_lt_succ hlt)
    rwa [List.take_succ_cons, ← List.singleton_append, ← List.append_assoc] at next

/-- The directory at which a path begins. -/
def start (t : FileTree) (path : String) : Location :=
  if Path.isAbsolute path then [] else t.workingDirectory

theorem locate_dot (t : FileTree) : t.locate "." = .ok t.workingDirectory :=
  rfl

/-- A path that holds no NUL and is neither empty nor too long is followed name by name. -/
theorem locate_eq_foldlM {path : String} (hn : '\x00' ∉ path.toList) (hne : path ≠ "")
    (hsize : Text.Utf8.size path.toList < longestPath) :
    t.locate path = (Path.names path).foldlM t.step (t.start path) := by
  rw [locate, if_neg (mt List.contains_iff_mem.mp hn), if_neg hne, if_neg (Nat.not_le.mpr hsize)]
  rfl

/-- A path that leads somewhere is followed name by name. -/
theorem foldlM_of_locate {path : String} (h : t.locate path = .ok location) :
    (Path.names path).foldlM t.step (t.start path) = .ok location := by
  unfold locate at h
  split at h
  next => cases h
  next =>
    split at h
    next => cases h
    next =>
      split at h
      next => cases h
      next => exact h

theorem ne_empty_of_locate {root : String} (h : t.locate root = .ok location) : root ≠ "" := by
  rintro rfl
  cases h

theorem nul_notMem_of_locate {root : String} (h : t.locate root = .ok location) : '\x00' ∉ root.toList := by
  intro hm
  rw [locate, if_pos (List.contains_iff_mem.mpr hm)] at h
  cases h

theorem size_lt_of_locate {path : String} (h : t.locate path = .ok location) :
    Text.Utf8.size path.toList < longestPath := by
  unfold locate at h
  split at h
  next => cases h
  next =>
    split at h
    next => cases h
    next =>
      split at h
      next => cases h
      next short => exact Nat.not_le.mp short

/-- **The path of a file leads to it** unless it is too long. -/
theorem WellFormed.locate_foldl_join (ht : t.WellFormed) {root : String} (hroot : t.locate root = .ok location)
    (h : t.item? (location ++ file) = some (.file bytes))
    (hsize : Text.Utf8.size (file.foldl Path.join root).toList < longestPath) :
    t.locate (file.foldl Path.join root) = .ok (location ++ file) := by
  have path := Path.continues_foldl_join (ne_empty_of_locate hroot) (nul_notMem_of_locate hroot) (ht.isName_of_file h)
  have same_start : t.start (file.foldl Path.join root) = t.start root := by rw [start, path.isAbsolute_eq, start]
  rw [locate_eq_foldlM path.nul_notMem path.ne_empty hsize, path.names_eq, same_start, List.foldlM_append,
    foldlM_of_locate hroot]
  exact foldlM_step (fun _ hn => ht.directory_of_file h hn) (ht.isName_of_file h)

theorem itemAt_of_locate {path : String} (h : t.locate path = .ok location) : t.itemAt path
    = match t.item? location with
      | none => .error .notFound
      | some .directory => .ok .directory
      | some (.file bytes) => if asksForDirectory path then .error .notDirectory else .ok (.file bytes) := by
  rw [itemAt, h]
  rfl

/-- There is something at the end of a path that asks for no directory if there is something where it leads. -/
theorem exists?_of_locate {path : String} (h : t.locate path = .ok location) (asks : asksForDirectory path = false) :
    t.exists? path = (t.item? location).isSome := by
  unfold exists?
  rw [itemAt_of_locate h]
  cases t.item? location with
  | none => rfl
  | some item =>
    cases item with
    | directory => rfl
    | file bytes => simp only [asks]; rfl

theorem exists?_of_locate_error {path : String} {e : FileError} (h : t.locate path = .error e) :
    t.exists? path = false := by
  unfold exists? itemAt
  rw [h]
  rfl

/-- A file is written where nothing stands, at a path that asks for no directory. -/
theorem write_of_free {path : String} (h : t.locate path = .ok location) (free : t.item? location = none)
    (slash : Path.endsInSlash path = false) (dot : endsAtDot path = false) :
    t.write path bytes = .ok (t.set location (.file bytes)) := by
  unfold FileTree.write
  rw [h]
  simp only [bind, Except.bind, slash, dot, free]
  rfl

/-- A path that leads to a directory has the location of a directory. -/
theorem item?_of_isDirectory {path : String} (h : t.isDirectory path = true) (hlocate : t.locate path = .ok location) :
    t.item? location = some .directory := by
  rw [isDirectory, itemAt_of_locate hlocate] at h
  cases hi : t.item? location with
  | none => simp [hi] at h
  | some item =>
    cases item with
    | directory => rfl
    | file bytes =>
      cases ha : asksForDirectory path <;> simp [hi, ha] at h

/-- A path leads to a directory if one stands where it leads. -/
theorem isDirectory_iff {path : String} : t.isDirectory path = true
    ↔ ∃ location, t.locate path = .ok location ∧ t.item? location = some .directory := by
  constructor
  · intro h
    cases hl : t.locate path with
    | error e =>
      have nowhere : t.itemAt path = .error e := by rw [itemAt, hl]; rfl
      simp [isDirectory, nowhere] at h
    | ok location => exact ⟨location, rfl, item?_of_isDirectory h hl⟩
  · rintro ⟨location, hl, hd⟩
    rw [isDirectory, itemAt_of_locate hl, hd]

theorem asksForDirectory_foldl_join {root : String} (hr : root ≠ "") (hnul : '\x00' ∉ root.toList) (hf : file ≠ [])
    (hn : ∀ name ∈ file, IsName name) : asksForDirectory (file.foldl Path.join root) = false := by
  obtain rfl | ⟨before, last, rfl⟩ := List.eq_nil_or_concat file
  · exact absurd rfl hf
  · rw [List.concat_eq_append] at hn ⊢
    have own : IsName last := hn last (by simp)
    have path := (Path.continues_foldl_join hr hnul fun n hm => hn n (List.mem_append_left _ hm)).ne_empty
    rw [List.foldl_concat, asksForDirectory, Path.endsInSlash_join path own, Path.lastSegment?_join path own]
    simpa using own.ne_dot

/-- **Reading the path of a file** gives the bytes of that file, unless the path is too long. -/
theorem WellFormed.read_foldl_join (ht : t.WellFormed) {root : String} (hroot : t.locate root = .ok location)
    (hf : file ≠ []) (h : t.item? (location ++ file) = some (.file bytes))
    (hsize : Text.Utf8.size (file.foldl Path.join root).toList < longestPath) :
    t.read (file.foldl Path.join root) = .ok bytes := by
  have no_directory := asksForDirectory_foldl_join (ne_empty_of_locate hroot) (nul_notMem_of_locate hroot) hf
    (ht.isName_of_file h)
  have item : t.itemAt (file.foldl Path.join root) = .ok (.file bytes) := by
    rw [itemAt_of_locate (ht.locate_foldl_join hroot h hsize), h]
    simp only [no_directory]
    rfl
  rw [read, item]
  rfl

end PackageAudit.FileTree
