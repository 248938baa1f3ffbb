import PackageAudit.Proofs.FileTree.Changes
import PackageAudit.Proofs.Text.Utf8

/-!
# Trees that grow

Writing a file and making directories let a tree grow: its directories stay (`Grown`). A path that leads to a location
of the old tree leads to it in the new one (`Grown.locate`), so a file that was written can be read at the path to which
it was written (`read_of_write`).

Making a directory puts it where nothing stood and changes nothing else (`Widened`, `widened_makeDirectory`), and what
making one directory keeps, making directories keeps (`makeDirectoriesFrom_keeps`); if it comes to its end the directory
is there (`isDirectory_of_makeDirectories`). A file that was written after that is all that is new (`Written`): what can
be read at a path that leads neither to it nor through the new directories is what could be read before
(`Written.read_of_clear`), and no other file is listed (`Written.mem_filesBelow`).
-/

namespace PackageAudit.FileTree

variable {t t' t'' : FileTree} {location : Location} {path : String}

/-! ## Growing -/

/-- Whether the directories of a tree are still there, seen from the same working directory. -/
structure Grown (t t' : FileTree) : Prop where
  workingDirectory : t'.workingDirectory = t.workingDirectory
  directory : ∀ {location : Location}, t.item? location = some .directory → t'.item? location = some .directory

theorem Grown.step (h : Grown t t') {here there : Location} {name : String} (hs : t.step here name = .ok there) :
    t'.step here name = .ok there := by
  unfold FileTree.step at hs ⊢
  split at hs
  next => cases hs
  next => cases hs
  next hd => rw [h.directory hd]; exact hs

theorem Grown.foldlM_step (h : Grown t t') {names : List String} : ∀ {here : Location},
    names.foldlM t.step here = .ok location → names.foldlM t'.step here = .ok location := by
  induction names with
  | nil => exact id
  | cons name names ih =>
    intro here hn
    rw [List.foldlM_cons] at hn ⊢
    obtain ⟨there, hstep, hn⟩ := exists_of_bind_eq_ok hn
    rw [h.step hstep]
    exact ih hn

/-- **A path leads where it led.** -/
theorem Grown.locate (h : Grown t t') (hl : t.locate path = .ok location) : t'.locate path = .ok location := by
  unfold FileTree.locate at hl ⊢
  rw [h.workingDirectory]
  split at hl
  next => cases hl
  next nul =>
    rw [if_neg nul]
    split at hl
    next => cases hl
    next nonempty =>
      rw [if_neg nonempty]
      split at hl
      next => cases hl
      next short => rw [if_neg short]; exact h.foldlM_step hl

theorem Grown.isDirectory (h : Grown t t') (hd : t.isDirectory path = true) : t'.isDirectory path = true := by
  obtain ⟨location, hl, hi⟩ := isDirectory_iff.mp hd
  exact isDirectory_iff.mpr ⟨location, h.locate hl, h.directory hi⟩

theorem ne_nil_of_item?_ne_directory (h : t.item? location ≠ some .directory) : location ≠ [] := by
  rintro rfl
  exact h rfl

theorem grown_set (h : t.item? location ≠ some .directory) (item : Item) : Grown t (t.set location item) := by
  refine ⟨rfl, fun {other} hd => ?_⟩
  rw [item?_set (ne_nil_of_item?_ne_directory h), if_neg, hd]
  rintro rfl
  exact h hd

/-! ## Reading what was written -/

/-- A path at which a file can be written does not ask for a directory. -/
theorem asksForDirectory_of_write {bytes : List UInt8} (h : t.write path bytes = .ok t') :
    asksForDirectory path = false := by
  obtain ⟨location, -, h⟩ := exists_of_bind_eq_ok h
  split at h
  next => cases h
  next slash =>
    have no_dot : endsAtDot path = false := by
      split at h
      next => cases h
      next => cases h
      next => cases h
      next no_dot _ => exact no_dot
    rw [no_dot, Bool.not_false, Bool.and_true] at slash
    rw [endsAtDot, Bool.or_eq_false_iff] at no_dot
    rw [asksForDirectory, no_dot.1, Bool.or_false]
    exact Bool.eq_false_iff.mpr slash

/-- **What was written can be read** at the same path. -/
theorem read_of_write {bytes : List UInt8} (h : t.write path bytes = .ok t') : t'.read path = .ok bytes := by
  obtain ⟨location, hl, hd, rfl⟩ := exists_set_of_write h
  have written : (t.set location (.file bytes)).item? location = some (.file bytes) := by
    rw [item?_set (ne_nil_of_item?_ne_directory hd), if_pos rfl]
  have item : (t.set location (.file bytes)).itemAt path = .ok (.file bytes) := by
    rw [itemAt_of_locate ((grown_set hd _).locate hl), written]
    simp only [asksForDirectory_of_write h]
    rfl
  rw [read, item]
  rfl

theorem toOption_readText (t : FileTree) (path : String) :
    (t.readText path).toOption = (t.read path).toOption.bind Text.Utf8.decode? := by
  unfold readText
  cases t.read path with
  | error e => rfl
  | ok bytes =>
    simp only [bind, Except.bind, Except.toOption, Option.bind_some]
    cases Text.Utf8.decode? bytes <;> rfl

theorem readText_of_read {text : List Char} (h : t.read path = .ok (Text.Utf8.encode text)) :
    t.readText path = .ok text := by
  rw [← toOption_eq_some_iff, toOption_readText, h]
  exact Text.Utf8.decode?_encode text

theorem set_of_item? (hne : location ≠ []) {item : Item} (h : t.item? location = some item) :
    t.set location item = t := by
  unfold FileTree.set
  rw [Roster.put_of_mem ((item?_eq_some_iff hne).mp h)]

/-- Writing the same bytes again changes nothing. -/
theorem write_of_write {bytes : List UInt8} (h : t.write path bytes = .ok t') : t'.write path bytes = .ok t' := by
  obtain ⟨location, hl, hd, rfl⟩ := exists_set_of_write h
  have hne := ne_nil_of_item?_ne_directory hd
  have written : (t.set location (.file bytes)).item? location = some (.file bytes) := by
    rw [item?_set hne, if_pos rfl]
  unfold FileTree.write at h ⊢
  rw [hl] at h
  rw [(grown_set hd _).locate hl]
  simp only [bind, Except.bind, written, set_of_item? hne written] at h ⊢
  split at h
  next => cases h
  next no_slash =>
    rw [if_neg no_slash]
    split at h
    next => cases h
    next => cases h
    next => cases h
    next no_dot _ => rw [no_dot]

/-! ## Making directories -/

/-- Whether a tree has got some directories where nothing stood, and is the same elsewhere. -/
structure Widened (t t' : FileTree) : Prop where
  workingDirectory : t'.workingDirectory = t.workingDirectory
  item? : ∀ location, t'.item? location = t.item? location
    ∨ t.item? location = none ∧ t'.item? location = some .directory

theorem Widened.grown (h : Widened t t') : Grown t t' := by
  refine ⟨h.workingDirectory, fun {location} hd => ?_⟩
  rcases h.item? location with same | ⟨free, -⟩
  · rw [same, hd]
  · rw [hd] at free
    cases free

theorem widened_makeDirectory (h : t.makeDirectory path = .ok t') : Widened t t' := by
  obtain ⟨location, -, free, rfl⟩ := exists_set_of_makeDirectory h
  have no_directory : t.item? location ≠ some .directory := by simp [free]
  refine ⟨rfl, fun other => ?_⟩
  rw [item?_set (ne_nil_of_item?_ne_directory no_directory)]
  split
  next own => exact Or.inr ⟨own ▸ free, rfl⟩
  next => exact Or.inl rfl

theorem isDirectory_of_makeDirectory (h : t.makeDirectory path = .ok t') : t'.isDirectory path = true := by
  have grown := (widened_makeDirectory h).grown
  obtain ⟨location, hl, free, rfl⟩ := exists_set_of_makeDirectory h
  have no_directory : t.item? location ≠ some .directory := by simp [free]
  refine isDirectory_iff.mpr ⟨location, grown.locate hl, ?_⟩
  rw [item?_set (ne_nil_of_item?_ne_directory no_directory), if_pos rfl]

/-- What making one directory keeps, making directories keeps, whether it comes to its end or not. Of the paths at which
directories are made it is enough to know what a parent has in common with its path. -/
theorem makeDirectoriesFrom_keeps {R : FileTree → FileTree → Prop} {P : String → Prop} (refl : ∀ t, R t t)
    (trans : ∀ {t t' t''}, R t t' → R t' t'' → R t t'')
    (up : ∀ {path parent}, P path → Path.parent? path = some parent → P parent)
    (one : ∀ {t t' path}, P path → t.makeDirectory path = .ok t' → R t t') (fuel : Nat) :
    ∀ (t : FileTree) (path : String), P path → R t (makeDirectoriesFrom fuel t path).1 := by
  induction fuel with
  | zero => exact fun t _ _ => refl t
  | succ fuel ih =>
    intro t path own
    unfold makeDirectoriesFrom
    split
    next => exact refl t
    next =>
      split
      next made => exact one own made
      next =>
        split
        next => exact refl t
        next parent hparent =>
          have above := ih t parent (up own hparent)
          split
          next failed => rw [failed] at above; exact above
          next made =>
            rw [made] at above
            split
            next last => exact trans above (one own last)
            next => exact above
      next => exact refl t

/-- Directories that were made are there. -/
theorem isDirectory_of_makeDirectoriesFrom (fuel : Nat) (hne : path ≠ "")
    (h : (makeDirectoriesFrom fuel t path).2 = none) : (makeDirectoriesFrom fuel t path).1.isDirectory path = true := by
  have there {e : FileError} {s : FileTree} (h : (if s.isDirectory path then none else some e) = none) :
      s.isDirectory path = true := by
    by_contra hd
    rw [if_neg hd] at h
    cases h
  cases fuel with
  | zero => cases h
  | succ fuel =>
    unfold makeDirectoriesFrom at h ⊢
    rw [if_neg hne] at h ⊢
    split at h
    next made => exact isDirectory_of_makeDirectory made
    next =>
      split at h
      next => cases h
      next =>
        split at h
        next => cases h
        next =>
          split at h
          next last => exact isDirectory_of_makeDirectory last
          next => exact there h
    next => exact there h

/-- **Directories that were made are there**: making them comes to its end only if the path leads to a directory. -/
theorem isDirectory_of_makeDirectories (hne : path ≠ "") (h : (t.makeDirectories path).2 = none) :
    (t.makeDirectories path).1.isDirectory path = true :=
  isDirectory_of_makeDirectoriesFrom _ hne h

theorem makeDirectories_of_isDirectory (h : t.isDirectory path = true) : t.makeDirectories path = (t, none) := by
  obtain ⟨location, hl, hd⟩ := isDirectory_iff.mp h
  have there : t.makeDirectory path = .error .alreadyExists := by
    unfold makeDirectory
    rw [hl]
    simp only [bind, Except.bind, hd]
  rw [makeDirectories, makeDirectoriesFrom, if_neg (ne_empty_of_locate hl), there]
  simp only [h, if_true]

/-! ## Sound trees -/

/-- Whether a tree is well-formed and seen from one of its directories. -/
structure Sound (t : FileTree) : Prop where
  wellFormed : t.WellFormed
  here : t.item? t.workingDirectory = some .directory

/-- What is put where a path leads keeps a tree sound, if no directory stands there. -/
theorem Sound.set (h : t.Sound) (hl : t.locate path = .ok location) (hd : t.item? location ≠ some .directory)
    (item : Item) : (t.set location item).Sound where
  wellFormed := h.wellFormed.set (h.wellFormed.reached_of_locate (h.wellFormed.reached h.here) hl) hd item
  here := (grown_set hd item).directory h.here

theorem Sound.makeDirectories (h : t.Sound) (path : String) : (t.makeDirectories path).1.Sound := by
  refine makeDirectoriesFrom_keeps (R := fun t t' => t.Sound → t'.Sound) (P := fun _ => True) (fun _ => id)
    (fun f g h => g (f h)) (fun _ _ => trivial) ?_ _ t path trivial h
  intro t t' path _ made h
  obtain ⟨location, hl, free, rfl⟩ := exists_set_of_makeDirectory made
  exact h.set hl (by simp [free]) _

/-! ## Trees with one file written -/

/-- Whether a tree has got a file at a place, in place of a file or of nothing, and directories where nothing stood, and
is the same elsewhere. -/
structure Written (t t' : FileTree) (place : Location) : Prop where
  workingDirectory : t'.workingDirectory = t.workingDirectory
  before : t.item? place ≠ some .directory
  file : ∃ bytes, t'.item? place = some (.file bytes)
  elsewhere : ∀ location ≠ place, t'.item? location = t.item? location
    ∨ t.item? location = none ∧ t'.item? location = some .directory

theorem Written.grown {place : Location} (h : Written t t' place) : Grown t t' := by
  refine ⟨h.workingDirectory, fun {location} hd => ?_⟩
  have other : location ≠ place := fun same => h.before (same ▸ hd)
  rcases h.elsewhere location other with same | ⟨free, -⟩
  · rw [same, hd]
  · rw [hd] at free
    cases free

theorem written_set (h : t.item? location ≠ some .directory) (bytes : List UInt8) :
    Written t (t.set location (.file bytes)) location := by
  have hne := ne_nil_of_item?_ne_directory h
  refine ⟨rfl, h, ⟨bytes, by rw [item?_set hne, if_pos rfl]⟩, fun other elsewhere => Or.inl ?_⟩
  rw [item?_set hne, if_neg elsewhere]

theorem Widened.written {bytes : List UInt8} {s : FileTree} (h : Widened t s) (hw : s.write path bytes = .ok t') :
    ∃ place, t'.locate path = .ok place ∧ Written t t' place := by
  obtain ⟨place, hl, hd, rfl⟩ := exists_set_of_write hw
  have hne := ne_nil_of_item?_ne_directory hd
  refine ⟨place, (grown_set hd _).locate hl, h.workingDirectory, fun before => hd (h.grown.directory before),
    ⟨bytes, by rw [item?_set hne, if_pos rfl]⟩, fun location other => ?_⟩
  rw [item?_set hne, if_neg other]
  exact h.item? location

/-- Whether a path leads after a file was written only where it led before, and not to that file. -/
def Clear (t t' : FileTree) (place : Location) (path : String) : Prop :=
  ∀ location, t'.locate path = .ok location → t.locate path = .ok location ∧ location ≠ place

instance (t t' : FileTree) (place : Location) (path : String) : Decidable (Clear t t' place path) :=
  decidable_of_iff (∀ location ∈ (t'.locate path).toOption, t.locate path = .ok location ∧ location ≠ place) <| by
    simp only [Option.mem_def, toOption_eq_some_iff]
    rfl

/-- What can be read at a path that is clear of a file that was written is what could be read before. -/
theorem Written.read_of_clear {place : Location} (h : Written t t' place) (hc : Clear t t' place path) :
    (t'.read path).toOption = (t.read path).toOption := by
  cases hl : t'.locate path with
  | error e =>
    cases hl' : t.locate path with
    | error e' => simp [FileTree.read, itemAt, hl, hl', bind, Except.bind, Except.toOption]
    | ok location => rw [h.grown.locate hl'] at hl; cases hl
  | ok location =>
    obtain ⟨hl', other⟩ := hc location hl
    unfold FileTree.read
    rw [itemAt_of_locate hl, itemAt_of_locate hl']
    rcases h.elsewhere location other with same | ⟨free, made⟩
    · rw [same]
    · rw [free, made]
      rfl

theorem Written.readText_of_clear {place : Location} (h : Written t t' place) (hc : Clear t t' place path) :
    (t'.readText path).toOption = (t.readText path).toOption := by
  rw [toOption_readText, toOption_readText, h.read_of_clear hc]

/-- The files below a root are the same, but for the file that was written if none was there. -/
theorem Written.mem_filesBelow {place root : Location} {file : List String} (h : Written t t' place)
    (ht : t.WellFormed) (ht' : t'.WellFormed) (old : root ++ file ≠ place ∨ t.item? place ≠ none) :
    file ∈ t'.filesBelow root ↔ file ∈ t.filesBelow root := by
  rw [ht.mem_filesBelow, ht'.mem_filesBelow]
  by_cases own : root ++ file = place
  · have there := old.resolve_left (not_not.mpr own)
    rw [own]
    cases hi : t.item? place with
    | none => exact absurd hi there
    | some item =>
      cases item with
      | directory => exact absurd hi h.before
      | file bytes => exact ⟨fun _ => ⟨bytes, rfl⟩, fun _ => h.file⟩
  · rcases h.elsewhere _ own with same | ⟨free, made⟩
    · rw [same]
    · simp [free, made]

end PackageAudit.FileTree
