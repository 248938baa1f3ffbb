import PackageAudit.Proofs.FileTree.Grown

/-!
# What writing a file below new directories changes

Making directories puts them only where the path or one above it leads, and nothing stood (`Furnished`,
`furnished_makeDirectories`). When a file is written after that, its own path is the only one at which something else
stands than before (`Footprint`, `Furnished.footprint`).
-/

namespace PackageAudit

/-- Whether a path is what is left of another one without some of its last components. -/
inductive Path.IsAbove : String → String → Prop
  | parent {above path : String} (h : Path.parent? path = some above) : IsAbove above path
  | up {above between path : String} (hb : IsAbove between path) (h : Path.parent? between = some above) :
      IsAbove above path

namespace FileTree

variable {t t' t'' : FileTree} {P : String → Prop} {path : String} {location : Location} {bytes : List UInt8}

/-! ## Directories along a path -/

/-- Whether a tree has got directories where nothing stood and some of the given paths lead, and is the same
elsewhere. -/
structure Furnished (P : String → Prop) (t t' : FileTree) : Prop where
  workingDirectory : t'.workingDirectory = t.workingDirectory
  item? : ∀ location, t'.item? location = t.item? location
    ∨ t.item? location = none ∧ t'.item? location = some .directory
      ∧ ∃ path, P path ∧ t'.locate path = .ok location

theorem Furnished.refl (P : String → Prop) (t : FileTree) : Furnished P t t :=
  ⟨rfl, fun _ => Or.inl rfl⟩

theorem Furnished.widened (h : Furnished P t t') : Widened t t' :=
  ⟨h.workingDirectory, fun location => (h.item? location).imp_right fun made => ⟨made.1, made.2.1⟩⟩

theorem Furnished.trans (h : Furnished P t t') (h' : Furnished P t' t'') : Furnished P t t'' := by
  refine ⟨h'.workingDirectory.trans h.workingDirectory, fun location => ?_⟩
  rcases h.item? location with same | ⟨free, made, path, hp, hl⟩
  · rw [← same]
    exact h'.item? location
  · have grown := h'.widened.grown
    exact Or.inr ⟨free, grown.directory made, path, hp, grown.locate hl⟩

/-- Making one directory furnishes a tree where its path leads. -/
theorem furnished_makeDirectory (hp : P path) (h : t.makeDirectory path = .ok t') : Furnished P t t' := by
  have grown := (widened_makeDirectory h).grown
  obtain ⟨location, hl, free, rfl⟩ := exists_set_of_makeDirectory h
  have no_directory : t.item? location ≠ some .directory := by simp [free]
  refine ⟨rfl, fun other => ?_⟩
  rw [item?_set (ne_nil_of_item?_ne_directory no_directory)]
  split
  next own => exact Or.inr ⟨own ▸ free, rfl, path, hp, own ▸ grown.locate hl⟩
  next => exact Or.inl rfl

/-- **Making directories** furnishes a tree where the path and those above it lead, whether it comes to its end or
not. -/
theorem furnished_makeDirectories (t : FileTree) (hp : P path)
    (up : ∀ {path parent}, P path → Path.parent? path = some parent → P parent) :
    Furnished P t (t.makeDirectories path).1 :=
  makeDirectoriesFrom_keeps (.refl P) .trans up furnished_makeDirectory _ t path hp

/-! ## A file after directories -/

/-- What may change when a file is written at a path and the directories above it are made: only the file itself stands
in place of another, and all that is new are the file and directories to which paths above it lead. -/
structure Footprint (path : String) (t t' : FileTree) : Prop where
  workingDirectory : t'.workingDirectory = t.workingDirectory
  kept : ∀ location item, t.item? location = some item → t'.locate path ≠ .ok location →
    t'.item? location = some item
  own : ∀ location item, t.item? location = some item → t'.locate path = .ok location →
    t'.item? location = some item ∨ item ≠ .directory ∧ ∃ bytes, t'.item? location = some (.file bytes)
  new : ∀ location item, t.item? location = none → t'.item? location = some item →
    (t'.locate path = .ok location ∧ ∃ bytes, item = .file bytes)
      ∨ item = .directory ∧ ∃ above, Path.IsAbove above path ∧ t'.locate above = .ok location

theorem Footprint.refl (path : String) (t : FileTree) : Footprint path t t where
  workingDirectory := rfl
  kept _ _ h _ := h
  own _ _ h _ := Or.inl h
  new _ _ free h := nomatch free.symm.trans h

/-- Directories above a path leave the footprint of a file at that path. -/
theorem Furnished.footprint (h : Furnished (Path.IsAbove · path) t t') : Footprint path t t' := by
  have same {location : Location} {item : Item} (there : t.item? location = some item) :
      t'.item? location = some item := by
    rcases h.item? location with unchanged | ⟨free, -⟩
    · rw [unchanged, there]
    · rw [there] at free
      cases free
  refine ⟨h.workingDirectory, fun _ _ there _ => same there, fun _ _ there _ => Or.inl (same there), ?_⟩
  intro location item free there
  rcases h.item? location with unchanged | ⟨-, made, above⟩
  · rw [unchanged, free] at there
    cases there
  · rw [made] at there
    exact Or.inr ⟨(Option.some.inj there).symm, above⟩

/-- **A file that is written after directories above it were made** leaves its footprint. -/
theorem Furnished.footprint_of_write {s : FileTree} (h : Furnished (Path.IsAbove · path) t s)
    (hw : s.write path bytes = .ok t') : Footprint path t t' := by
  have before := h.footprint
  obtain ⟨place, hl, hd, rfl⟩ := exists_set_of_write hw
  have grown : Grown s (s.set place (.file bytes)) := grown_set hd _
  have written (location : Location) : (s.set place (.file bytes)).item? location
      = if location = place then some (.file bytes) else s.item? location :=
    item?_set (ne_nil_of_item?_ne_directory hd) _ location
  have leads {location : Location} (hl' : (s.set place (.file bytes)).locate path = .ok location) :
      location = place := Except.ok.inj (hl'.symm.trans (grown.locate hl))
  refine ⟨h.workingDirectory, fun location item there other => ?_, fun location item there own => ?_,
    fun location item free there => ?_⟩
  · have elsewhere : location ≠ place := fun same => other (same ▸ grown.locate hl)
    rw [written, if_neg elsewhere]
    by_cases hs : s.locate path = .ok location
    · exact absurd (grown.locate hs) other
    · exact before.kept location item there hs
  · obtain rfl := leads own
    refine Or.inr ⟨?_, bytes, by rw [written, if_pos rfl]⟩
    rintro rfl
    exact hd (h.widened.grown.directory there)
  · rw [written] at there
    split at there
    next same => exact Or.inl ⟨same ▸ grown.locate hl, bytes, (Option.some.inj there).symm⟩
    next elsewhere =>
      rcases before.new location item free there with ⟨hl', -⟩ | ⟨made, above, ha, hl'⟩
      · exact absurd (leads (grown.locate hl')) elsewhere
      · exact Or.inr ⟨made, above, ha, grown.locate hl'⟩

end FileTree
end PackageAudit
