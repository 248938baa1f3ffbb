import PackageAudit.Proofs.FileTree.Grown

/-!
# Trees without some of their files

A tree that some files were taken out of has the same directories (`item?_filterFiles`), so every path leads where it
led (`locate_filterFiles`). A path that leads to none of the files that are gone is read as before
(`toOption_read_of_spares`), and the files that are left are listed as before, in the same order
(`filesBelow_filterFiles`).
-/

namespace PackageAudit.FileTree

variable {t t' : FileTree} {keep : Location → Bool} {location : Location} {path : String}

/-! ## Where paths lead -/

/-- Everything is left but the files that are not kept. -/
theorem item?_filterFiles {item : Item} : (t.filterFiles keep).item? location = some item
    ↔ t.item? location = some item ∧ (item = .directory ∨ keep location = true) := by
  by_cases root : location = []
  · subst root
    constructor
    · rintro ⟨⟩
      exact ⟨rfl, Or.inl rfl⟩
    · exact And.left
  · rw [item?_eq_some_iff root, item?_eq_some_iff root]
    show _ ∈ t.placed.items.filter _ ↔ _
    rw [List.mem_filter, Bool.or_eq_true, decide_eq_true_iff]

theorem directory_filterFiles :
    (t.filterFiles keep).item? location = some .directory ↔ t.item? location = some .directory := by
  rw [item?_filterFiles, and_iff_left (Or.inl rfl)]

theorem grown_filterFiles (t : FileTree) (keep : Location → Bool) : Grown t (t.filterFiles keep) :=
  ⟨rfl, directory_filterFiles.mpr⟩

theorem filterFiles_grown (t : FileTree) (keep : Location → Bool) : Grown (t.filterFiles keep) t :=
  ⟨rfl, directory_filterFiles.mp⟩

/-- **Every path leads where it led.** -/
theorem locate_filterFiles : (t.filterFiles keep).locate path = .ok location ↔ t.locate path = .ok location :=
  ⟨(filterFiles_grown t keep).locate, (grown_filterFiles t keep).locate⟩

theorem isDirectory_filterFiles : (t.filterFiles keep).isDirectory path = t.isDirectory path :=
  Bool.eq_iff_iff.mpr ⟨(filterFiles_grown t keep).isDirectory, (grown_filterFiles t keep).isDirectory⟩

/-! ## What is read -/

/-- Whether in another tree the same stands where a path leads. -/
def Spares (t t' : FileTree) (path : String) : Prop :=
  ∀ location, t.locate path = .ok location → t'.item? location = t.item? location

instance (t t' : FileTree) (path : String) : Decidable (Spares t t' path) :=
  decidable_of_iff (∀ location ∈ (t.locate path).toOption, t'.item? location = t.item? location) <| by
    simp only [Option.mem_def, toOption_eq_some_iff]
    rfl

/-- **What is read is the same** if the file that is read is not gone. -/
theorem toOption_read_of_spares (h : Spares t (t.filterFiles keep) path) :
    ((t.filterFiles keep).read path).toOption = (t.read path).toOption := by
  cases hl : t.locate path with
  | ok location =>
    unfold FileTree.read
    rw [itemAt_of_locate hl, itemAt_of_locate (locate_filterFiles.mpr hl), h location hl]
  | error e =>
    cases hl' : (t.filterFiles keep).locate path with
    | ok location =>
      rw [locate_filterFiles, hl] at hl'
      cases hl'
    | error e' => simp [FileTree.read, itemAt, hl, hl', bind, Except.bind, Except.toOption]

theorem toOption_readText_of_spares (h : Spares t (t.filterFiles keep) path) :
    ((t.filterFiles keep).readText path).toOption = (t.readText path).toOption := by
  rw [toOption_readText, toOption_readText, toOption_read_of_spares h]

/-! ## Which files are listed -/

/-- **The files that are left** are listed as before. -/
theorem filesBelow_filterFiles (t : FileTree) (keep : Location → Bool) (root : Location) :
    (t.filterFiles keep).filesBelow root = (t.filesBelow root).filter fun names => keep (root ++ names) := by
  have reachable (place : Location) : (t.filterFiles keep).isReachable place = t.isReachable place := by
    unfold isReachable
    simp only [directory_filterFiles]
  unfold filesBelow
  show (t.placed.items.filter _).filterMap _ = _
  rw [List.filterMap_filter, List.filter_filterMap]
  refine List.filterMap_congr fun p _ => ?_
  obtain ⟨place, item⟩ := p
  cases item with
  | directory => rfl
  | file bytes =>
    simp only [reachable]
    by_cases listed : (t.isReachable place && root.isPrefixOf place) = true
    · obtain ⟨-, names, rfl⟩ := by simpa only [Bool.and_eq_true, List.isPrefixOf_iff_prefix] using listed
      rw [if_pos listed, List.drop_left]
      cases hk : keep (root ++ names) <;> simp [Option.filter, hk]
    · rw [if_neg listed]
      simp

end PackageAudit.FileTree
