import Mathlib.Data.List.Sort
import PackageAudit.Package.Basic
import PackageAudit.Proofs.FileTree.Access
import PackageAudit.Proofs.Text.ByteOrder

/-!
# The paths of a package

Opening a package lists the path of every file below its root that no pattern ignores (`Kept`, `mem_pathsBelow`). The
path is the name of the file in findings and the way to read it, so both have to agree. They do where the path is
`Plain`: it holds no backslash, which a normal path turns into a slash, and is not too long to be followed.

Main statement: paths ascend, each plain path is listed and read as the file it was listed for, and without backslashes
no two files have one path (`paths_of_open`). A file whose name holds a backslash is listed under a path that leads
nowhere (`backslash_not_readable`).
-/

namespace PackageAudit

theorem Artifact.normalizePath_of_notMem {path : String} (h : '\\' ∉ path.toList) : normalizePath path = path := by
  have same : path.toList.map (fun c => if c = '\\' then '/' else c) = path.toList.map id := by
    refine List.map_congr_left fun c hc => if_neg ?_
    rintro rfl
    exact h hc
  rw [normalizePath, same, List.map_id, String.ofList_toList]

namespace Package

variable {t : FileTree} {location : Location} {root : String} {ignores file : List String} {bytes : List UInt8}

/-! ## Which files are listed -/

/-- Whether a pattern matches the path of a file relative to the root. -/
def Ignored (ignores file : List String) : Prop :=
  ∃ pattern ∈ ignores, ∃ glob, Glob.read pattern = .ok glob ∧ glob.admits (relativePath file) = true

instance (ignores file : List String) : Decidable (Ignored ignores file) :=
  decidable_of_iff (∃ pattern ∈ ignores, ((Glob.read pattern).toOption.any (·.admits (relativePath file))) = true) <| by
    refine exists_congr fun pattern => and_congr_right fun _ => ?_
    cases Glob.read pattern <;> simp [Except.toOption]

/-- A file of a package: it stands below the root, and no pattern ignores it. -/
structure Kept (t : FileTree) (location : Location) (ignores file : List String) (bytes : List UInt8) : Prop where
  item : t.item? (location ++ file) = some (.file bytes)
  not_ignored : ¬Ignored ignores file

/-- A root that leads to a directory of a well-formed tree. -/
structure Rooted (t : FileTree) (root : String) (location : Location) : Prop where
  wellFormed : t.WellFormed
  locate : t.locate root = .ok location
  directory : t.item? location = some .directory

/-- A path that stays as it is and is not too long. -/
structure Plain (path : String) : Prop where
  backslash_notMem : '\\' ∉ path.toList
  size_lt : Text.Utf8.size path.toList < FileTree.longestPath

theorem Rooted.ne_empty (hr : Rooted t root location) : root ≠ "" :=
  FileTree.ne_empty_of_locate hr.locate

theorem Rooted.nul_notMem (hr : Rooted t root location) : '\x00' ∉ root.toList :=
  FileTree.nul_notMem_of_locate hr.locate

/-- What is read from patterns comes from one of them. -/
theorem mem_of_readGlobs : ∀ {ignores : List String} {globs : List Glob}, readGlobs ignores = .ok globs →
    ∀ glob, glob ∈ globs ↔ ∃ pattern ∈ ignores, Glob.read pattern = .ok glob
  | [], globs, h, glob => by
    cases h
    simp
  | pattern :: ignores, globs, h, glob => by
    rw [readGlobs, List.mapM_cons] at h
    obtain ⟨first, hfirst, h⟩ := exists_of_bind_eq_ok h
    obtain ⟨rest, hrest, h⟩ := exists_of_bind_eq_ok h
    cases h
    have own := ok_of_mapError_eq_ok hfirst
    rw [List.mem_cons, mem_of_readGlobs hrest glob]
    simp [own, eq_comm]

/-- The globs of the patterns admit what a pattern ignores. -/
theorem any_admits_iff {globs : List Glob} (h : readGlobs ignores = .ok globs) :
    (globs.any (·.admits (relativePath file))) = true ↔ Ignored ignores file := by
  rw [List.any_eq_true]
  constructor
  · rintro ⟨glob, hglob, hadmits⟩
    obtain ⟨pattern, hp, hread⟩ := (mem_of_readGlobs h glob).mp hglob
    exact ⟨pattern, hp, glob, hread, hadmits⟩
  · rintro ⟨pattern, hp, glob, hread, hadmits⟩
    exact ⟨glob, (mem_of_readGlobs h glob).mpr ⟨pattern, hp, hread⟩, hadmits⟩

/-- A package that was opened lists the files below its root. -/
theorem paths_eq_of_open {keywordsFile : Option String} {p : Package}
    (h : Package.open t root keywordsFile ignores = .ok p) : ∃ location globs, t.isDirectory root = true
      ∧ t.locate root = .ok location ∧ readGlobs ignores = .ok globs ∧ p.paths = pathsBelow t root location globs := by
  unfold Package.open at h
  split at h
  next hdirectory hlocate =>
    obtain ⟨globs, hglobs, h⟩ := exists_of_bind_eq_ok h
    cases h
    exact ⟨_, globs, hdirectory, hlocate, hglobs, rfl⟩
  next => cases h

/-- Opening a package whose root leads to a directory, with patterns that are valid. -/
theorem Rooted.open_eq {globs : List Glob} (hr : Rooted t root location) (valid : readGlobs ignores = .ok globs)
    (keywordsFile : Option String) :
    Package.open t root keywordsFile ignores = .ok { paths := pathsBelow t root location globs, keywordsFile } := by
  have directory : t.isDirectory root = true := by
    rw [FileTree.isDirectory, FileTree.itemAt_of_locate hr.locate, hr.directory]
  rw [Package.open, directory, hr.locate, valid]
  rfl

/-! ## The list of paths -/

theorem Kept.ne_nil (hk : Kept t location ignores file bytes) (hr : Rooted t root location) :
    file ≠ [] := by
  rintro rfl
  have hfile := hk.item
  rw [List.append_nil, hr.directory] at hfile
  cases hfile

theorem Kept.foldl_join (hk : Kept t location ignores file bytes) (hr : Rooted t root location) :
    file.foldl Path.join root = Path.below root file :=
  Path.foldl_join (hk.ne_nil hr) (hr.wellFormed.isName_of_file hk.item) hr.ne_empty

theorem Kept.artifactPath_eq (hk : Kept t location ignores file bytes) (hr : Rooted t root location)
    (hp : '\\' ∉ (Path.below root file).toList) : artifactPath root file = Path.below root file := by
  rw [artifactPath, hk.foldl_join hr, Artifact.normalizePath_of_notMem hp]

/-- **The path of a kept file** leads to it unless it is too long. -/
theorem Kept.locate_below (hk : Kept t location ignores file bytes) (hr : Rooted t root location)
    (hsize : Text.Utf8.size (Path.below root file).toList < FileTree.longestPath) :
    t.locate (Path.below root file) = .ok (location ++ file) := by
  rw [← hk.foldl_join hr] at hsize ⊢
  exact hr.wellFormed.locate_foldl_join hr.locate hk.item hsize

theorem Kept.below_inj {file' : List String} {bytes' : List UInt8} (hk : Kept t location ignores file bytes)
    (hk' : Kept t location ignores file' bytes') (hr : Rooted t root location)
    (h : Path.below root file = Path.below root file') : file = file' := by
  rw [← hk.foldl_join hr, ← hk'.foldl_join hr] at h
  exact Path.foldl_join_inj hr.ne_empty hr.nul_notMem
    (hr.wellFormed.isName_of_file hk.item) (hr.wellFormed.isName_of_file hk'.item) h

/-- The directory of a file with a plain path can be listed. -/
theorem Kept.isListed (hk : Kept t location ignores file bytes) (hr : Rooted t root location)
    (hp : Plain (Path.below root file)) : isListed root file = true := by
  -- the path of the directory is a beginning of the path of the file
  have hsize := hp.size_lt
  rw [← hk.foldl_join hr] at hsize
  have hn := hr.wellFormed.isName_of_file hk.item
  obtain rfl | ⟨before, last, rfl⟩ := List.eq_nil_or_concat file
  · exact absurd rfl (hk.ne_nil hr)
  · rw [List.concat_eq_append] at hn hsize ⊢
    have path := (Path.continues_foldl_join hr.ne_empty hr.nul_notMem
      fun n hm => hn n (List.mem_append_left _ hm)).ne_empty
    rw [List.foldl_concat] at hsize
    rw [Package.isListed, List.dropLast_concat, decide_eq_true_iff]
    exact Nat.lt_of_le_of_lt (Path.size_le_size_join path (hn last (by simp))) hsize

/-- The files whose paths are listed are the kept ones, as far as their directories can be listed. -/
theorem mem_filter_filesBelow {globs : List Glob} (ht : t.WellFormed) (hglobs : readGlobs ignores = .ok globs) :
    (file ∈ (t.filesBelow location).filter fun names =>
        isListed root names && !globs.any (·.admits (relativePath names)))
      ↔ isListed root file = true ∧ ∃ bytes, Kept t location ignores file bytes := by
  rw [List.mem_filter, ht.mem_filesBelow, Bool.and_eq_true, Bool.not_eq_true', ← Bool.not_eq_true,
    any_admits_iff hglobs]
  constructor
  · rintro ⟨⟨bytes, hitem⟩, hlisted, hi⟩
    exact ⟨hlisted, bytes, hitem, hi⟩
  · rintro ⟨hlisted, bytes, hk⟩
    exact ⟨⟨bytes, hk.item⟩, hlisted, hk.not_ignored⟩

/-- **A listed path** is the normal path of a kept file. -/
theorem mem_pathsBelow {globs : List Glob} (hr : Rooted t root location) (hglobs : readGlobs ignores = .ok globs)
    {path : String} : path ∈ pathsBelow t root location globs ↔ ∃ file bytes,
      Kept t location ignores file bytes ∧ isListed root file = true
        ∧ path = Artifact.normalizePath (Path.below root file) := by
  unfold pathsBelow
  rw [List.mem_mergeSort, List.mem_map]
  constructor
  · rintro ⟨file, hfile, rfl⟩
    obtain ⟨hlisted, bytes, hk⟩ := (mem_filter_filesBelow hr.wellFormed hglobs).mp hfile
    exact ⟨file, bytes, hk, hlisted, by rw [artifactPath, hk.foldl_join hr]⟩
  · rintro ⟨file, bytes, hk, hlisted, rfl⟩
    exact ⟨file, (mem_filter_filesBelow hr.wellFormed hglobs).mpr ⟨hlisted, bytes, hk⟩,
      by rw [artifactPath, hk.foldl_join hr]⟩

/-- Whether no path of a kept file of a package holds a backslash. -/
def NoBackslash (t : FileTree) (root : String) (ignores : List String) : Prop :=
  ∀ location file bytes, t.locate root = .ok location → Kept t location ignores file bytes →
    '\\' ∉ (Path.below root file).toList

/-- Without backslashes a listed path is the path of a kept file. -/
theorem exists_kept_of_open {keywordsFile : Option String} {p : Package} (ht : t.WellFormed)
    (h : Package.open t root keywordsFile ignores = .ok p) (hslashes : NoBackslash t root ignores) {path : String}
    (hp : path ∈ p.paths) : ∃ location file bytes, Rooted t root location
      ∧ Kept t location ignores file bytes ∧ path = Path.below root file := by
  obtain ⟨location, globs, hdirectory, hroot, hglobs, hpaths⟩ := paths_eq_of_open h
  have hr : Rooted t root location := ⟨ht, hroot, FileTree.item?_of_isDirectory hdirectory hroot⟩
  rw [hpaths] at hp
  obtain ⟨file, bytes, hk, -, rfl⟩ := (mem_pathsBelow hr hglobs).mp hp
  exact ⟨location, file, bytes, hr, hk, Artifact.normalizePath_of_notMem (hslashes location file bytes hroot hk)⟩

theorem pairwise_pathsBelow (t : FileTree) (root : String) (location : Location) (globs : List Glob) :
    (pathsBelow t root location globs).Pairwise (· ≤ ·) := by
  refine (List.pairwise_mergeSort (fun a b c hab hbc => ?_) (fun a b => ?_) _).imp of_decide_eq_true
  · exact decide_eq_true (String.le_trans (of_decide_eq_true hab) (of_decide_eq_true hbc))
  · simpa using String.le_total a b

/-- No path is listed twice if no path holds a backslash. -/
theorem nodup_pathsBelow {globs : List Glob} (hr : Rooted t root location) (hglobs : readGlobs ignores = .ok globs)
    (hslashes : ∀ file bytes, Kept t location ignores file bytes → '\\' ∉ (Path.below root file).toList) :
    (pathsBelow t root location globs).Nodup := by
  unfold pathsBelow
  refine (List.mergeSort_perm _ _).nodup_iff.mpr (((t.nodup_filesBelow location).filter _).map_on ?_)
  intro file hfile file' hfile' hpath
  obtain ⟨-, bytes, hk⟩ := (mem_filter_filesBelow hr.wellFormed hglobs).mp hfile
  obtain ⟨-, bytes', hk'⟩ := (mem_filter_filesBelow hr.wellFormed hglobs).mp hfile'
  rw [hk.artifactPath_eq hr (hslashes file bytes hk), hk'.artifactPath_eq hr (hslashes file' bytes' hk')] at hpath
  exact hk.below_inj hk' hr hpath

/-- **One path for each file.** A package that was opened lists the normal paths of its files, in weakly ascending
order. Where a path holds no backslash and is not too long, it is listed as it is, and reading it gives the bytes of the
file whose path it is. If no path holds a backslash, the paths ascend strictly in the order of their bytes and stand for
exactly one file each. -/
theorem paths_of_open {keywordsFile : Option String} {p : Package} (ht : t.WellFormed)
    (h : Package.open t root keywordsFile ignores = .ok p) :
    ∃ location, t.locate root = .ok location
      ∧ p.paths.Pairwise (· ≤ ·)
      ∧ (∀ path, path ∈ p.paths ↔ ∃ file bytes, Kept t location ignores file bytes ∧ isListed root file = true
          ∧ path = Artifact.normalizePath (Path.below root file))
      ∧ (∀ file bytes, Kept t location ignores file bytes → Plain (Path.below root file) →
          Path.below root file ∈ p.paths ∧ t.read (Path.below root file) = .ok bytes
            ∧ (p.corpus t).content (Path.below root file) = some (Text.Utf8.decodeLossy bytes))
      ∧ ((∀ file bytes, Kept t location ignores file bytes → '\\' ∉ (Path.below root file).toList) →
          (p.paths.map fun path => Text.Utf8.encode path.toList).Pairwise (· < ·)
            ∧ ∀ path ∈ p.paths, ∃! file, (∃ bytes, Kept t location ignores file bytes)
                ∧ Path.below root file = path) := by
  obtain ⟨location, globs, hdirectory, hroot, hglobs, hpaths⟩ := paths_eq_of_open h
  have hr : Rooted t root location := ⟨ht, hroot, FileTree.item?_of_isDirectory hdirectory hroot⟩
  have hmem {path : String} : path ∈ p.paths ↔ ∃ file bytes, Kept t location ignores file bytes
      ∧ isListed root file = true ∧ path = Artifact.normalizePath (Path.below root file) := by
    rw [hpaths]
    exact mem_pathsBelow hr hglobs
  have hle := pairwise_pathsBelow t root location globs
  have hnodup := nodup_pathsBelow hr hglobs
  rw [← hpaths] at hle hnodup
  refine ⟨location, hroot, hle, fun path => hmem, fun file bytes hk hp => ⟨?_, ?_⟩, fun hslashes => ⟨?_, ?_⟩⟩
  · exact hmem.mpr ⟨file, bytes, hk, hk.isListed hr hp, (Artifact.normalizePath_of_notMem hp.backslash_notMem).symm⟩
  · have hread : t.read (Path.below root file) = .ok bytes := by
      rw [← hk.foldl_join hr]
      refine ht.read_foldl_join hroot (hk.ne_nil hr) hk.item ?_
      rw [hk.foldl_join hr]
      exact hp.size_lt
    refine ⟨hread, ?_⟩
    show (t.read (Path.below root file)).toOption.map Text.Utf8.decodeLossy = _
    rw [hread]
    rfl
  · rw [List.pairwise_map]
    refine (hle.and (hnodup hslashes)).imp fun {a b} hab => Text.Utf8.lt_iff_encode_lt.mp ?_
    by_contra hlt
    exact hab.2 (String.le_antisymm hab.1 (String.not_lt.mp hlt))
  · intro path hpath
    obtain ⟨file, bytes, hk, -, rfl⟩ := hmem.mp hpath
    rw [Artifact.normalizePath_of_notMem (hslashes file bytes hk)]
    refine ⟨file, ⟨⟨bytes, hk⟩, rfl⟩, ?_⟩
    rintro file' ⟨⟨bytes', hk'⟩, hsame⟩
    exact hk'.below_inj hk hr hsame

/-- A package with a file in a directory and a file to be ignored. -/
def nested : FileTree :=
  let package := (({} : FileTree).set ["pkg"] .directory).set ["pkg", "sub"] .directory
  (package.set ["pkg", "sub", "a.sql"] (.file [83, 255])).set ["pkg", "x.log"] (.file [])

/-- The file in the directory of the package is listed and read by its path. -/
theorem paths_of_open_nested : nested.WellFormed ∧ ∃ p, Package.open nested "pkg" none ["*.log"] = .ok p
    ∧ "pkg/sub/a.sql" ∈ p.paths ∧ (p.corpus nested).content "pkg/sub/a.sql" = some ['S', '\uFFFD'] := by
  have well_formed : nested.WellFormed := by decide +kernel
  have listed : paths <$> Package.open nested "pkg" none ["*.log"] = .ok ["pkg/sub/a.sql"] := by decide +kernel
  obtain ⟨p, opened, -⟩ := exists_of_map_eq_ok listed
  obtain ⟨location, hlocation, -, -, hread, -⟩ := paths_of_open well_formed opened
  have root : nested.locate "pkg" = .ok ["pkg"] := by decide +kernel
  obtain rfl : location = ["pkg"] := Except.ok.inj (hlocation.symm.trans root)
  have kept : Kept nested ["pkg"] ["*.log"] ["sub", "a.sql"] [83, 255] := ⟨by decide +kernel, by decide +kernel⟩
  have plain : Plain "pkg/sub/a.sql" := ⟨by decide +kernel, by decide +kernel⟩
  have path : Path.below "pkg" ["sub", "a.sql"] = "pkg/sub/a.sql" := by decide +kernel
  obtain ⟨hmem, -, hcontent⟩ := hread _ _ kept (path ▸ plain)
  rw [path] at hmem hcontent
  exact ⟨well_formed, p, opened, hmem, hcontent.trans (by decide +kernel)⟩

/-- A package with one file, whose name holds a backslash. -/
def backslash : FileTree :=
  (({} : FileTree).set ["pkg"] .directory).set ["pkg", "a\\b.sql"] (.file [83])

/-- The path that is listed for a file whose name holds a backslash leads nowhere. -/
theorem backslash_not_readable : backslash.WellFormed ∧ backslash.item? ["pkg", "a\\b.sql"] = some (.file [83])
    ∧ ∃ p, Package.open backslash "pkg" none [] = .ok p ∧ p.paths = ["pkg/a/b.sql"]
      ∧ backslash.read "pkg/a/b.sql" = .error .notFound := by
  have listed : paths <$> Package.open backslash "pkg" none [] = .ok ["pkg/a/b.sql"] := by decide +kernel
  obtain ⟨p, opened, paths⟩ := exists_of_map_eq_ok listed
  have unread : backslash.read "pkg/a/b.sql" = .error .notFound := by decide +kernel
  exact ⟨by decide +kernel, by decide +kernel, p, opened, paths, unread⟩

end Package
end PackageAudit
