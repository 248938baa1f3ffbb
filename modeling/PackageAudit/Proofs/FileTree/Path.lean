import Mathlib.Data.List.Basic
import Mathlib.Data.List.Induction
import PackageAudit.FileTree.Access
import PackageAudit.Text.Search

/-!
# Paths below a path

Names of files are put behind a path one after the other (`Path.join`). Each puts its own name behind the names of the
path (`names_join`), so the names of the whole path are those of the beginning and then those of the file
(`continues_foldl_join`): a path below a root tells which file it is the path of (`foldl_join_inj`). As a text it is the
root, a slash if there is none, and the names between slashes (`foldl_join`).
-/

namespace PackageAudit

/-- What can be the name of a file or a directory. -/
structure IsName (name : String) : Prop where
  ne_empty : name ≠ ""
  ne_dot : name ≠ "."
  ne_up : name ≠ ".."
  slash_notMem : '/' ∉ name.toList
  nul_notMem : '\x00' ∉ name.toList
  size_le : Text.Utf8.size name.toList ≤ FileTree.longestName

instance : DecidablePred IsName := fun name =>
  decidable_of_iff (name ≠ "" ∧ name ≠ "." ∧ name ≠ ".." ∧ '/' ∉ name.toList ∧ '\x00' ∉ name.toList
      ∧ Text.Utf8.size name.toList ≤ FileTree.longestName)
    ⟨fun ⟨h₁, h₂, h₃, h₄, h₅, h₆⟩ => ⟨h₁, h₂, h₃, h₄, h₅, h₆⟩, fun ⟨h₁, h₂, h₃, h₄, h₅, h₆⟩ => ⟨h₁, h₂, h₃, h₄, h₅, h₆⟩⟩

namespace Path

variable {base name : String}

/-- The names that a path goes along. -/
def names (path : String) : List String :=
  (segments path).filter fun name => name ≠ "" && name ≠ "."

/-- The path of a file, by the names that lead to it from a root. -/
def below (root : String) (file : List String) : String :=
  root ++ (if endsInSlash root then "" else "/") ++ Text.join "/" file

/-! ## One name -/

theorem segments_append_slash (h : '/' ∉ name.toList) : segments (base ++ "/" ++ name) = segments base ++ [name] := by
  unfold segments
  rw [String.toList_append, String.toList_append, List.append_assoc]
  show ((base.toList ++ '/' :: name.toList).splitOn '/').map String.ofList = _
  rw [List.splitOn_append_cons_self, List.splitOn_eq_singleton h, List.map_append, List.map_singleton,
    String.ofList_toList]

/-- A path that ends in a slash is another one with a slash behind it. -/
theorem exists_eq_append_slash (h : endsInSlash base) : ∃ before, base = before ++ "/" := by
  obtain ⟨before, hb⟩ := List.getLast?_eq_some_iff.mp (eq_of_beq h)
  refine ⟨String.ofList before, String.toList_inj.mp ?_⟩
  rw [hb, String.toList_append, String.toList_ofList]
  rfl

theorem join_eq (hb : base ≠ "") (h : IsName name) : join base name = below base [name] := by
  have relative : isAbsolute name = false := by
    rw [isAbsolute, beq_eq_false_iff_ne]
    intro hhead
    exact h.slash_notMem (List.mem_of_head? hhead)
  unfold join below
  rw [if_neg (by simp [relative])]
  cases he : endsInSlash base <;> simp [hb, Text.join]

/-- A path with a name behind it is a path with a slash and the name behind it. -/
theorem exists_join_eq (hb : base ≠ "") (h : IsName name) :
    ∃ before, join base name = before ++ "/" ++ name ∧ (base = before ∨ base = before ++ "/") := by
  rw [join_eq hb h, below]
  cases he : endsInSlash base with
  | false => exact ⟨base, rfl, Or.inl rfl⟩
  | true =>
    obtain ⟨before, rfl⟩ := exists_eq_append_slash he
    exact ⟨before, by simp [Text.join], Or.inr rfl⟩

theorem names_append_slash (before : String) : names (before ++ "/") = names before := by
  have segments_slash : segments (before ++ "/" ++ "") = segments before ++ [""] := segments_append_slash (by simp)
  rw [String.append_empty] at segments_slash
  rw [names, segments_slash, List.filter_append]
  exact List.append_nil _

/-- **One name** behind a path is one more name on it. -/
theorem names_join (hb : base ≠ "") (h : IsName name) : names (join base name) = names base ++ [name] := by
  obtain ⟨before, hjoin, hbase⟩ := exists_join_eq hb h
  have own : names (before ++ "/" ++ name) = names before ++ [name] := by
    rw [names, segments_append_slash h.slash_notMem, List.filter_append, List.filter_singleton,
      show (decide (name ≠ "") && decide (name ≠ ".")) = true by simp [h.ne_empty, h.ne_dot]]
    rfl
  rw [hjoin, own]
  rcases hbase with rfl | rfl
  · rfl
  · rw [names_append_slash]

/-- The last segment of a path with a name behind it is the name. -/
theorem lastSegment?_join (hb : base ≠ "") (h : IsName name) :
    FileTree.lastSegment? (join base name) = some name := by
  obtain ⟨before, hjoin, -⟩ := exists_join_eq hb h
  rw [hjoin, FileTree.lastSegment?, segments_append_slash h.slash_notMem, List.filter_append, List.filter_singleton,
    show decide (name ≠ "") = true by simp [h.ne_empty], cond_true, List.getLast?_concat]

theorem endsInSlash_join (hb : base ≠ "") (h : IsName name) : endsInSlash (join base name) = false := by
  obtain ⟨before, hjoin, -⟩ := exists_join_eq hb h
  have nonempty : name.toList ≠ [] := fun he => h.ne_empty (String.toList_eq_nil_iff.mp he)
  rw [hjoin, endsInSlash, String.toList_append, List.getLast?_append_of_ne_nil _ nonempty, beq_eq_false_iff_ne]
  intro hlast
  exact h.slash_notMem (List.mem_of_getLast? hlast)

theorem size_le_size_join (hb : base ≠ "") (h : IsName name) :
    Text.Utf8.size base.toList ≤ Text.Utf8.size (join base name).toList := by
  rw [join_eq hb h, below, String.toList_append, String.toList_append, List.append_assoc, Text.Utf8.size_append]
  exact Nat.le_add_right _ _

/-! ## All names of a file -/

/-- A path that goes along the names of a file behind the names of a root. -/
structure Continues (root : String) (file : List String) (path : String) : Prop where
  ne_empty : path ≠ ""
  names_eq : names path = names root ++ file
  isAbsolute_eq : isAbsolute path = isAbsolute root
  nul_notMem : '\x00' ∉ path.toList

/-- One more name continues a path. -/
theorem Continues.join {root path : String} {file : List String} (hp : Continues root file path) (h : IsName name) :
    Continues root (file ++ [name]) (join path name) := by
  obtain ⟨c, cs, hc⟩ := List.exists_cons_of_ne_nil fun he => hp.ne_empty (String.toList_eq_nil_iff.mp he)
  have begins : ∃ rest, (Path.join path name).toList = c :: cs ++ rest ∧ '\x00' ∉ rest := by
    rw [join_eq hp.ne_empty h, below, String.toList_append, String.toList_append, hc, List.append_assoc]
    refine ⟨_, rfl, ?_⟩
    split <;> simp [Text.join, h.nul_notMem]
  obtain ⟨rest, hrest, hnul⟩ := begins
  refine ⟨fun he => ?_, ?_, ?_, ?_⟩
  · simp [he] at hrest
  · rw [names_join hp.ne_empty h, hp.names_eq, List.append_assoc]
  · rw [← hp.isAbsolute_eq, isAbsolute, isAbsolute, hrest, hc]
    rfl
  · rw [hrest, ← hc]
    simp [hp.nul_notMem, hnul]

/-- **All names of a file** put behind a root continue it. -/
theorem continues_foldl_join {root : String} {file : List String} (hr : root ≠ "") (hn : '\x00' ∉ root.toList)
    (h : ∀ name ∈ file, IsName name) : Continues root file (file.foldl Path.join root) := by
  induction file using List.reverseRecOn with
  | nil => exact ⟨hr, (List.append_nil _).symm, rfl, hn⟩
  | append_singleton file name ih =>
    rw [List.foldl_concat]
    exact (ih fun n hn => h n (List.mem_append_left _ hn)).join (h name (by simp))

theorem foldl_join_inj {root : String} {file file' : List String} (hr : root ≠ "") (hn : '\x00' ∉ root.toList)
    (h : ∀ name ∈ file, IsName name) (h' : ∀ name ∈ file', IsName name)
    (heq : file.foldl join root = file'.foldl join root) : file = file' := by
  have hnames := (continues_foldl_join hr hn h).names_eq
  rw [heq, (continues_foldl_join hr hn h').names_eq] at hnames
  exact (List.append_cancel_left hnames).symm

/-- **The path of a file as a text**: the names stand between slashes behind the root. -/
theorem foldl_join {file : List String} (hf : file ≠ []) (h : ∀ name ∈ file, IsName name) :
    ∀ {root : String}, root ≠ "" → file.foldl join root = below root file := by
  induction file with
  | nil => exact absurd rfl hf
  | cons name file ih =>
    intro root hr
    have own : IsName name := h name List.mem_cons_self
    cases file with
    | nil => exact join_eq hr own
    | cons next file =>
      have ne_empty : join root name ≠ "" := by
        obtain ⟨before, hjoin, -⟩ := exists_join_eq hr own
        intro he
        simp [he] at hjoin
      rw [List.foldl_cons, ih (List.cons_ne_nil _ _) (fun n hn => h n (List.mem_cons_of_mem name hn)) ne_empty, below,
        endsInSlash_join hr own, join_eq hr own]
      simp [below, Text.join, String.append_assoc]

end Path
end PackageAudit
