import PackageAudit.Proofs.Artifact.Name
import PackageAudit.Proofs.Text.Boundary

/-!
# The name in a path

A path is divided into a directory, which is empty or ends in a slash, and the component behind it (`Divides`). The
name in a component is what stands before its last full stop, or all of it where nothing stands there (`Stem`), and so
it is the name of the object (`stem_objectName`).

The name can be found among the bytes of the path: slash and full stop are looked for from the end of the whole path,
and their places are compared (`nameBytes`). A full stop of an earlier component stands before the last slash and does
not count, and no character is cut apart (`nameBytes_of_stem`).

Main statement: `objectName_spec`.
-/

namespace PackageAudit.Artifact

open Text.Utf8 (encode)

/-! ## Places among bytes -/

section Places

variable {mark : UInt8} {bytes front back : List UInt8}

/-- The place where a byte stands last. -/
def lastPlace? (mark : UInt8) : List UInt8 → Option Nat
  | [] => none
  | b :: rest =>
    match lastPlace? mark rest with
    | some place => some (place + 1)
    | none => if b = mark then some 0 else none

theorem lastPlace?_of_notMem (h : mark ∉ bytes) : lastPlace? mark bytes = none := by
  induction bytes with
  | nil => rfl
  | cons b rest ih =>
    obtain ⟨first, later⟩ := not_or.mp (mt List.mem_cons.mpr h)
    rw [lastPlace?, ih later]
    exact if_neg (Ne.symm first)

theorem lastPlace?_append (front : List UInt8) (h : mark ∉ back) :
    lastPlace? mark (front ++ mark :: back) = some front.length := by
  induction front with
  | nil =>
    rw [List.nil_append, lastPlace?, lastPlace?_of_notMem h]
    exact if_pos rfl
  | cons b front ih => rw [List.cons_append, lastPlace?, ih, List.length_cons]

end Places

section Ascii

variable {mark : Char} {text : List Char}

theorem encodeChar_of_ascii (ascii : mark.val.toNat < 0x80) :
    String.utf8EncodeChar mark = [UInt8.ofNat mark.val.toNat] := by
  unfold String.utf8EncodeChar
  simp only
  rw [if_pos (by omega)]

/-- A mark of ASCII stands among the bytes of a text only where it stands in the text. -/
theorem mem_of_mem_encode (ascii : mark.val.toNat < 0x80) (h : UInt8.ofNat mark.val.toNat ∈ encode text) :
    mark ∈ text := by
  obtain ⟨c, hc, hb⟩ := List.mem_flatMap.mp h
  have value : (UInt8.ofNat mark.val.toNat).toNat = mark.val.toNat := by
    rw [UInt8.toNat_ofNat']
    omega
  rcases Text.Utf8.toNat_of_mem_encodeChar hb with same | above
  · rw [value] at same
    have own : mark = c := Char.ext (UInt32.toNat_inj.mp same)
    rw [own]
    exact hc
  · omega

/-- The last place of a mark among the bytes of a text is behind the bytes in front of the last mark. -/
theorem lastPlace?_encode (ascii : mark.val.toNat < 0x80) (text : List Char) :
    lastPlace? (UInt8.ofNat mark.val.toNat) (encode text)
      = (Text.cutLast mark text).map fun cut => (encode cut.1).length := by
  cases hc : Text.cutLast mark text with
  | none =>
    have absent := Text.cutLast_eq_none_iff.mp hc
    exact lastPlace?_of_notMem fun hm => absent (mem_of_mem_encode ascii hm)
  | some cut =>
    obtain ⟨before, after⟩ := cut
    obtain ⟨rfl, absent⟩ := Text.cutLast_eq_some_iff.mp hc
    rw [Text.Utf8.encode_append, Text.Utf8.encode_cons, encodeChar_of_ascii ascii]
    exact lastPlace?_append (encode before) fun hm => absent (mem_of_mem_encode ascii hm)

end Ascii

/-- The place where the last component begins: behind the last slash. -/
def startOfName (path : List UInt8) : Nat :=
  match lastPlace? (UInt8.ofNat '/'.val.toNat) path with
  | some place => place + 1
  | none => 0

/-- The bytes from where the last component begins to the last full stop, if that stands farther behind, or else to the
end. -/
def nameBytes (path : List UInt8) : List UInt8 :=
  match lastPlace? (UInt8.ofNat '.'.val.toNat) path with
  | some stop =>
    if startOfName path < stop then (path.take stop).drop (startOfName path) else path.drop (startOfName path)
  | none => path.drop (startOfName path)

/-! ## Directories, components and stems -/

variable {path directory component name : List Char}

/-- Whether a text can stand in front of a component: it is empty or ends in a slash. -/
def IsDirectory (directory : List Char) : Prop :=
  directory = [] ∨ ∃ above, directory = above ++ ['/']

/-- How a path is divided: a directory, and the last component behind it. -/
structure Divides (path directory component : List Char) : Prop where
  whole : path = directory ++ component
  isDirectory : IsDirectory directory
  slash_notMem : '/' ∉ component

/-- Whether a text is the name in a component: what stands before the last full stop, or all of the component if nothing
stands there or there is no full stop. -/
inductive Stem : List Char → List Char → Prop
  | cut {stem extension : List Char} (ne_nil : stem ≠ []) (own : '.' ∉ extension) : Stem (stem ++ '.' :: extension) stem
  | whole {component : List Char}
      (uncut : ∀ stem extension, component = stem ++ '.' :: extension → '.' ∉ extension → stem = []) :
      Stem component component

theorem Divides.lastComponent_eq (h : Divides path directory component) : lastComponent path = component := by
  rw [h.whole]
  rcases h.isDirectory with rfl | ⟨above, rfl⟩
  · rw [List.nil_append, lastComponent, Text.cutLast_eq_none_iff.mpr h.slash_notMem]
  · rw [List.append_assoc]
    exact lastComponent_append above h.slash_notMem

theorem exists_divides (path : List Char) : ∃ directory, Divides path directory (lastComponent path) := by
  have own := slash_notMem_lastComponent path
  unfold lastComponent at own ⊢
  split
  next above component hc =>
    have whole := Text.eq_of_cutLast hc
    simp only [hc] at own
    exact ⟨above ++ ['/'], by rw [whole, List.append_assoc]; rfl, .inr ⟨above, rfl⟩, own⟩
  next hc =>
    simp only [hc] at own
    exact ⟨[], rfl, .inl rfl, own⟩

/-- **The object of a path has the name in the last component.** -/
theorem stem_objectName (path : String) : Stem (lastComponent path.toList) (objectName path).toList := by
  unfold objectName
  generalize lastComponent path.toList = component
  dsimp only
  split
  next c stem extension hc =>
    obtain ⟨rfl, own⟩ := Text.cutLast_eq_some_iff.mp hc
    rw [String.toList_ofList]
    exact .cut (List.cons_ne_nil c stem) own
  next uncut =>
    rw [String.toList_ofList]
    refine .whole fun stem extension whole own => ?_
    cases stem with
    | nil => rfl
    | cons c stem => exact absurd (Text.cutLast_eq_some_iff.mpr ⟨whole, own⟩) (uncut c stem extension)

theorem objectName_congr {path other : String} (h : lastComponent path.toList = lastComponent other.toList) :
    objectName path = objectName other := by
  unfold objectName
  rw [h]

/-! ## The name among the bytes -/

/-- The last component begins behind the bytes of the directory. -/
theorem Divides.startOfName_eq (h : Divides path directory component) :
    startOfName (encode path) = (encode directory).length := by
  rw [startOfName, lastPlace?_encode (by decide), h.whole]
  rcases h.isDirectory with rfl | ⟨above, rfl⟩
  · rw [List.nil_append, Text.cutLast_eq_none_iff.mpr h.slash_notMem]
    rfl
  · rw [List.append_assoc, List.singleton_append, Text.cutLast_append above h.slash_notMem, Text.Utf8.encode_append,
      List.length_append]
    rfl

theorem length_encode_pos (h : name ≠ []) : 0 < (encode name).length := by
  obtain ⟨b, back, hb, -⟩ := Text.Utf8.exists_encode_eq_cons h
  rw [hb]
  exact Nat.succ_pos _

/-- A full stop behind the directory of a path stands behind something in a component that is not cut. -/
theorem Divides.length_le_of_uncut (h : Divides path directory component)
    (uncut : ∀ stem extension, component = stem ++ '.' :: extension → '.' ∉ extension → stem = [])
    {before after : List Char} (hc : Text.cutLast '.' path = some (before, after)) :
    (encode before).length ≤ (encode directory).length := by
  obtain ⟨whole, own⟩ := Text.cutLast_eq_some_iff.mp hc
  rw [h.whole] at whole
  rcases List.append_eq_append_iff.mp whole with ⟨stem, rfl, hcomponent⟩ | ⟨more, rfl, -⟩
  · obtain rfl := uncut stem after hcomponent own
    exact Nat.le_of_eq (by rw [List.append_nil])
  · rw [Text.Utf8.encode_append, List.length_append]
    exact Nat.le_add_right _ _

/-- **The name is found among the bytes**, and no character is cut apart. -/
theorem nameBytes_of_stem (h : Divides path directory component) (hs : Stem component name) :
    nameBytes (encode path) = encode name := by
  have start := h.startOfName_eq
  have behind : (encode path).drop (startOfName (encode path)) = encode component := by
    rw [start, h.whole, Text.Utf8.encode_append, List.drop_left]
  -- The last full stop of the whole path is farther than the last slash exactly where it cuts the component.
  have place := lastPlace?_encode (show ('.').val.toNat < 0x80 by decide) path
  unfold nameBytes
  rw [place]
  cases hs with
  | @cut _ extension ne_nil own =>
    have cut : Text.cutLast '.' path = some (directory ++ name, extension) := by
      refine Text.cutLast_eq_some_iff.mpr ⟨?_, own⟩
      rw [h.whole, List.append_assoc]
    have taken : (encode path).take (encode (directory ++ name)).length = encode (directory ++ name) := by
      rw [h.whole, ← List.append_assoc, Text.Utf8.encode_append (directory ++ name), List.take_left]
    have farther : (encode directory).length < (encode (directory ++ name)).length := by
      have := length_encode_pos ne_nil
      rw [Text.Utf8.encode_append, List.length_append]
      omega
    rw [cut, Option.map_some]
    simp only [start, if_pos farther, taken]
    rw [Text.Utf8.encode_append, List.drop_left]
  | whole uncut =>
    cases hc : Text.cutLast '.' path with
    | none => exact behind
    | some cut =>
      have nearer := h.length_le_of_uncut uncut hc
      rw [Option.map_some]
      simp only [start, if_neg (Nat.not_lt.mpr nearer)]
      rw [← start, behind]

/-! ## All paths -/

/-- **The name of an object.** However a path is divided into a directory and its last component, and it can be divided,
the object has the name that is in the component. The bytes of the name are those that are found by looking for slash
and full stop from the end of the path, and they are those of a part of its characters. What the directory is makes no
difference. So a directory, a stem and an extension make a path whose object has the stem for its name. -/
theorem objectName_spec (path : String) :
    (∃ directory component, Divides path.toList directory component)
      ∧ (∀ directory component, Divides path.toList directory component → Stem component (objectName path).toList)
      ∧ nameBytes (encode path.toList) = encode (objectName path).toList
      ∧ (∃ before after : String, path = before ++ objectName path ++ after
          ∧ startOfName (encode path.toList) = (encode before.toList).length)
      ∧ (∀ directory component : String, IsDirectory directory.toList → '/' ∉ component.toList →
          objectName (directory ++ component) = objectName component)
      ∧ ∀ directory stem extension : String, IsDirectory directory.toList → stem ≠ "" → '/' ∉ stem.toList →
          '/' ∉ extension.toList → '.' ∉ extension.toList →
          objectName (directory ++ stem ++ "." ++ extension) = stem := by
  obtain ⟨directory, divides⟩ := exists_divides path.toList
  have named := stem_objectName path
  refine ⟨⟨directory, _, divides⟩, fun other component h => ?_, nameBytes_of_stem divides named, ?_, ?_, ?_⟩
  · rw [← h.lastComponent_eq]
    exact named
  · obtain ⟨rest, hrest⟩ : ∃ rest, lastComponent path.toList = (objectName path).toList ++ rest := by
      generalize lastComponent path.toList = component at named
      cases named with
      | cut => exact ⟨_, rfl⟩
      | whole => exact ⟨[], (List.append_nil _).symm⟩
    refine ⟨String.ofList directory, String.ofList rest, String.toList_inj.mp ?_, ?_⟩
    · rw [String.toList_append, String.toList_append, String.toList_ofList, String.toList_ofList, List.append_assoc,
        ← hrest]
      exact divides.whole
    · rw [String.toList_ofList]
      exact divides.startOfName_eq
  · intro directory component isDirectory plain
    have below : Divides (directory ++ component).toList directory.toList component.toList :=
      ⟨String.toList_append, isDirectory, plain⟩
    have alone : Divides component.toList [] component.toList := ⟨rfl, .inl rfl, plain⟩
    exact objectName_congr (below.lastComponent_eq.trans alone.lastComponent_eq.symm)
  · intro directory stem extension isDirectory ne_empty stem_plain extension_plain own
    have divides : Divides (directory ++ stem ++ "." ++ extension).toList directory.toList
        (stem.toList ++ '.' :: extension.toList) := by
      refine ⟨?_, isDirectory, ?_⟩
      · simp
      · simp [stem_plain, extension_plain]
    have ne_nil : stem.toList ≠ [] := mt String.toList_eq_nil_iff.mp ne_empty
    rw [objectName_of_lastComponent divides.lastComponent_eq ne_nil own, String.ofList_toList]

/-- A hidden file keeps its name, and dots of a directory do not count. -/
example : objectName "a.dir/b.c/.hidden" = ".hidden" ∧ objectName "a.dir/README" = "README"
    ∧ objectName "ä.b/DB.TABLE_Ü.tbl" = "DB.TABLE_Ü" := by
  decide +kernel

end PackageAudit.Artifact
