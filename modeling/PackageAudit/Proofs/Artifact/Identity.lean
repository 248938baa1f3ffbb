import PackageAudit.Artifact.Name
import PackageAudit.Proofs.Text.Boundary
import PackageAudit.Proofs.Text.Search

/-!
# Cutting paths at markers

A marker that occurs in an identity cuts it (`Cut`): what is kept begins with the first occurrence of the marker, or
with the one character in front of it (`exists_cut`). Cut again at the same marker it stays as it is
(`Cut.cutAtMarker_result`).

Main statement: whatever the markers are, what is left of a path is an end of it; a marker that is empty or does not
occur when its turn comes makes no difference; and the last marker, if it occurs, leaves the longest end that begins
with it or with one character in front of it (`shortenIdentity_spec`). Ends are compared by their bytes, so it is also
said that no such end begins inside a character.
-/

namespace PackageAudit.Artifact

open Text.Utf8 (encode)

/-! ## One marker -/

section OneMarker

variable {path marker removed lead after : List Char} {front back : List UInt8}

/-- What is kept of a text before a marker is its last character. -/
theorem lastChar_concat (front : List Char) (c : Char) : lastChar (front ++ [c]) = [c] := by
  induction front with
  | nil => rfl
  | cons d front ih =>
    cases front with
    | nil => rfl
    | cons e front => exact ih

/-- How a path is cut at the first occurrence of a marker: all in front of the marker is removed but one character. -/
structure Cut (path marker removed lead after : List Char) : Prop where
  whole : path = removed ++ (lead ++ (marker ++ after))
  single : (removed = [] ∧ lead = []) ∨ ∃ c, lead = [c]
  first : ∀ earlier, earlier ++ marker <+: path → removed.length + lead.length ≤ earlier.length

/-- A path is cut at a marker that occurs in it. -/
theorem exists_cut (ne_nil : marker ≠ []) (occurs : marker <:+: path) :
    ∃ removed lead after, Cut path marker removed lead after ∧ cutAtMarker path marker = lead ++ (marker ++ after) := by
  obtain ⟨⟨before, after⟩, hcut⟩ : ∃ cut, Text.cutFirst marker path = some cut :=
    Option.ne_none_iff_exists'.mp fun none => Text.cutFirst_eq_none_iff.mp none occurs
  obtain ⟨whole, first⟩ := Text.cutFirst_eq_some_iff.mp hcut
  have kept : cutAtMarker path marker = lastChar before ++ (marker ++ after) := by
    rw [cutAtMarker, if_neg ne_nil, hcut, ← List.append_assoc]
  rw [List.append_assoc] at whole
  rcases List.eq_nil_or_concat before with rfl | ⟨removed, c, rfl⟩
  · exact ⟨[], [], after, ⟨whole, .inl ⟨rfl, rfl⟩, first⟩, kept⟩
  · rw [List.concat_eq_append] at whole first kept
    rw [lastChar_concat] at kept
    refine ⟨removed, [c], after, ⟨by rw [whole, List.append_assoc], .inr ⟨c, rfl⟩, ?_⟩, kept⟩
    simpa using first

theorem cutAtMarker_of_not_occurs (h : marker = [] ∨ ¬marker <:+: path) : cutAtMarker path marker = path := by
  rcases h with rfl | absent
  · rfl
  · unfold cutAtMarker
    split
    next => rfl
    next => rw [Text.cutFirst_eq_none_iff.mpr absent]

/-- **Cut again** at the same marker, what was kept stays as it is. -/
theorem Cut.cutAtMarker_result (h : Cut path marker removed lead after) (ne_nil : marker ≠ []) :
    cutAtMarker (lead ++ (marker ++ after)) marker = lead ++ (marker ++ after) := by
  have again : Text.cutFirst marker (lead ++ (marker ++ after)) = some (lead, after) := by
    refine Text.cutFirst_eq_some_iff.mpr ⟨(List.append_assoc _ _ _).symm, fun earlier ⟨rest, hrest⟩ => ?_⟩
    have occurs : removed ++ earlier ++ marker <+: path :=
      ⟨rest, by rw [h.whole, ← hrest]; simp only [List.append_assoc]⟩
    have := h.first _ occurs
    rw [List.length_append] at this
    omega
  have same : lastChar lead = lead := by
    rcases h.single with ⟨-, rfl⟩ | ⟨c, rfl⟩ <;> rfl
  rw [cutAtMarker, if_neg ne_nil, again, ← List.append_assoc]
  simp only [same]

/-! ## Where a cut begins among the bytes -/

/-- Whether bytes begin with those of a marker, or with those of one character and the marker. -/
def BeginsWith (marker : List Char) (bytes : List UInt8) : Prop :=
  encode marker <+: bytes ∨ ∃ c, encode (c :: marker) <+: bytes

/-- What is kept begins with the marker or with one character in front of it. -/
theorem Cut.beginsWith (h : Cut path marker removed lead after) :
    BeginsWith marker (encode (lead ++ (marker ++ after))) := by
  rcases h.single with ⟨-, rfl⟩ | ⟨c, rfl⟩
  · exact .inl ⟨encode after, (Text.Utf8.encode_append marker after).symm⟩
  · exact .inr ⟨c, encode after, (Text.Utf8.encode_append (c :: marker) after).symm⟩

/-- Where bytes of a path begin with a marker or one character in front of it, as much of the path stands before them
as is removed. -/
theorem Cut.exists_before (h : Cut path marker removed lead after) (ne_nil : marker ≠ [])
    (whole : encode path = front ++ back) (begins : BeginsWith marker back) :
    ∃ before rest, path = before ++ rest ∧ back = encode rest ∧ removed.length ≤ before.length := by
  rcases begins with ⟨more, rfl⟩ | ⟨c, more, rfl⟩
  · obtain ⟨before, rest, rfl, -, rfl⟩ := Text.Utf8.exists_of_encode_eq_append ne_nil whole
    have := h.first before ⟨rest, List.append_assoc _ _ _⟩
    exact ⟨before, marker ++ rest, rfl, (Text.Utf8.encode_append marker rest).symm, by omega⟩
  · obtain ⟨before, rest, rfl, -, rfl⟩ := Text.Utf8.exists_of_encode_eq_append (List.cons_ne_nil c marker) whole
    have := h.first (before ++ [c]) ⟨rest, by simp⟩
    refine ⟨before, c :: marker ++ rest, rfl, (Text.Utf8.encode_append (c :: marker) rest).symm, ?_⟩
    rcases h.single with ⟨rfl, -⟩ | ⟨d, rfl⟩
    · exact Nat.zero_le _
    · simp only [List.length_append, List.length_singleton] at this
      omega

/-- **No end of the path that begins so is longer** than what is kept. -/
theorem Cut.length_le (h : Cut path marker removed lead after) (ne_nil : marker ≠ [])
    (whole : encode path = front ++ back) (begins : BeginsWith marker back) :
    back.length ≤ (encode (lead ++ (marker ++ after))).length := by
  obtain ⟨before, rest, hpath, rfl, hlength⟩ := h.exists_before ne_nil whole begins
  have shorter : rest <:+ lead ++ (marker ++ after) := by
    have same := h.whole.symm.trans hpath
    have lengths : removed.length + (lead ++ (marker ++ after)).length = before.length + rest.length := by
      rw [← List.length_append, ← List.length_append, same]
    refine List.suffix_of_suffix_length_le ⟨before, rfl⟩ ⟨removed, same⟩ ?_
    omega
  obtain ⟨between, hbetween⟩ := shorter
  rw [← hbetween, Text.Utf8.encode_append, List.length_append]
  omega

end OneMarker

/-! ## All markers -/

/-- What is left of an identity that was cut at a marker: the longest end of it, by its bytes, that begins with the
marker or with one character in front of it. -/
structure LongestEnd (marker identity left : String) : Prop where
  isEnd : ∃ removed, identity = removed ++ left
  begins : BeginsWith marker.toList (encode left.toList)
  longest : ∀ front back, encode identity.toList = front ++ back → BeginsWith marker.toList back →
    back.length ≤ (encode left.toList).length

section AllMarkers

variable {path marker : String}

@[simp] theorem shortenIdentity_nil (path : String) : shortenIdentity path [] = path := by
  rw [shortenIdentity, List.foldl_nil, String.ofList_toList]

theorem shortenIdentity_append (path : String) (earlier later : List String) :
    shortenIdentity path (earlier ++ later) = shortenIdentity (shortenIdentity path earlier) later := by
  rw [shortenIdentity, shortenIdentity, shortenIdentity, List.foldl_append, String.toList_ofList]

theorem shortenIdentity_cons (path marker : String) (later : List String) : shortenIdentity path (marker :: later)
    = shortenIdentity (String.ofList (cutAtMarker path.toList marker.toList)) later := by
  rw [shortenIdentity, shortenIdentity, List.foldl_cons, String.toList_ofList]

theorem toList_shortenIdentity_singleton (path marker : String) :
    (shortenIdentity path [marker]).toList = cutAtMarker path.toList marker.toList := by
  rw [shortenIdentity_cons, shortenIdentity_nil, String.toList_ofList]

theorem shortenIdentity_of_not_occurs (h : marker = "" ∨ ¬marker.toList <:+: path.toList) (later : List String) :
    shortenIdentity path (marker :: later) = shortenIdentity path later := by
  have none : marker.toList = [] ∨ ¬marker.toList <:+: path.toList := h.imp_left fun empty => by rw [empty]; rfl
  rw [shortenIdentity_cons, cutAtMarker_of_not_occurs none, String.ofList_toList]

/-- A marker that occurs leaves the longest end that begins with it or with one character in front of it. -/
theorem longestEnd_shortenIdentity (ne_empty : marker ≠ "") (occurs : marker.toList <:+: path.toList) :
    LongestEnd marker path (shortenIdentity path [marker]) := by
  have ne_nil : marker.toList ≠ [] := mt String.toList_eq_nil_iff.mp ne_empty
  obtain ⟨removed, lead, after, cut, kept⟩ := exists_cut ne_nil occurs
  have left := (toList_shortenIdentity_singleton path marker).trans kept
  refine ⟨⟨String.ofList removed, String.toList_inj.mp ?_⟩, ?_, fun front back whole begins => ?_⟩
  · rw [String.toList_append, String.toList_ofList, left, ← cut.whole]
  · rw [left]
    exact cut.beginsWith
  · rw [left]
    exact cut.length_le ne_nil whole begins

theorem shortenIdentity_shortenIdentity (ne_empty : marker ≠ "") (occurs : marker.toList <:+: path.toList) :
    shortenIdentity (shortenIdentity path [marker]) [marker] = shortenIdentity path [marker] := by
  have ne_nil : marker.toList ≠ [] := mt String.toList_eq_nil_iff.mp ne_empty
  obtain ⟨removed, lead, after, cut, kept⟩ := exists_cut ne_nil occurs
  refine String.toList_inj.mp ?_
  rw [toList_shortenIdentity_singleton, toList_shortenIdentity_singleton, kept, cut.cutAtMarker_result ne_nil]

/-- What is left of a path is an end of it. -/
theorem exists_eq_append_shortenIdentity (markers : List String) :
    ∀ path : String, ∃ removed, path = removed ++ shortenIdentity path markers := by
  induction markers with
  | nil => exact fun path => ⟨"", by rw [shortenIdentity_nil, String.empty_append]⟩
  | cons marker markers ih =>
    intro path
    by_cases h : marker = "" ∨ ¬marker.toList <:+: path.toList
    · rw [shortenIdentity_of_not_occurs h]
      exact ih path
    · obtain ⟨ne_empty, occurs⟩ := not_or.mp h
      obtain ⟨first, hfirst⟩ := (longestEnd_shortenIdentity ne_empty (not_not.mp occurs)).isEnd
      obtain ⟨second, hsecond⟩ := ih (shortenIdentity path [marker])
      refine ⟨first ++ second, ?_⟩
      rw [← List.singleton_append, shortenIdentity_append, String.append_assoc, ← hsecond, ← hfirst]

/-- **Shortened identities.** What is left of a path is an end of it. A marker that is empty or does not occur in the
identity when its turn comes makes no difference. A last marker that occurs in the identity that the others have left
leaves the longest end of it that begins with the marker or with one character in front of it. So does a single
marker, which then cuts no further. -/
theorem shortenIdentity_spec (path : String) :
    (∀ markers, ∃ removed, path = removed ++ shortenIdentity path markers)
      ∧ (∀ earlier marker later, (marker = "" ∨ ¬marker.toList <:+: (shortenIdentity path earlier).toList) →
          shortenIdentity path (earlier ++ marker :: later) = shortenIdentity path (earlier ++ later))
      ∧ (∀ earlier marker, marker ≠ "" → marker.toList <:+: (shortenIdentity path earlier).toList →
          LongestEnd marker (shortenIdentity path earlier) (shortenIdentity path (earlier ++ [marker])))
      ∧ ∀ marker, marker ≠ "" → marker.toList <:+: path.toList →
          LongestEnd marker path (shortenIdentity path [marker])
            ∧ shortenIdentity (shortenIdentity path [marker]) [marker] = shortenIdentity path [marker] := by
  refine ⟨fun markers => exists_eq_append_shortenIdentity markers path, ?_, ?_, ?_⟩
  · intro earlier marker later h
    rw [shortenIdentity_append, shortenIdentity_append, shortenIdentity_of_not_occurs h]
  · intro earlier marker ne_empty occurs
    rw [shortenIdentity_append]
    exact longestEnd_shortenIdentity ne_empty occurs
  · intro marker ne_empty occurs
    exact ⟨longestEnd_shortenIdentity ne_empty occurs, shortenIdentity_shortenIdentity ne_empty occurs⟩

/-- One character is kept in front of a marker, of however many bytes. -/
example : shortenIdentity "aöäTERADATA/DBAI" ["", "TERADATA", "NONE"] = "äTERADATA/DBAI" := by
  decide +kernel

end AllMarkers

end PackageAudit.Artifact
