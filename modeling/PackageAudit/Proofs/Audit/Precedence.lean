import PackageAudit.Proofs.Artifact.Identity
import PackageAudit.Proofs.Audit.Run
import PackageAudit.Proofs.Ordered.Ascending
import PackageAudit.Proofs.Text.ByteOrder

/-!
# Where the built-in identities are listed

The two built-in identities begin with a full stop so that they are listed first. They stand in front of the identity
of an artifact exactly if the bytes of that identity are the greater ones (`builtin_first_iff`). This is so if none
of the characters with which an identity can begin (that of the path, that of a marker, one in front of a marker)
comes before the slash (`SortsLate`). It is not so for a path that begins with `./`, as all do in a package that is
opened as `.` (`builtin_not_first_below_dot`).
-/

namespace PackageAudit

/-! ## Texts that begin after the full stop -/

/-- Whether a text begins with a character that comes after the full stop. -/
def BeginsLate (text : List Char) : Prop :=
  ∃ c rest, text = c :: rest ∧ '.' < c

/-- A text that begins after the full stop is greater than one that begins with it. -/
theorem lt_of_beginsLate {a b : String} {rest : List Char} (ha : a.toList = '.' :: rest) (hb : BeginsLate b.toList) :
    a < b := by
  obtain ⟨c, more, hb, hc⟩ := hb
  show a.toList < b.toList
  rw [ha, hb]
  exact List.Lex.rel hc

namespace Artifact

/-- A cut at a marker leaves the path, or a part of it that begins with the marker or one character in front of it. -/
theorem cutAtMarker_cases (path marker : List Char) :
    cutAtMarker path marker = path
      ∨ marker ≠ [] ∧ ∃ start after, cutAtMarker path marker = start ++ marker ++ after
          ∧ cutAtMarker path marker <:+ path ∧ (start = [] ∨ ∃ c, start = [c]) := by
  by_cases h : marker = [] ∨ ¬marker <:+: path
  · exact Or.inl (cutAtMarker_of_not_occurs h)
  · obtain ⟨ne_nil, occurs⟩ := not_or.mp h
    obtain ⟨removed, lead, after, cut, kept⟩ := exists_cut ne_nil (not_not.mp occurs)
    refine Or.inr ⟨ne_nil, lead, after, by rw [kept, List.append_assoc], ⟨removed, ?_⟩, cut.single.imp_left And.right⟩
    rw [kept, ← cut.whole]

/-- Whether every character that the identity of a path can begin with comes after the full stop: the first one of the
path, the first one of a marker, and one in front of a marker. -/
structure SortsLate (path : String) (markers : List String) : Prop where
  start : BeginsLate path.toList
  marker : ∀ m ∈ markers, m ≠ "" → BeginsLate m.toList
  separator : ∀ m ∈ markers, m ≠ "" → ∀ c rest, c :: (m.toList ++ rest) <:+ path.toList → '.' < c

/-- The cuts at all markers leave a text that begins after the full stop. -/
theorem beginsLate_foldl_cut {path : List Char} {markers : List String}
    (marker : ∀ m ∈ markers, m ≠ "" → BeginsLate m.toList)
    (separator : ∀ m ∈ markers, m ≠ "" → ∀ c rest, c :: (m.toList ++ rest) <:+ path → '.' < c) :
    ∀ {identity : List Char}, identity <:+ path → BeginsLate identity →
      BeginsLate (markers.foldl (fun identity marker => cutAtMarker identity marker.toList) identity) := by
  induction markers with
  | nil => exact fun _ hb => hb
  | cons m markers ih =>
    intro identity hs hb
    have later := @ih (fun n hn => marker n (List.mem_cons_of_mem _ hn))
      (fun n hn => separator n (List.mem_cons_of_mem _ hn))
    rw [List.foldl_cons]
    rcases cutAtMarker_cases identity m.toList with hcut | ⟨hne, start, after, hcut, hsuffix, hstart⟩
    · rw [hcut]
      exact later hs hb
    · have hm : m ≠ "" := fun h => hne (h ▸ rfl)
      refine later (hsuffix.trans hs) ?_
      rcases hstart with rfl | ⟨c, rfl⟩
      · obtain ⟨c, rest, hmarker, hc⟩ := marker m List.mem_cons_self hm
        exact ⟨c, rest ++ after, by rw [hcut, hmarker]; rfl, hc⟩
      · rw [hcut] at hsuffix ⊢
        exact ⟨c, m.toList ++ after, by simp,
          separator m List.mem_cons_self hm c after (by simpa using hsuffix.trans hs)⟩

theorem SortsLate.identity {path : String} {markers : List String} (h : SortsLate path markers) :
    BeginsLate (shortenIdentity path markers).toList := by
  unfold shortenIdentity
  rw [String.toList_ofList]
  exact beginsLate_foldl_cut h.marker h.separator List.suffix_rfl h.start

end Artifact

/-! ## The order of the identities -/

theorem Findings.map_name_entries (f : Findings) : f.entries.map (·.name) = f.identities := by
  simp only [entries, identities, toList, Register.keys, List.map_map]
  rfl

namespace Audit

theorem ObjectCounts.toList_identity : ObjectCounts.identity.toList = '.' :: "Object Counts".toList := rfl

/-- The built-in identities as they are listed. -/
def builtinIdentities : List String := [ChangeRequest.identity, ObjectCounts.identity]

/-- The built-in identities are listed in front of an identity exactly if it is listed and greater than both. -/
theorem builtin_sublist_iff (o : Options) (corpus : Corpus) (catalog : Catalog) (x : String) :
    (builtinIdentities ++ [x]).Sublist (run o corpus catalog).identities
      ↔ x ∈ (run o corpus catalog).identities ∧ ObjectCounts.identity < x := by
  have counts : ObjectCounts.identity ∈ (run o corpus catalog).identities := mem_identities_evaluate.mpr (Or.inl rfl)
  have request : ChangeRequest.identity ∈ (run o corpus catalog).identities :=
    mem_identities_evaluate.mpr (Or.inr (Or.inl rfl))
  have order : ChangeRequest.identity < ObjectCounts.identity := by decide
  rw [sublist_iff_of_ascending (Findings.ascending_identities _)]
  constructor
  · rintro ⟨ascending, listed⟩
    refine ⟨listed x (by simp), ?_⟩
    have := (List.pairwise_cons.mp ascending).2
    exact (List.pairwise_cons.mp this).1 x (by simp)
  · rintro ⟨hx, hlt⟩
    refine ⟨?_, ?_⟩
    · refine List.pairwise_cons.mpr ⟨?_, List.pairwise_pair.mpr hlt⟩
      intro y hy
      rcases List.mem_pair.mp hy with rfl | rfl
      · exact order
      · exact String.lt_trans order hlt
    · simp [builtinIdentities, request, counts, hx]

/-- **Where the built-in identities stand**: the entries of the findings have the order of the identities, in which
the built-in ones stand in front of the identity of an artifact exactly if it is listed and its bytes are greater
than those of both. They do if no character that the identity can begin with comes before the slash. -/
theorem builtin_first_iff (o : Options) (corpus : Corpus) (catalog : Catalog) (path : String) :
    (run o corpus catalog).entries.map (·.name) = (run o corpus catalog).identities
      ∧ ((builtinIdentities ++ [o.identity path]).Sublist (run o corpus catalog).identities
          ↔ o.identity path ∈ (run o corpus catalog).identities
            ∧ ∀ builtin ∈ builtinIdentities,
                Text.Utf8.encode builtin.toList < Text.Utf8.encode (o.identity path).toList)
      ∧ (Artifact.SortsLate path o.rootMarkers → o.identity path ∈ (run o corpus catalog).identities →
          (builtinIdentities ++ [o.identity path]).Sublist (run o corpus catalog).identities) := by
  have order : ChangeRequest.identity < ObjectCounts.identity := by decide
  refine ⟨Findings.map_name_entries _, ?_, fun late listed => ?_⟩
  · rw [builtin_sublist_iff]
    refine and_congr_right fun _ => ?_
    simp only [builtinIdentities, List.forall_mem_cons, List.not_mem_nil, false_imp_iff, implies_true, and_true,
      ← Text.Utf8.lt_iff_encode_lt]
    exact ⟨fun h => ⟨String.lt_trans order h, h⟩, And.right⟩
  · rw [builtin_sublist_iff]
    exact ⟨listed, lt_of_beginsLate ObjectCounts.toList_identity late.identity⟩

/-- A catalog that selects every path and finds fault with none. -/
def everyPath : Catalog where
  conditions := ⟨[⟨"any path", "", .filePath, .all, .contains []⟩], by decide⟩
  actions := ⟨[⟨"nothing", .unknown, ""⟩], by decide⟩
  rules := [⟨0, 0, .error, "never said"⟩]
  valid := by decide

/-- The artifacts at some paths, without texts. -/
def pathsOnly (paths : List String) : Corpus where
  paths := paths
  content := fun _ => none

/-- The options under which identities begin at one marker. -/
def markedOptions : Options where
  rootMarkers := ["DBAI"]

/-- The built-in identities stand in front of an artifact below a root marker. -/
theorem builtin_first_below_marker :
    Artifact.SortsLate "pkg/DBAI/X.tbl" markedOptions.rootMarkers
      ∧ markedOptions.identity "pkg/DBAI/X.tbl" = "/DBAI/X.tbl"
      ∧ (builtinIdentities ++ [markedOptions.identity "pkg/DBAI/X.tbl"]).Sublist
          (run markedOptions (pathsOnly ["pkg/DBAI/X.tbl"]) everyPath).identities := by
  have late : Artifact.SortsLate "pkg/DBAI/X.tbl" markedOptions.rootMarkers := by
    refine ⟨⟨'p', "kg/DBAI/X.tbl".toList, rfl, by decide⟩, ?_, ?_⟩
    · intro m hm _
      rw [List.mem_singleton.mp hm]
      exact ⟨'D', "BAI".toList, rfl, by decide⟩
    · intro m hm _ c rest h
      rw [List.mem_singleton.mp hm] at h
      simp [List.suffix_cons_iff] at h
      rw [h.1]
      decide
  have listed : markedOptions.identity "pkg/DBAI/X.tbl"
      ∈ (run markedOptions (pathsOnly ["pkg/DBAI/X.tbl"]) everyPath).identities := by decide +kernel
  have first := builtin_first_iff markedOptions (pathsOnly ["pkg/DBAI/X.tbl"]) everyPath "pkg/DBAI/X.tbl"
  exact ⟨late, by decide +kernel, first.2.2 late listed⟩

/-- **The built-in identities are not always first**: an artifact in a package that is opened as `.` is listed in
front of them, though its path is neither of the two. -/
theorem builtin_not_first_below_dot :
    "./Orders.tbl" ∉ builtinIdentities
      ∧ (run {} (pathsOnly ["./Orders.tbl"]) everyPath).identities = "./Orders.tbl" :: builtinIdentities
      ∧ ¬(builtinIdentities ++ ["./Orders.tbl"]).Sublist
          (run {} (pathsOnly ["./Orders.tbl"]) everyPath).identities := by
  have listed : (run {} (pathsOnly ["./Orders.tbl"]) everyPath).identities = "./Orders.tbl" :: builtinIdentities := by
    decide +kernel
  refine ⟨by decide, listed, ?_⟩
  rw [listed]
  decide

end Audit
end PackageAudit
