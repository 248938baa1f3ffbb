import PackageAudit.Text.Search

/-!
# Paths of artifacts

The path of an artifact is a text with `/` between its components. `normalizePath` makes one of a file path,
`objectName` reads the name of the database object that the artifact defines, and `shortenIdentity` cuts a
path down to the identity under which its findings are reported.
-/

namespace PackageAudit.Artifact

/-- A path with every backslash turned into a slash. -/
def normalizePath (path : String) : String :=
  String.ofList (path.toList.map fun c => if c = '\\' then '/' else c)

/-- The text after the last slash. -/
def lastComponent (path : List Char) : List Char :=
  match Text.cutLast '/' path with
  | some (_, component) => component
  | none => path

/-- The last component of a path without its extension; a component that is nothing but an extension is kept
whole. -/
def objectName (path : String) : String :=
  let component := lastComponent path.toList
  match Text.cutLast '.' component with
  | some (c :: stem, _) => String.ofList (c :: stem)
  | _ => String.ofList component

/-- The last character of a text, alone. -/
def lastChar : List Char → List Char
  | [] => []
  | [c] => [c]
  | _ :: rest => lastChar rest

/-- A path cut to start one character before the first occurrence of a marker, or at the marker where nothing
stands before it. A path without the marker is kept. -/
def cutAtMarker (path marker : List Char) : List Char :=
  if marker = [] then path
  else match Text.cutFirst marker path with
    | some (before, after) => lastChar before ++ marker ++ after
    | none => path

/-- The identity under which the findings of an artifact are reported: the path, cut at each marker in turn. -/
def shortenIdentity (path : String) (markers : List String) : String :=
  String.ofList (markers.foldl (fun identity marker => cutAtMarker identity marker.toList) path.toList)

/-- The markers that cut identities where none are configured. -/
def defaultMarkers : List String := ["TERADATA", "DBAI"]

/-- The last component of a path holds no slash. -/
theorem slash_notMem_lastComponent (path : List Char) : '/' ∉ lastComponent path := by
  have none_iff : ∀ hay : List Char, Text.cutLast '/' hay = none → '/' ∉ hay := by
    intro hay
    induction hay with
    | nil => simp
    | cons c rest ih =>
      intro h
      simp only [Text.cutLast] at h
      split at h
      · simp at h
      · next hr =>
        split at h
        · simp at h
        · next hc => simpa [List.mem_cons, eq_comm] using ⟨hc, ih hr⟩
  have some_notMem : ∀ hay before after : List Char, Text.cutLast '/' hay = some (before, after) →
      '/' ∉ after := by
    intro hay
    induction hay with
    | nil => simp [Text.cutLast]
    | cons c rest ih =>
      intro before after h
      simp only [Text.cutLast] at h
      split at h
      · next b a hr =>
        simp only [Option.some.injEq, Prod.mk.injEq] at h
        exact h.2 ▸ ih b a hr
      · next hr =>
        split at h
        · simp only [Option.some.injEq, Prod.mk.injEq] at h
          exact h.2 ▸ none_iff rest hr
        · simp at h
  unfold lastComponent
  split
  · next before component h => exact some_notMem _ _ _ h
  · next h => exact none_iff _ h

end PackageAudit.Artifact
