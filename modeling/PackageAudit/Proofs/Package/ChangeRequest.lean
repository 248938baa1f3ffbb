import Mathlib.Data.List.Induction
import PackageAudit.Proofs.Artifact.Name
import PackageAudit.Proofs.Package.Paths
import PackageAudit.Proofs.Package.Session
import PackageAudit.Proofs.Text.Search

/-!
# The change request number of a package

A package takes the number from each of its version files, and then the last of these. That is the number on the last
line with a mark in all of them together (`changeRequest_eq`), and so it depends on the lines with a mark only
(`changeRequest_congr`). What number lines state is said by `States`, which one number satisfies (`states_iff`).

Main statement: `changeRequest_states`.
-/

namespace PackageAudit.Package

variable {t t' : FileTree} {paths paths' : List String} {lines : List (List Char)} {number : String}

/-! ## The number that lines state -/

/-- The number that lines state, in their order: that on the last line with a mark, without the blanks around it. It
stands behind the first mark of the line. Where no line has a mark it is empty. -/
inductive States : List (List Char) → String → Prop
  | unmarked {lines : List (List Char)} (none : ∀ line ∈ lines, ¬numberMark.toList <:+: line) : States lines ""
  | marked (before : List (List Char)) {line front rest : List Char} {after : List (List Char)}
    (stands : line = front ++ numberMark.toList ++ rest)
    (first : ∀ earlier, earlier ++ numberMark.toList <+: line → front.length ≤ earlier.length)
    (none : ∀ later ∈ after, ¬numberMark.toList <:+: later) :
    States (before ++ line :: after) (String.ofList (Text.trim rest))

theorem numberOn?_eq_none_iff {line : List Char} : numberOn? line = none ↔ ¬numberMark.toList <:+: line := by
  rw [numberOn?, Option.map_eq_none_iff, Text.cutFirst_eq_none_iff]

theorem filterMap_numberOn?_of_unmarked (h : ∀ line ∈ lines, ¬numberMark.toList <:+: line) :
    lines.filterMap numberOn? = [] := by
  rw [List.filterMap_eq_nil_iff]
  intro line hl
  exact numberOn?_eq_none_iff.mpr (h line hl)

/-- The last number is one that the lines state. -/
theorem states_last (lines : List (List Char)) : States lines ((lines.filterMap numberOn?).getLast?.getD "") := by
  induction lines using List.reverseRecOn with
  | nil => exact .unmarked (by simp)
  | append_singleton lines line ih =>
    rw [List.filterMap_append]
    cases hn : numberOn? line with
    | some number =>
      obtain ⟨⟨front, rest⟩, hcut, rfl⟩ := Option.map_eq_some_iff.mp hn
      obtain ⟨stands, first⟩ := Text.cutFirst_eq_some_iff.mp hcut
      have last := States.marked lines stands first (List.forall_mem_nil _)
      simpa [hn] using last
    | none =>
      have silent := numberOn?_eq_none_iff.mp hn
      have same : [line].filterMap numberOn? = [] := by simp [hn]
      rw [same, List.append_nil]
      -- a line without a mark leaves the number as it is
      generalize (lines.filterMap numberOn?).getLast?.getD "" = number at ih
      cases ih with
      | unmarked none => exact .unmarked (by simpa [or_imp, forall_and] using ⟨none, silent⟩)
      | @marked before marked front rest after stands first none =>
        rw [List.append_assoc, List.cons_append]
        exact .marked before stands first (by simpa [or_imp, forall_and] using ⟨none, silent⟩)

/-- **Lines state one number**: the last. -/
theorem states_iff : States lines number ↔ (lines.filterMap numberOn?).getLast?.getD "" = number := by
  constructor
  · intro h
    cases h with
    | unmarked none => rw [filterMap_numberOn?_of_unmarked none]; rfl
    | @marked before line front rest after stands first none =>
      have own : numberOn? line = some (String.ofList (Text.trim rest)) := by
        rw [numberOn?, Text.cutFirst_eq_some_iff.mpr ⟨stands, first⟩]
        rfl
      rw [List.filterMap_append, List.filterMap_cons_some own, filterMap_numberOn?_of_unmarked none,
        List.getLast?_concat]
      rfl
  · rintro rfl
    exact states_last lines

/-! ## The number of a package -/

/-- The last of the numbers of the files is the last number in all of them together. -/
theorem changeRequest_eq (t : FileTree) (paths : List String) : changeRequest t paths
    = ((linesWhere t paths (Artifact.mentions "Version.txt")).filterMap numberOn?).getLast?.getD "" := by
  unfold changeRequest linesWhere
  rw [List.filterMap_flatMap, List.getLast?_flatMap, List.getLast?_filterMap]
  rfl

/-- The lines with a mark in the version files, file by file; there are none in a file that cannot be read. -/
def markedLines (t : FileTree) (paths : List String) : List (List Char) :=
  (paths.filter (Artifact.mentions "Version.txt")).flatMap fun path =>
    match textOf t path with
    | none => []
    | some text => (Text.lines text).filter (Text.contains numberMark.toList)

theorem filterMap_numberOn?_lines (text : List Char) : (Text.lines text).filterMap numberOn?
    = ((Text.lines text).filter (Text.contains numberMark.toList)).filterMap numberOn? := by
  rw [List.filterMap_filter]
  refine List.filterMap_congr fun line _ => ?_
  split
  next => rfl
  next unmarked => exact numberOn?_eq_none_iff.mpr fun h => unmarked (Text.contains_iff.mpr h)

/-- The numbers in the version files are those on their lines with a mark. -/
theorem filterMap_linesWhere (t : FileTree) (paths : List String) :
    (linesWhere t paths (Artifact.mentions "Version.txt")).filterMap numberOn?
      = (markedLines t paths).filterMap numberOn? := by
  unfold linesWhere markedLines
  induction paths.filter (Artifact.mentions "Version.txt") with
  | nil => rfl
  | cons path paths ih =>
    rw [List.flatMap_cons, List.filterMap_append, ← ih]
    cases hread : textOf t path with
    | none => simp [hread]
    | some text => simp [hread, filterMap_numberOn?_lines text]

/-- **Only lines with a mark count**, and only those of version files. -/
theorem changeRequest_congr (h : markedLines t' paths' = markedLines t paths) :
    changeRequest t' paths' = changeRequest t paths := by
  rw [changeRequest_eq, changeRequest_eq, filterMap_linesWhere, filterMap_linesWhere, h]

/-! ## The first answer -/

variable {p : Package} {root : String} {keywordsFile : Option String} {ignores : List String}

/-- The first answer about the number is what the files state then. -/
theorem answer_changeRequest (h : Package.open t root keywordsFile ignores = .ok p) {before : List Event}
    (unasked : ∀ event ∈ before, event ≠ .ask .changeRequest) :
    ((Session.mk t p).after before).answer .changeRequest
      = .text (changeRequest (before.foldl Event.edited t) p.paths) := by
  rw [Session.answer_eq, Session.known?_after_of_not_asked unasked, known?_of_open h, Session.survey_after,
    Session.tree_after]
  rfl

/-- **The change request number.** A package was opened and its files may have changed since. When its number is asked
for the first time, the answer is what the lines of the version files state that can be read then: of the files whose
paths hold the name, in the order of the paths, as one list of lines. Packages whose version files have the same lines
with a mark in the same order give the same answer, so other files make no difference, nor do lines without a mark, nor
files that cannot be read. -/
theorem changeRequest_states (h : Package.open t root keywordsFile ignores = .ok p) (before : List Event)
    (unasked : ∀ event ∈ before, event ≠ .ask .changeRequest) :
    (∀ number, ((Session.mk t p).after before).answer .changeRequest = .text number
      ↔ States (linesWhere (before.foldl Event.edited t) p.paths (Artifact.mentions "Version.txt")) number)
    ∧ ∀ (t' : FileTree) (root' : String) (keywordsFile' : Option String) (ignores' : List String) (p' : Package)
        (before' : List Event), Package.open t' root' keywordsFile' ignores' = .ok p' →
      (∀ event ∈ before', event ≠ .ask .changeRequest) →
      markedLines (before'.foldl Event.edited t') p'.paths = markedLines (before.foldl Event.edited t) p.paths →
      ((Session.mk t' p').after before').answer .changeRequest
        = ((Session.mk t p).after before).answer .changeRequest := by
  refine ⟨fun number => ?_, fun t' root' keywordsFile' ignores' p' before' h' unasked' same => ?_⟩
  · rw [answer_changeRequest h unasked, states_iff, changeRequest_eq, FactValue.text.injEq]
  · rw [answer_changeRequest h unasked, answer_changeRequest h' unasked', changeRequest_congr same]

/-- A package with two version files. The second of them states no number, and the last line of the first has two
marks. -/
def twiceVersioned : FileTree :=
  ((({} : FileTree).set ["pkg"] .directory).set ["pkg", "1.Version.txt"]
    (.file (Text.Utf8.encode "CR_NUMBER: C1\rCR_NUMBER: C2 CR_NUMBER:\r\n".toList))).set ["pkg", "2.Version.txt"]
      (.file (Text.Utf8.encode "C3".toList))

/-- The number stands behind the first of the marks, and it is the same after the second file was removed. -/
theorem changeRequest_states_twice : ∃ p, Package.open twiceVersioned "pkg" none [] = .ok p
    ∧ ((Session.mk twiceVersioned p).after []).answer .changeRequest = .text "C2 CR_NUMBER:"
    ∧ ((Session.mk twiceVersioned p).after [.remove "pkg/2.Version.txt"]).answer .changeRequest
      = .text "C2 CR_NUMBER:" := by
  have rooted : Rooted twiceVersioned "pkg" ["pkg"] := ⟨by decide +kernel, by decide +kernel, by decide +kernel⟩
  have valid : readGlobs [] = .ok [] := rfl
  have opened : Package.open twiceVersioned "pkg" none [] = .ok _ := rooted.open_eq valid none
  have paths : pathsBelow twiceVersioned "pkg" ["pkg"] [] = ["pkg/1.Version.txt", "pkg/2.Version.txt"] :=
    List.mergeSort_of_pairwise (by decide +kernel)
  rw [paths] at opened
  have lines : linesWhere twiceVersioned ["pkg/1.Version.txt", "pkg/2.Version.txt"] (Artifact.mentions "Version.txt")
      = ["CR_NUMBER: C1".toList, "CR_NUMBER: C2 CR_NUMBER:".toList, "C3".toList] := by
    decide +kernel
  have stated : States (linesWhere twiceVersioned ["pkg/1.Version.txt", "pkg/2.Version.txt"]
      (Artifact.mentions "Version.txt")) "C2 CR_NUMBER:" := by
    rw [lines, states_iff]
    decide +kernel
  obtain ⟨answer, elsewhere⟩ := changeRequest_states opened [] (List.forall_mem_nil _)
  have before := (answer "C2 CR_NUMBER:").mpr stated
  have removed := elsewhere _ _ _ _ _ [.remove "pkg/2.Version.txt"] opened (by simp [Event.remove]) (by decide +kernel)
  exact ⟨_, opened, before, removed.trans before⟩

end PackageAudit.Package
