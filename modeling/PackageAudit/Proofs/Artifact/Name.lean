import PackageAudit.Artifact.Kind
import PackageAudit.Artifact.Name
import PackageAudit.Proofs.Text.Search

/-!
# Names of objects in paths

The last component of a path is what follows the last slash (`lastComponent_append`), and it names an object with what
stands before its last full stop (`objectName_of_lastComponent`), whatever else the name and the path hold.
-/

namespace PackageAudit.Artifact

theorem lastComponent_append (before : List Char) {component : List Char} (h : '/' ∉ component) :
    lastComponent (before ++ '/' :: component) = component := by
  rw [lastComponent, Text.cutLast_append before h]

/-- The object of a component is what stands before the last full stop. -/
theorem objectName_of_lastComponent {path : String} {stem extension : List Char}
    (h : lastComponent path.toList = stem ++ '.' :: extension) (ne_nil : stem ≠ []) (own : '.' ∉ extension) :
    objectName path = String.ofList stem := by
  obtain ⟨c, rest, rfl⟩ := List.exists_cons_of_ne_nil ne_nil
  simp only [objectName, h, Text.cutLast_append (c :: rest) own]

theorem hasSuffix_iff {suffix path : String} : hasSuffix suffix path = true ↔ suffix.toList <:+ path.toList :=
  List.isSuffixOf_iff_suffix

theorem mentions_iff {part path : String} : mentions part path = true ↔ part.toList <:+: path.toList :=
  Text.contains_iff

end PackageAudit.Artifact
