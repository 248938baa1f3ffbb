import PackageAudit.Artifact.Kind
import PackageAudit.Artifact.Name
import PackageAudit.Catalog.Condition
import PackageAudit.Corpus.Basic
import PackageAudit.Text.Lines

/-!
# What a condition selects

A condition selects units of text from the artifacts that its filter admits: paths, lines, or whole texts in
which some line satisfies it. Artifacts whose paths end in one of the skipped suffixes are left out.
-/

namespace PackageAudit.Audit

/-- How a check treats artifacts. -/
structure Options where
  /-- The texts at which the paths of artifacts are cut to their identities. -/
  rootMarkers : List String := Artifact.defaultMarkers
  /-- The ends of the paths that are left out. -/
  skipSuffixes : List String := [".gz", ".tar"]
  deriving DecidableEq, Repr

/-- A unit of text that a condition has selected. -/
structure Hit where
  artifact : String
  text : List Char
  deriving DecidableEq, Repr

def Options.skips (o : Options) (path : String) : Bool :=
  o.skipSuffixes.any (Artifact.hasSuffix · path)

/-- The identity under which the findings of an artifact are filed. -/
def Options.identity (o : Options) (path : String) : String :=
  Artifact.shortenIdentity path o.rootMarkers

/-- What a condition selects from an artifact to which it applies, given the text of the artifact if it can be
read. -/
def hits (c : Condition) (path : String) (content : Option (List Char)) : List Hit :=
  match c.scope, content with
  | .filePath, _ => if c.admits path.toList then [⟨path, path.toList⟩] else []
  | .line, some text => ((Text.lines text).filter c.admits).map (⟨path, ·⟩)
  | .script, some text => if (Text.lines text).any c.admits then [⟨path, text⟩] else []
  | .line, none | .script, none => []

end PackageAudit.Audit
