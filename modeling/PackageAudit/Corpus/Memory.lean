import PackageAudit.Corpus.Basic
import PackageAudit.Ordered.Roster

/-!
# Corpora in memory

A corpus that is built artifact by artifact. The paths are listed in the order in which they were first added;
adding a path again replaces its text in place.
-/

namespace PackageAudit

/-- An artifact with its text. -/
structure TextArtifact where
  path : String
  text : String
  deriving DecidableEq, Repr

/-- The error of reading a path that was never added. -/
structure NoArtifact where
  path : String
  deriving DecidableEq, Repr

/-- The message for a path that was never added. -/
def NoArtifact.message (e : NoArtifact) : String :=
  "no artifact at " ++ e.path

/-- Artifacts in memory with the facts about them. -/
structure MemoryCorpus where
  artifacts : Roster TextArtifact TextArtifact.path := {}
  facts : Facts := {}

namespace MemoryCorpus

def empty : MemoryCorpus := {}

/-- Adds an artifact, or replaces the text of the one with its path. -/
def withArtifact (c : MemoryCorpus) (path text : String) : MemoryCorpus :=
  { c with artifacts := c.artifacts.put { path, text } }

def withChangeRequest (c : MemoryCorpus) (number : String) : MemoryCorpus :=
  { c with facts := { c.facts with changeRequest := number } }

def withKeywords (c : MemoryCorpus) (keywords : List String) : MemoryCorpus :=
  { c with facts := { c.facts with keywords } }

/-- Sets the names of the created objects. -/
def withCreated (c : MemoryCorpus) (names : List String) : MemoryCorpus :=
  { c with facts := { c.facts with created := .ofList names } }

/-- Sets the names of the deleted objects. -/
def withDeleted (c : MemoryCorpus) (names : List String) : MemoryCorpus :=
  { c with facts := { c.facts with deleted := .ofList names } }

/-- Sets the names of the objects that are rolled back. -/
def withRolledBack (c : MemoryCorpus) (names : List String) : MemoryCorpus :=
  { c with facts := { c.facts with rolledBack := .ofList names } }

/-- The paths, in the order in which they were first added. -/
def paths (c : MemoryCorpus) : List String :=
  c.artifacts.items.map (·.path)

/-- The text of an artifact. -/
def read (c : MemoryCorpus) (path : String) : Except NoArtifact String :=
  match c.artifacts.find? path with
  | some artifact => .ok artifact.text
  | none => .error ⟨path⟩

/-- The corpus that a check sees. -/
def toCorpus (c : MemoryCorpus) : Corpus where
  paths := c.paths
  content := fun path => (c.read path).toOption.map String.toList
  facts := c.facts

end MemoryCorpus
end PackageAudit
