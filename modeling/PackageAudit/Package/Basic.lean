import PackageAudit.Audit.Run
import PackageAudit.Glob.Basic
import PackageAudit.Package.Derive

/-!
# Packages

Opening a package lists its files once, less those that are ignored. Its facts are derived when they are first
asked for and stay as they were then, whatever happens to the files later (`Package.learn`); the files
themselves are read anew each time.
-/

namespace PackageAudit

/-- A package that was opened: the paths of its artifacts, and the facts that are known by now. -/
structure Package where
  paths : List String
  keywordsFile : Option String
  changeRequest? : Option String := none
  keywords? : Option (List String) := none
  created? : Option NameSet := none
  deleted? : Option NameSet := none
  rolledBack? : Option NameSet := none

namespace Package

/-- Why a package cannot be opened. -/
inductive OpenError where
  | missing (root : String)
  | glob (pattern : String) (fault : Glob.Fault)
  deriving DecidableEq, Repr

/-- The message for a package that cannot be opened. -/
def OpenError.message : OpenError → String
  | .missing root => "Package directory not found: " ++ root
  | .glob pattern fault => "Invalid ignore pattern: \"" ++ pattern ++ "\": " ++ fault.message

/-- Reads the globs of the files to be ignored. -/
def readGlobs (patterns : List String) : Except OpenError (List Glob) :=
  patterns.mapM fun pattern => (Glob.read pattern).mapError (.glob pattern)

/-- The path of a file below the root, as globs see it. -/
def relativePath (names : List String) : String :=
  Artifact.normalizePath (Text.join "/" names)

/-- The path of a file, as artifacts are named. -/
def artifactPath (root : String) (names : List String) : String :=
  Artifact.normalizePath (names.foldl Path.join root)

/-- Whether the directory of a file below a root can be listed: its own path may not be too long. -/
def isListed (root : String) (names : List String) : Bool :=
  Text.Utf8.size (names.dropLast.foldl Path.join root).toList < FileTree.longestPath

/-- The paths of the files below a root that no glob admits, in ascending order. Directories that cannot be listed
are passed over. -/
def pathsBelow (t : FileTree) (root : String) (location : Location) (globs : List Glob) : List String :=
  let kept := (t.filesBelow location).filter fun names =>
    isListed root names && !globs.any (·.admits (relativePath names))
  (kept.map (artifactPath root)).mergeSort

/-- Opens a package. -/
def «open» (t : FileTree) (root : String) (keywordsFile : Option String) (ignores : List String) :
    Except OpenError Package :=
  match t.isDirectory root, t.locate root with
  | true, .ok location => do
    let globs ← readGlobs ignores
    .ok { paths := pathsBelow t root location globs, keywordsFile }
  | _, _ => .error (.missing root)

/-- The facts that can be known about a package. -/
inductive Fact where
  | changeRequest
  | keywords
  | created
  | deleted
  | rolledBack
  deriving DecidableEq, Repr

/-- Derives a fact from the files as they are, unless it is known already. -/
def learn (t : FileTree) (p : Package) (fact : Fact) : Package :=
  match fact with
  | .changeRequest => { p with changeRequest? := some (p.changeRequest?.getD (changeRequest t p.paths)) }
  | .keywords => { p with keywords? := some (p.keywords?.getD (keywords t p.keywordsFile)) }
  | .created => { p with created? := some (p.created?.getD (created p.paths)) }
  | .deleted => { p with deleted? := some (p.deleted?.getD (deleted t p.paths)) }
  | .rolledBack => { p with rolledBack? := some (p.rolledBack?.getD (rolledBack t p.paths)) }

def learnAll (t : FileTree) (p : Package) (facts : List Fact) : Package :=
  facts.foldl (learn t) p

/-- The facts as far as they are known. -/
def facts (p : Package) : Facts where
  changeRequest := p.changeRequest?.getD ""
  keywords := p.keywords?.getD []
  created := p.created?.getD .empty
  deleted := p.deleted?.getD .empty
  rolledBack := p.rolledBack?.getD .empty

/-- The facts that the built-in findings need. -/
def builtinFacts : List Fact := [.created, .deleted, .rolledBack, .changeRequest]

/-- A package as a check sees it, with the facts that are known. -/
def corpus (t : FileTree) (p : Package) : Corpus where
  paths := p.paths
  content := textOf t
  facts := p.facts

/-- The outcome of a check of a package: the package with what was learned, what the conditions have selected,
and the findings. -/
structure Checked where
  package : Package
  collected : List (List Audit.Hit)
  findings : Findings

/-- Checks a package. The keywords are asked for only if some text is compared with them. -/
def check (t : FileTree) (o : Audit.Options) (catalog : Catalog) (p : Package) : Checked :=
  let p := p.learnAll t builtinFacts
  let collected := Audit.collect o (p.corpus t) catalog
  let p := if Audit.consultsKeywords catalog collected then p.learn t .keywords else p
  ⟨p, collected, Audit.evaluate o p.facts catalog collected⟩

end Package
end PackageAudit
