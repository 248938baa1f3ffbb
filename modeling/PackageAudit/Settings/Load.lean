import PackageAudit.FileTree.Access
import PackageAudit.Settings.Decode

/-!
# Finding and loading settings

The settings file is looked for in a directory and in those above it; a directory with a repository ends the
search, though a settings file beside it still counts. Without a file the defaults hold. What a
file says is checked before it is used.
-/

namespace PackageAudit.Settings

def fileName : String := ".tdqarc.json"

/-- The name of what makes a directory the top of a repository. -/
def repositoryMark : String := ".git"

/-- Looks for a settings file from a directory upwards. A path gets shorter with every step up, so fuel above
its length never runs out. -/
def findFrom (t : FileTree) : Nat → String → Option String
  | 0, _ => none
  | fuel + 1, directory =>
    if t.exists? (Path.join directory fileName) then some (Path.join directory fileName)
    else if t.exists? (Path.join directory repositoryMark) then none
    else (Path.parent? directory).bind (findFrom t fuel)

/-- The path of the settings file for a directory. -/
def find? (t : FileTree) (directory : String) : Option String :=
  findFrom t (directory.length + 2) directory

/-- Why settings cannot be loaded. -/
inductive LoadError where
  | unreadable (path : String) (cause : FileError)
  | undecodable (path : String) (cause : DecodeError)
  | invalid (cause : Invalid)
  deriving DecidableEq, Repr

/-- Settings that were loaded, with the file they came from. -/
structure Loaded where
  settings : Settings
  file : Option String
  deriving DecidableEq, Repr

def checked (s : Settings) : Except LoadError Settings :=
  (s.validate.mapError .invalid).map fun () => s

/-- Loads the settings of a file. -/
def loadFile (t : FileTree) (path : String) : Except LoadError Settings := do
  let text ← (t.readText path).mapError (.unreadable path)
  let s ← (decode text).mapError (.undecodable path)
  checked s

/-- Loads the settings for a directory. -/
def load (t : FileTree) (directory : String) : Except LoadError Loaded :=
  match find? t directory with
  | none => .ok ⟨default, none⟩
  | some path => (loadFile t path).map (⟨·, some path⟩)

end PackageAudit.Settings
