import PackageAudit.Ordered.Roster

/-!
# File trees

A file tree holds the files and directories of a system by their locations, and the working directory of
whoever looks at it. A location is the list of names from the root; the root itself is always a directory.
-/

namespace PackageAudit

/-- The names from the root to a place. -/
abbrev Location := List String

/-- What can stand at a location. -/
inductive Item where
  | file (bytes : List UInt8)
  | directory
  deriving DecidableEq

/-- An item with its location. -/
structure Placed where
  location : Location
  item : Item
  deriving DecidableEq

/-- Files and directories, and the directory at which relative paths begin. Every file can be read and every name is a
text: links, files without the permission to read them and names that are no UTF-8 are outside the tree. -/
structure FileTree where
  placed : Roster Placed Placed.location := {}
  workingDirectory : Location := []

namespace FileTree

def item? (t : FileTree) (location : Location) : Option Item :=
  if location = [] then some .directory else (t.placed.find? location).map (·.item)

def set (t : FileTree) (location : Location) (item : Item) : FileTree :=
  { t with placed := t.placed.put ⟨location, item⟩ }

/-- Keeps the files that satisfy a predicate, and all directories. -/
def filterFiles (t : FileTree) (keep : Location → Bool) : FileTree :=
  { t with placed := t.placed.filter fun p => p.item = .directory || keep p.location }

/-- Whether all directories above a location exist. -/
def isReachable (t : FileTree) (location : Location) : Bool :=
  (List.range location.length).all fun n => t.item? (location.take n) = some .directory

/-- The files below a directory, by the names that lead to them from there. -/
def filesBelow (t : FileTree) (root : Location) : List (List String) :=
  t.placed.items.filterMap fun p =>
    match p.item with
    | .directory => none
    | .file _ =>
      if t.isReachable p.location && root.isPrefixOf p.location then some (p.location.drop root.length)
      else none

end FileTree
end PackageAudit
