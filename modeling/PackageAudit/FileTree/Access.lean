import PackageAudit.FileTree.Basic
import PackageAudit.FileTree.Path
import PackageAudit.Text.Utf8

/-!
# Files by path

A path is followed name by name from the root or the working directory; every name but the last has to lead to
a directory. On this stand the questions about a path, reading, and the two changes to a tree: writing a file
and making directories.
-/

namespace PackageAudit

/-- Why a file cannot be used. -/
inductive FileError where
  | notFound
  | alreadyExists
  | notDirectory
  | isDirectory
  | nameTooLong
  | nulInName
  | notUtf8
  | noDirectoryAbove
  deriving DecidableEq, Repr

/-- The message for an error of files. -/
def FileError.message : FileError → String
  | .notFound => "No such file or directory (os error 2)"
  | .alreadyExists => "File exists (os error 17)"
  | .notDirectory => "Not a directory (os error 20)"
  | .isDirectory => "Is a directory (os error 21)"
  | .nameTooLong => "File name too long (os error 36)"
  | .nulInName => "file name contained an unexpected NUL byte"
  | .notUtf8 => "stream did not contain valid UTF-8"
  | .noDirectoryAbove => "failed to create whole tree"

namespace FileTree

/-- The greatest number of bytes in a name. -/
def longestName : Nat := 255

/-- The number of bytes that a path has to stay below. -/
def longestPath : Nat := 4096

/-- One name further from a location. -/
def step (t : FileTree) (here : Location) (name : String) : Except FileError Location :=
  match t.item? here with
  | none => .error .notFound
  | some (.file _) => .error .notDirectory
  | some .directory =>
    if name = ".." then .ok here.dropLast
    else if longestName < Text.Utf8.size name.toList then .error .nameTooLong
    else .ok (here ++ [name])

/-- The location that a path leads to. What stands there, if anything, is not looked at. -/
def locate (t : FileTree) (path : String) : Except FileError Location :=
  if path.toList.contains '\x00' then .error .nulInName
  else if path = "" then .error .notFound
  else if longestPath ≤ Text.Utf8.size path.toList then .error .nameTooLong
  else
    ((Path.segments path).filter fun name => name ≠ "" && name ≠ ".").foldlM t.step
      (if Path.isAbsolute path then [] else t.workingDirectory)

/-- The last segment of a path that is not empty. -/
def lastSegment? (path : String) : Option String :=
  ((Path.segments path).filter (· ≠ "")).getLast?

/-- Whether the end of a path says that it leads to a directory. -/
def asksForDirectory (path : String) : Bool :=
  Path.endsInSlash path || lastSegment? path == some "."

/-- What stands at the end of a path. -/
def itemAt (t : FileTree) (path : String) : Except FileError Item := do
  match t.item? (← t.locate path) with
  | none => .error .notFound
  | some .directory => .ok .directory
  | some (.file bytes) => if asksForDirectory path then .error .notDirectory else .ok (.file bytes)

/-- Whether there is anything at the end of a path. -/
def exists? (t : FileTree) (path : String) : Bool :=
  (t.itemAt path).isOk

/-- Whether a path leads to a directory. -/
def isDirectory (t : FileTree) (path : String) : Bool :=
  match t.itemAt path with
  | .ok .directory => true
  | _ => false

/-- Whether a path leads to a file. -/
def isFile (t : FileTree) (path : String) : Bool :=
  match t.itemAt path with
  | .ok (.file _) => true
  | _ => false

/-- The bytes of a file. -/
def read (t : FileTree) (path : String) : Except FileError (List UInt8) := do
  match ← t.itemAt path with
  | .file bytes => .ok bytes
  | .directory => .error .isDirectory

/-- The text of a file, which has to be UTF-8. -/
def readText (t : FileTree) (path : String) : Except FileError (List Char) := do
  match Text.Utf8.decode? (← t.read path) with
  | some text => .ok text
  | none => .error .notUtf8

/-- Where a path ends that leads to no further name: at a dot, or at the root. -/
def endsAtDot (path : String) : Bool :=
  lastSegment? path == some "." || (lastSegment? path).isNone

/-- Writes a file, which may exist already. -/
def write (t : FileTree) (path : String) (bytes : List UInt8) : Except FileError FileTree := do
  let location ← t.locate path
  if Path.endsInSlash path && !endsAtDot path then .error .isDirectory
  else match t.item? location, endsAtDot path with
    | some .directory, _ => .error .isDirectory
    | some (.file _), true => .error .notDirectory
    | none, true => .error .notFound
    | _, false => .ok (t.set location (.file bytes))

/-- Removes what stands at the end of a path, with everything below it. -/
def remove (t : FileTree) (path : String) : Except FileError FileTree := do
  let _ ← t.itemAt path
  let location ← t.locate path
  .ok { t with placed := t.placed.filter fun p => !location.isPrefixOf p.location }

/-- Makes one directory. -/
def makeDirectory (t : FileTree) (path : String) : Except FileError FileTree := do
  let location ← t.locate path
  match t.item? location, endsAtDot path with
  | some (.file _), true => .error .notDirectory
  | none, true => .error .notFound
  | some _, _ => .error .alreadyExists
  | none, false => .ok (t.set location .directory)

/-- Makes a directory and those above it that are missing. What was made before an error stays; the error is
given beside the tree. A path gets shorter with every step up, so fuel above its length never runs out. -/
def makeDirectoriesFrom : Nat → FileTree → String → FileTree × Option FileError
  | 0, t, _ => (t, some .noDirectoryAbove)
  | fuel + 1, t, path =>
    if path = "" then (t, none)
    else match t.makeDirectory path with
      | .ok t => (t, none)
      | .error .notFound =>
        match Path.parent? path with
        | none => (t, some .noDirectoryAbove)
        | some parent =>
          match makeDirectoriesFrom fuel t parent with
          | (t, some e) => (t, some e)
          | (t, none) =>
            match t.makeDirectory path with
            | .ok t => (t, none)
            | .error e => (t, if t.isDirectory path then none else some e)
      | .error e => (t, if t.isDirectory path then none else some e)

/-- Makes a directory and those above it that are missing. -/
def makeDirectories (t : FileTree) (path : String) : FileTree × Option FileError :=
  makeDirectoriesFrom (path.length + 1) t path

end FileTree
end PackageAudit
