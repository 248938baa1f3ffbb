/-!
# Paths

A path is a text whose segments stand between slashes. Empty segments and single dots say nothing, except for
a dot at the very beginning, which is kept. `Path.join` puts a path after another, and `Path.parent?` takes the
last component away.
-/

namespace PackageAudit.Path

/-- The segments between the slashes of a path. -/
def segments (path : String) : List String :=
  (path.toList.splitOn '/').map String.ofList

/-- Whether a path begins at the root. -/
def isAbsolute (path : String) : Bool :=
  path.toList.head? == some '/'

def endsInSlash (path : String) : Bool :=
  path.toList.getLast? == some '/'

/-- A path after another; an absolute path stands for itself. -/
def join (base path : String) : String :=
  if isAbsolute path then path
  else if base = "" ∨ endsInSlash base then base ++ path
  else base ++ "/" ++ path

def isIdle (segment : List Char) : Bool :=
  segment == [] || segment == ['.']

/-- Segments without idle ones at their end. -/
def trimSegments (segments : List (List Char)) : List (List Char) :=
  (segments.reverse.dropWhile isIdle).reverse

/-- The beginning of a path that is a component of its own: a slash, or a dot that stands alone. -/
def lead (path : List Char) : List Char × List Char :=
  match path with
  | '/' :: rest => (['/'], rest)
  | '.' :: '/' :: rest => (['.'], '/' :: rest)
  | ['.'] => (['.'], [])
  | path => ([], path)

/-- The path without its last component. The root and the empty path have none. -/
def parent? (path : String) : Option String :=
  let (lead, body) := lead path.toList
  match (trimSegments (body.splitOn '/')).reverse with
  | [] => if lead = ['.'] then some "" else none
  | _ :: before =>
    some (String.ofList (lead ++ List.intercalate ['/'] (trimSegments before.reverse)))

end PackageAudit.Path
