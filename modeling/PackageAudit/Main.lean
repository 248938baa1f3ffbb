import PackageAudit.CommandLine.Run

/-!
# The program

The files that a command may look at are loaded into a file tree, the command runs on the tree, and what it has
changed there is written back. Everything else is decided by the library.
-/

namespace PackageAudit.CommandLine

def pathOf (location : Location) : String :=
  "/" ++ Text.join "/" location

/-- Loads what stands at a location. -/
def loadItem (t : FileTree) (location : Location) : IO FileTree := do
  if (t.item? location).isSome then return t
  let path := (← IO.currentDir) / pathOf location
  if ← path.isDir then return t.set location .directory
  if ← path.pathExists then return t.set location (.file (← IO.FS.readBinFile path).toList)
  return t

/-- Loads what stands along a path. -/
def loadPath (t : FileTree) (path : String) : IO FileTree := do
  let start := if Path.isAbsolute path then [] else t.workingDirectory
  let names := (Path.segments path).filter fun name => name ≠ "" && name ≠ "."
  let (t, _) ← names.foldlM (fun ((t, here) : FileTree × Location) name => do
    let here := if name = ".." then here.dropLast else here ++ [name]
    return (← loadItem t here, here)) (t, start)
  return t

/-- Loads everything below a directory. -/
partial def loadBelow (t : FileTree) (location : Location) : IO FileTree := do
  let t ← loadItem t location
  if t.item? location ≠ some .directory then return t
  let entries ← ((← IO.currentDir) / pathOf location).readDir
  entries.foldlM (fun t entry => loadBelow t (location ++ [entry.fileName])) t

/-- Loads what the search for settings looks at. -/
def loadMarks (t : FileTree) : IO FileTree :=
  (List.range (t.workingDirectory.length + 1)).foldlM (fun t n => do
    let here := t.workingDirectory.take n
    let t ← loadItem t here
    let t ← loadItem t (here ++ [Settings.fileName])
    loadItem t (here ++ [Settings.repositoryMark])) t

/-- Loads what a check with settings looks at. -/
def loadFor (t : FileTree) (a : CheckArguments) (s : Settings) : IO FileTree := do
  let t ← [a.rules.getD s.rulesFile, a.keywords.getD s.reservedKeywordsFile, a.report.getD s.reportFile,
    a.packageDir].foldlM loadPath t
  match t.locate a.packageDir with
  | .ok location => loadBelow t location
  | .error _ => return t

/-- Loads what a command looks at. -/
def loadTree (command : Option Command) : IO FileTree := do
  let names := (Path.segments (← IO.currentDir).toString).filter (· ≠ "")
  let t ← loadMarks { workingDirectory := names }
  match command with
  | some (.check a) =>
    match Settings.load t (workingPath t) with
    | .ok loaded => loadFor t a loaded.settings
    | .error _ => return t
  | some .init =>
    [Settings.default.rulesFile, Settings.default.reservedKeywordsFile].foldlM loadPath t
  | none => return t

/-- Writes back what a command has changed. -/
def writeBack (before after : FileTree) : IO Unit :=
  after.placed.items.forM fun p => do
    if before.item? p.location ≠ some p.item then
      match p.item with
      | .directory => IO.FS.createDirAll (pathOf p.location)
      | .file bytes => IO.FS.writeBinFile (pathOf p.location) ⟨bytes.toArray⟩

/-- Says why there is no command to be run. -/
def explain (usage : Usage) : IO Unit :=
  match usage with
  | .displayHelp => IO.print helpText
  | .displayVersion => IO.println "tdqa 0.4.0"
  | usage => IO.eprintln ("error: " ++ usage.token)

/-- Runs a command on the files of the system. -/
def perform (command : Option Command) : IO UInt32 := do
  let tree ← loadTree command
  let color := (← (← IO.getStdout).isTty) && (← IO.getEnv "NO_COLOR").isNone
  let outcome := run tree color command
  writeBack tree outcome.tree
  IO.print outcome.output
  outcome.complaint.forM IO.eprintln
  outcome.failure.forM fun f => IO.eprintln ("Error: " ++ f.message)
  return UInt32.ofNat outcome.status.code

end PackageAudit.CommandLine

/-- Reads the arguments and runs what they ask for. -/
def main (args : List String) : IO UInt32 := do
  match PackageAudit.CommandLine.readArguments (← IO.getEnv "TDQA_RULES") args with
  | .ok command => PackageAudit.CommandLine.perform command
  | .error usage =>
    PackageAudit.CommandLine.explain usage
    return UInt32.ofNat usage.exitCode
