import PackageAudit.Artifact.Name
import PackageAudit.Artifact.Kind
import PackageAudit.FileTree.Access
import PackageAudit.Ordered.NameSet
import PackageAudit.Regex.Search
import PackageAudit.Text.Blank
import PackageAudit.Text.Lines

/-!
# What the files of a package say

The facts about a package are read off its files. Scripts name the objects that they drop or save, one on a
line; a version file states the change request number; the created objects are named by the files that create
them. Files that cannot be read say nothing.
-/

namespace PackageAudit.Package

/-- The text of a file of a package, with U+FFFD where the bytes are no text. -/
def textOf (t : FileTree) (path : String) : Option (List Char) :=
  (t.read path).toOption.map Text.Utf8.decodeLossy

/-- The lines of the files that can be read, of those paths that a predicate selects. -/
def linesWhere (t : FileTree) (paths : List String) (select : String → Bool) : List (List Char) :=
  ((paths.filter select).filterMap (textOf t)).flatMap Text.lines

/-- The mark in front of a change request number. -/
def numberMark : String := "CR_NUMBER:"

/-- The change request number on a line. -/
def numberOn? (line : List Char) : Option String :=
  (Text.cutFirst numberMark.toList line).map fun (_, after) => String.ofList (Text.trim after)

/-- The change request number that a text states: the one on the last line that has one. -/
def numberIn? (text : List Char) : Option String :=
  ((Text.lines text).filterMap numberOn?).getLast?

/-- The change request number of a package: that of the last version file which states one. -/
def changeRequest (t : FileTree) (paths : List String) : String :=
  ((((paths.filter (Artifact.mentions "Version.txt")).filterMap (textOf t)).filterMap numberIn?).getLast?).getD ""

/-- The names of the created objects. -/
def created (paths : List String) : NameSet :=
  .ofList ((paths.filter fun path => Artifact.hasSuffix ".tbl" path || Artifact.hasSuffix ".viw" path).map
    Artifact.objectName)

/-- A command, the name of an object as its group, and a semicolon. -/
def commandPattern (command : String) : Regex :=
  .concat [.literal (command ++ " "), .group 1 (.many .dot), .literal ";"]

/-- The names of objects after a command, in the scripts whose paths hold a name. -/
def namesAfter (t : FileTree) (paths : List String) (command script : String) : List String :=
  (linesWhere t paths (Artifact.mentions script)).filterMap fun line =>
    ((commandPattern command).firstGroup? 1 line).map String.ofList

/-- The names of the deleted objects. -/
def deleted (t : FileTree) (paths : List String) : NameSet :=
  .ofList (namesAfter t paths "DROP TABLE" "_Drop_Tables.sql" ++ namesAfter t paths "DROP VIEW" "_Drop_Views.sql")

/-- The names of the objects that are rolled back: what was created is dropped again, and what was changed has
been saved. -/
def rolledBack (t : FileTree) (paths : List String) : NameSet :=
  .ofList (namesAfter t paths "DROP TABLE" "Rollback_Drop_Tables.sql"
    ++ namesAfter t paths "DROP VIEW" "Rollback_Drop_Views.sql"
    ++ namesAfter t paths "SHOW VIEW" "_Backup_Views.sql")

/-- The reserved keyword on a line, with a blank after it. -/
def keywordOn? (line : List Char) : Option String :=
  match Text.trimEnd line with
  | [] => none
  | keyword => some (String.ofList (keyword ++ [' ']))

/-- The error of loading reserved keywords. -/
structure KeywordsError where
  path : String
  cause : FileError
  deriving DecidableEq, Repr

/-- The message for reserved keywords that cannot be loaded. -/
def KeywordsError.message (e : KeywordsError) : String :=
  "Failed to read reserved keywords: " ++ e.path ++ ": " ++ e.cause.message

/-- Loads reserved keywords, one on a line. -/
def loadKeywords (t : FileTree) (path : String) : Except KeywordsError (List String) :=
  match t.readText path with
  | .ok text => .ok ((Text.lines text).filterMap keywordOn?)
  | .error cause => .error ⟨path, cause⟩

/-- The reserved keywords of a package; none where the file cannot be read. -/
def keywords (t : FileTree) (file : Option String) : List String :=
  match file with
  | none => []
  | some path => (loadKeywords t path).toOption.getD []

end PackageAudit.Package
