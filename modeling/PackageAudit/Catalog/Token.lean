/-!
# The words of a catalog

The enumerations that a catalog names by fixed words: how a condition compares, what unit of text it is
tested against, which kinds of artifact it applies to, and how serious a finding is. Each has its word
(`token`) and is read from it (`ofToken?`); reading and writing are inverse.
-/

namespace PackageAudit

/-- A word that names no value of its kind. -/
structure UnknownToken where
  kind : String
  value : String
  deriving DecidableEq, Repr

namespace UnknownToken

def message (e : UnknownToken) : String :=
  "unknown " ++ e.kind ++ " '" ++ e.value ++ "'"

end UnknownToken

/-- How the value of a condition is compared with a text. -/
inductive MatchType where
  | contains
  | beginsWith
  | matchesPattern
  deriving DecidableEq, Repr

/-- The unit of text that a condition is tested against. -/
inductive Scope where
  /-- Each line on its own. -/
  | line
  /-- The whole artifact, which is selected when one of its lines is. -/
  | script
  /-- The path of the artifact. -/
  | filePath
  deriving DecidableEq, Repr

/-- The artifacts that a condition applies to: all, or those of one kind. -/
inductive Filter where
  | all
  | createTable
  | createView
  | createComment
  | createBackupTable
  | createBackupView
  deriving DecidableEq, Repr

/-- How serious a finding is. An error blocks the build. -/
inductive Level where
  | error
  | warning
  | information
  deriving DecidableEq, Repr

namespace MatchType

/-- The word for a way to compare. -/
def token : MatchType → String
  | .contains => "CONTAINS"
  | .beginsWith => "BEGINS_WITH"
  | .matchesPattern => "MATCHES_PATTERN"

def values : List MatchType := [.contains, .beginsWith, .matchesPattern]

/-- The way to compare with a word. -/
def ofToken? (text : String) : Except UnknownToken MatchType :=
  match values.find? (·.token == text) with
  | some value => .ok value
  | none => .error ⟨"match type", text⟩

theorem ofToken?_token (m : MatchType) : ofToken? m.token = .ok m := by cases m <;> rfl

end MatchType

namespace Scope

/-- The word for a scope. -/
def token : Scope → String
  | .line => "LINE"
  | .script => "SCRIPT"
  | .filePath => "FILE_PATH"

def values : List Scope := [.line, .script, .filePath]

/-- The scope with a word. -/
def ofToken? (text : String) : Except UnknownToken Scope :=
  match values.find? (·.token == text) with
  | some value => .ok value
  | none => .error ⟨"scope", text⟩

/-- Whether the content of an artifact is needed, and not only its path. -/
def readsContent : Scope → Bool
  | .line | .script => true
  | .filePath => false

theorem ofToken?_token (s : Scope) : ofToken? s.token = .ok s := by cases s <;> rfl

end Scope

namespace Filter

/-- The word for a filter. -/
def token : Filter → String
  | .all => "ALL"
  | .createTable => "CREATE_TABLE"
  | .createView => "CREATE_VIEW"
  | .createComment => "CREATE_COMMENT"
  | .createBackupTable => "CREATE_BACKUP_TABLE"
  | .createBackupView => "CREATE_BACKUP_VIEW"

def values : List Filter :=
  [.all, .createTable, .createView, .createComment, .createBackupTable, .createBackupView]

/-- The filter with a word. -/
def ofToken? (text : String) : Except UnknownToken Filter :=
  match values.find? (·.token == text) with
  | some value => .ok value
  | none => .error ⟨"filter", text⟩

theorem ofToken?_token (f : Filter) : ofToken? f.token = .ok f := by cases f <;> rfl

end Filter

namespace Level

/-- The word for a level. -/
def token : Level → String
  | .error => "error"
  | .warning => "warning"
  | .information => "information"

def values : List Level := [.error, .warning, .information]

/-- The level with a word. -/
def ofToken? (text : String) : Except UnknownToken Level :=
  match values.find? (·.token == text) with
  | some value => .ok value
  | none => .error ⟨"level", text⟩

theorem ofToken?_token (l : Level) : ofToken? l.token = .ok l := by cases l <;> rfl

end Level
end PackageAudit
