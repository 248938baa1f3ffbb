import PackageAudit.Audit.Selection
import PackageAudit.Catalog.Load
import PackageAudit.Glob.Basic
import PackageAudit.Json.Value
import PackageAudit.Report.Format
import PackageAudit.Text.Shown

/-!
# Settings

The settings of a check, each with a default. They are valid if the globs can be read and no marker, suffix or
section name is empty (`Settings.validate`).
-/

namespace PackageAudit

/-- The settings of a check. -/
structure Settings where
  rulesFile : String := "resources/teradataQualityCheckRules.xml"
  catalogSection : String := Catalog.defaultSection
  reportFile : String := "output/junit-QACheck.xml"
  reportFormat : ReportFormat := .junit
  reservedKeywordsFile : String := "resources/Teradata_Reserved_Words.csv"
  rootMarkers : List String := ({} : Audit.Options).rootMarkers
  skipSuffixes : List String := ({} : Audit.Options).skipSuffixes
  ignores : List String := []
  deriving DecidableEq, Repr

namespace Settings

/-- The settings where nothing is configured. -/
def default : Settings := {}

/-- How the settings have a check treat artifacts. -/
def options (s : Settings) : Audit.Options where
  rootMarkers := s.rootMarkers
  skipSuffixes := s.skipSuffixes

/-- What can be wrong with settings. -/
inductive Invalid where
  | glob (pattern : String) (fault : Glob.Fault)
  | emptyMarker
  | emptySuffix
  | emptySection
  deriving DecidableEq, Repr

/-- The message for settings that are not valid. -/
def Invalid.message : Invalid → String
  | .glob pattern fault => "Invalid glob pattern in 'ignores': \"" ++ pattern ++ "\": " ++ fault.message
  | .emptyMarker => "Empty marker in 'rootMarkers'"
  | .emptySuffix => "Empty suffix in 'skipSuffixes'"
  | .emptySection => "'catalogSection' must not be empty"

/-- Checks globs; the first one that cannot be read counts. -/
def validateGlobs : List String → Except Invalid Unit
  | [] => .ok ()
  | pattern :: rest =>
    match Glob.read pattern with
    | .ok _ => validateGlobs rest
    | .error fault => .error (.glob pattern fault)

/-- Checks settings. -/
def validate (s : Settings) : Except Invalid Unit := do
  validateGlobs s.ignores
  if s.rootMarkers.contains "" then .error .emptyMarker
  else if s.skipSuffixes.contains "" then .error .emptySuffix
  else if s.catalogSection = "" then .error .emptySection
  else .ok ()

def textsValue (texts : List String) : Json.Value :=
  .array (texts.map .text)

/-- The settings as a value. -/
def value (s : Settings) : Json.Value :=
  .record [("rulesFile", .text s.rulesFile), ("catalogSection", .text s.catalogSection),
    ("reportFile", .text s.reportFile), ("reportFormat", .text s.reportFormat.token),
    ("reservedKeywordsFile", .text s.reservedKeywordsFile), ("rootMarkers", textsValue s.rootMarkers),
    ("skipSuffixes", textsValue s.skipSuffixes), ("ignores", textsValue s.ignores)]

def document (s : Settings) : String :=
  s.value.pretty

end Settings
end PackageAudit
