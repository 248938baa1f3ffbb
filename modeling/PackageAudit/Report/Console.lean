import PackageAudit.Findings.Basic

/-!
# Findings on the console

Every message is printed on a line with its level, followed by a line with the identity it is filed under; a
blank line follows the messages about one identity, and a summary ends the text. Colours are optional.
-/

namespace PackageAudit.Report.Console

/-- The styles of printed words. -/
inductive Style where
  | red
  | green
  | yellow
  | blue
  | bold
  | boldRed
  | boldYellow
  | boldCyan
  deriving DecidableEq, Repr

/-- The number that selects a style on a terminal. -/
def Style.code : Style → String
  | .red => "31"
  | .green => "32"
  | .yellow => "33"
  | .blue => "34"
  | .bold => "1"
  | .boldRed => "1;31"
  | .boldYellow => "1;33"
  | .boldCyan => "1;36"

/-- A word in a style, where colours are wanted. -/
def paint (color : Bool) (style : Style) (text : String) : String :=
  if color then "\x1b[" ++ style.code ++ "m" ++ text ++ "\x1b[0m" else text

/-- The mark of a check without failures and warnings. -/
def successMark : String := "✓"

def failureMark : String := "✘"

/-- The word for the messages of a level, and its style. -/
def label : Level → String × Style
  | .error => ("error", .boldRed)
  | .warning => ("warning", .boldYellow)
  | .information => ("info", .boldCyan)

/-- A message with further lines indented. -/
def indented (message : String) : String :=
  String.ofList (Text.replace '\n' "\n    ".toList message.toList)

/-- The lines of one message about an identity. -/
def messageLines (color : Bool) (identity : String) (level : Level) (message : String) : List String :=
  let (word, style) := label level
  [paint color style word ++ ": " ++ indented message, "  " ++ paint color .blue "-->" ++ " " ++ identity]

/-- The lines of the messages about an identity. -/
def verdictLines (color : Bool) (identity : String) (v : Verdict) : List String :=
  match Level.values.flatMap fun level => (v.messages level).flatMap (messageLines color identity level) with
  | [] => []
  | lines => lines ++ [""]

def plural (count : Nat) (one many : String) : String :=
  if count = 1 then one else many

/-- The line with the numbers. -/
def summaryLine (color : Bool) (f : Findings) : String :=
  let checked := "Checked " ++ toString f.size ++ " " ++ plural f.size "artifact" "artifacts"
  if f.failureCount = 0 ∧ f.warningCount = 0 then
    paint color .green successMark ++ " " ++ paint color .green (checked ++ " - no failures or warnings")
  else
    paint color (if 0 < f.failureCount then .red else .yellow) failureMark ++ " " ++ checked ++ ": "
      ++ toString f.failureCount ++ " " ++ paint color .red "failed" ++ ", " ++ toString f.warningCount ++ " "
      ++ paint color .yellow (plural f.warningCount "with warning" "with warnings")

def lines (color : Bool) (f : Findings) : List String :=
  f.toList.flatMap (fun (identity, v) => verdictLines color identity v) ++ [summaryLine color f]

/-- Lines as a text in which every line is ended. -/
def ofLines (lines : List String) : String :=
  String.join (lines.map (· ++ "\n"))

def document (color : Bool) (f : Findings) : String :=
  ofLines (lines color f)

end PackageAudit.Report.Console
