import PackageAudit.Corpus.Basic
import PackageAudit.Findings.Basic
import PackageAudit.Regex.Match

/-!
# The change request number

A package names the change request that it belongs to. A number that looks right is filed as information and
any other, or none, as a warning.
-/

namespace PackageAudit.Audit.ChangeRequest

/-- The identity under which the number is filed. -/
def identity : String := ".Change Record Number"

def pattern : Regex :=
  .seq (.char (.single 'C')) (.rep (.char (.ofRanges [('0', '9')])) 7 (some 7) true)

/-- Whether a text holds a change request number. -/
def isNumber (text : List Char) : Bool :=
  pattern.isMatch text

def check (facts : Facts) (findings : Findings) : Findings :=
  let level := if isNumber facts.changeRequest.toList then Level.information else .warning
  findings.record identity level ("The Change Record Number is: " ++ facts.changeRequest)

end PackageAudit.Audit.ChangeRequest
