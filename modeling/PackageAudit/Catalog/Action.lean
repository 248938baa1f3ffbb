import PackageAudit.Regex.Match
import PackageAudit.Regex.Pattern
import PackageAudit.Text.Blank
import PackageAudit.Text.Search

/-!
# Actions

An action judges a text that a condition has selected: it says whether the text breaks the rule. Two kinds of
action look at facts of the package, its change request number and the reserved keywords.
-/

namespace PackageAudit

/-- The keys that name the kinds of actions. Where an entry has several, the first in the order of `values`
counts. -/
inductive ActionKey where
  | textMatch
  | noTextMatch
  | patternMatch
  | noPatternMatch
  | containsCrNumber
  | containsTeradataKeywords
  deriving DecidableEq, Repr

namespace ActionKey

/-- The attribute that names a kind. -/
def token : ActionKey → String
  | .textMatch => "textMatch"
  | .noTextMatch => "noTextMatch"
  | .patternMatch => "patternMatch"
  | .noPatternMatch => "noPatternMatch"
  | .containsCrNumber => "containsCrNumber"
  | .containsTeradataKeywords => "containsTeradataKeywords"

/-- All keys, in the order in which they are looked for. -/
def values : List ActionKey :=
  [.textMatch, .noTextMatch, .patternMatch, .noPatternMatch, .containsCrNumber, .containsTeradataKeywords]

def ofToken? (text : String) : Option ActionKey :=
  values.find? (·.token == text)

theorem ofToken?_token (k : ActionKey) : ofToken? k.token = some k := by cases k <;> rfl

end ActionKey

/-- The check that an action performs. -/
inductive ActionKind where
  /-- The text must contain the value. -/
  | textMatch (value : List Char)
  /-- The text must not contain the value. -/
  | noTextMatch (value : List Char)
  /-- The pattern must be found in the text. -/
  | patternMatch (r : Regex)
  /-- The pattern must not be found in the text. -/
  | noPatternMatch (r : Regex)
  /-- The text must contain the change request number. -/
  | containsChangeRequest
  /-- The text must not begin with a reserved keyword. -/
  | containsReservedKeyword
  /-- Nothing is checked. -/
  | unknown

namespace ActionKind

/-- The key of a kind; the unknown kind has none. -/
def key? : ActionKind → Option ActionKey
  | .textMatch _ => some .textMatch
  | .noTextMatch _ => some .noTextMatch
  | .patternMatch _ => some .patternMatch
  | .noPatternMatch _ => some .noPatternMatch
  | .containsChangeRequest => some .containsCrNumber
  | .containsReservedKeyword => some .containsTeradataKeywords
  | .unknown => none

/-- The kind that a key and its value name; only a pattern can be at fault. -/
def ofKey (key : ActionKey) (data : String) : Except Pattern.Fault ActionKind :=
  match key with
  | .textMatch => .ok (.textMatch data.toList)
  | .noTextMatch => .ok (.noTextMatch data.toList)
  | .patternMatch => (Pattern.read data).map .patternMatch
  | .noPatternMatch => (Pattern.read data).map .noPatternMatch
  | .containsCrNumber => .ok .containsChangeRequest
  | .containsTeradataKeywords => .ok .containsReservedKeyword

theorem key?_of_ofKey {key : ActionKey} {data : String} {kind : ActionKind} (h : ofKey key data = .ok kind) :
    kind.key? = some key := by
  cases key with
  | patternMatch | noPatternMatch =>
    simp only [ofKey] at h
    cases hr : Pattern.read data with
    | error e => simp [hr, Except.map] at h
    | ok r => simp only [hr, Except.map, Except.ok.injEq] at h; exact h ▸ rfl
  | _ => cases h; rfl

end ActionKind

/-- A named check with the data it was made from. -/
structure Action where
  name : String
  kind : ActionKind
  data : String

namespace Action

/-- Whether a text breaks the rule, given the change request number and the reserved keywords. -/
def violates (a : Action) (changeRequest : String) (keywords : List String) (text : List Char) : Bool :=
  match a.kind with
  | .textMatch value => !Text.contains value text
  | .noTextMatch value => Text.contains value text
  | .patternMatch r => !r.isMatch text
  | .noPatternMatch r => r.isMatch text
  | .containsChangeRequest => !Text.contains changeRequest.toList text
  | .containsReservedKeyword =>
    let text := Text.trimStart text
    keywords.any fun keyword => keyword.toList.isPrefixOf text
  | .unknown => false

def describe (a : Action) : String :=
  "Action: \x7bname: (" ++ a.name ++ "), actionType: (" ++ (a.kind.key?.map ActionKey.token).getD ""
    ++ "), actionData: (" ++ a.data ++ ")\x7d"

end Action
end PackageAudit
