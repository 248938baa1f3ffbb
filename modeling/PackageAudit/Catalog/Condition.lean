import PackageAudit.Catalog.Token
import PackageAudit.Regex.Match
import PackageAudit.Regex.Pattern
import PackageAudit.Text.Blank
import PackageAudit.Text.Search

/-!
# Conditions

A condition is a named predicate on units of text. Its value is compiled once, so a condition that exists has
a valid pattern; blanks around the tested text do not count.
-/

namespace PackageAudit

/-- The value of a condition, ready to be compared with a text. -/
inductive Matcher where
  | contains (value : List Char)
  | beginsWith (value : List Char)
  | pattern (r : Regex)

namespace Matcher

/-- The way to compare that a matcher was made for. -/
def matchType : Matcher → MatchType
  | .contains _ => .contains
  | .beginsWith _ => .beginsWith
  | .pattern _ => .matchesPattern

/-- The matcher for a value; only a pattern can be at fault. -/
def compile (type : MatchType) (value : String) : Except Pattern.Fault Matcher :=
  match type with
  | .contains => .ok (.contains value.toList)
  | .beginsWith => .ok (.beginsWith value.toList)
  | .matchesPattern => (Pattern.read value).map .pattern

/-- Whether a text is selected. -/
def selects (m : Matcher) (text : List Char) : Bool :=
  match m with
  | .contains value => Text.contains value text
  | .beginsWith value => value.isPrefixOf text
  | .pattern r => r.isMatch text

theorem matchType_of_compile {type : MatchType} {value : String} {m : Matcher}
    (h : compile type value = .ok m) : m.matchType = type := by
  cases type with
  | contains => cases h; rfl
  | beginsWith => cases h; rfl
  | matchesPattern =>
    simp only [compile] at h
    cases hr : Pattern.read value with
    | error e => simp [hr, Except.map] at h
    | ok r => simp only [hr, Except.map, Except.ok.injEq] at h; exact h ▸ rfl

end Matcher

/-- A named predicate on units of text, for the artifacts that its filter admits. -/
structure Condition where
  name : String
  value : String
  scope : Scope
  filter : Filter
  matcher : Matcher

namespace Condition

def make (name value : String) (type : MatchType) (scope : Scope) (filter : Filter) :
    Except Pattern.Fault Condition :=
  (Matcher.compile type value).map fun matcher => { name, value, scope, filter, matcher }

def matchType (c : Condition) : MatchType :=
  c.matcher.matchType

/-- Whether a unit of text satisfies the condition. -/
def admits (c : Condition) (text : List Char) : Bool :=
  c.matcher.selects (Text.trim text)

def describe (c : Condition) : String :=
  "When: \x7bname: (" ++ c.name ++ "), value: (" ++ c.value ++ "), type: (" ++ c.matchType.token
    ++ "), scope: (" ++ c.scope.token ++ "), filter: (" ++ c.filter.token ++ ")\x7d"

theorem of_make {name value : String} {type : MatchType} {scope : Scope} {filter : Filter} {c : Condition}
    (h : make name value type scope filter = .ok c) :
    c.name = name ∧ c.value = value ∧ c.matchType = type ∧ c.scope = scope ∧ c.filter = filter := by
  unfold make at h
  cases hm : Matcher.compile type value with
  | error e => simp [hm, Except.map] at h
  | ok m =>
    simp only [hm, Except.map, Except.ok.injEq] at h
    subst h
    exact ⟨rfl, rfl, Matcher.matchType_of_compile hm, rfl, rfl⟩

end Condition
end PackageAudit
