import PackageAudit.Regex.CharClass
import PackageAudit.Unicode.Binary

/-!
# Regular expressions

The abstract form of a pattern, with assertions on the neighbourhood of a position, counted repetitions and
capturing groups, and the combinators that fixed patterns are built from.
-/

namespace PackageAudit

/-- Where a word stands relative to a position. -/
inductive WordEdge where
  | boundary
  | noBoundary
  | start
  | stop
  | startHalf
  | stopHalf
  deriving DecidableEq, Repr

/-- A condition on the characters on both sides of a position. -/
inductive Assertion where
  | textStart
  | textEnd
  /-- At the start of the text or after a line feed. -/
  | lineStart
  /-- At the end of the text or before a line feed. -/
  | lineEnd
  /-- The same where `\r`, `\n` and `\r\n` end a line. -/
  | lineStartAnyEnding
  | lineEndAnyEnding
  /-- An edge of a word, of Unicode or of ASCII word characters. -/
  | word (unicode : Bool) (edge : WordEdge)
  deriving DecidableEq, Repr

/-- Word characters: letters and other alphabetic characters, marks, decimal digits, connectors, joiners. -/
def isWordChar (c : Char) : Bool :=
  if c.toNat < 0x80 then c.isAlphanum || c == '_'
  else Unicode.Binary.isAlphabetic c || Unicode.Category.isMark (.of c) || Unicode.Category.of c == .decimalNumber
    || Unicode.Category.of c == .connectorPunctuation || Unicode.Binary.joinControl.contains c.toNat

def isAsciiWordChar (c : Char) : Bool :=
  c.isAlphanum || c == '_'

namespace Assertion

/-- Whether an assertion holds between two characters; `none` is an end of the text. -/
def holds : Assertion → Option Char → Option Char → Bool
  | .textStart, before, _ => before.isNone
  | .textEnd, _, after => after.isNone
  | .lineStart, before, _ => before.isNone || before == some '\n'
  | .lineEnd, _, after => after.isNone || after == some '\n'
  | .lineStartAnyEnding, before, after =>
    before.isNone || before == some '\n' || (before == some '\r' && after != some '\n')
  | .lineEndAnyEnding, before, after =>
    after.isNone || after == some '\r' || (after == some '\n' && before != some '\r')
  | .word unicode edge, before, after =>
    let isWord := if unicode then isWordChar else isAsciiWordChar
    let left := before.any isWord
    let right := after.any isWord
    match edge with
    | .boundary => left != right
    | .noBoundary => left == right
    | .start => !left && right
    | .stop => left && !right
    | .startHalf => !left
    | .stopHalf => !right

end Assertion

/-- A regular expression. -/
inductive Regex where
  | empty
  | char (among : CharClass)
  | look (assertion : Assertion)
  | seq (a b : Regex)
  | alt (a b : Regex)
  /-- At least `min` and at most `max` times; `greedy` says whether more comes first. -/
  | rep (r : Regex) (min : Nat) (max : Option Nat) (greedy : Bool)
  | group (index : Nat) (r : Regex)

namespace Regex

/-- The expressions of a list, one after the other. -/
def concat : List Regex → Regex
  | [] => .empty
  | [r] => r
  | r :: rest => .seq r (concat rest)

/-- One of the expressions of a list, the earlier ones first. -/
def oneOf : List Regex → Regex
  | [] => .char .none
  | [r] => r
  | r :: rest => .alt r (oneOf rest)

def literal (text : String) : Regex :=
  concat (text.toList.map fun c => .char (.single c))

def dot : Regex :=
  .char (.compl (.single '\n'))

/-- As many repetitions as possible, possibly none. -/
def many (r : Regex) : Regex :=
  .rep r 0 none true

end Regex
end PackageAudit
