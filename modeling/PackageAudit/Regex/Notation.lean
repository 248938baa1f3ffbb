import PackageAudit.Regex.Basic
import PackageAudit.Text.Blank
import PackageAudit.Text.Digit
import PackageAudit.Unicode.Property

/-!
# The notation of patterns: characters, classes and assertions

What a pattern may write for a single character, a class or an assertion, and the flags under which it is
read. Every reader takes the text from where it begins and gives what it read with the text that follows.
-/

namespace PackageAudit.Pattern

/-- Why a text is no pattern. -/
inductive Fault where
  | unclosedGroup
  | unopenedGroup
  | badGroupName
  | repeatedGroupName
  | lookAround
  | badFlags
  | nothingToRepeat
  | badRepetition
  | unclosedClass
  | badClassRange
  | badClassMember
  | badEscape
  | badCharacterNumber
  | unknownProperty
  | notText
  | tooDeep
  | tooLarge
  deriving DecidableEq, Repr

/-- The flags under which a part of a pattern is read. -/
structure Flags where
  ignoreCase : Bool := false
  multiLine : Bool := false
  dotAll : Bool := false
  swapGreed : Bool := false
  anyEnding : Bool := false
  unicode : Bool := true
  /-- Blanks and comments in the pattern do not count. -/
  spaced : Bool := false
  deriving DecidableEq, Repr

/-- A text without leading blanks and comments; a comment goes from `#` to the end of its line. -/
def dropLayout (inComment : Bool) : List Char → List Char
  | [] => []
  | c :: rest =>
    if inComment then dropLayout (c != '\n') rest
    else if Text.isBlank c then dropLayout false rest
    else if c = '#' then dropLayout true rest
    else c :: rest

/-- Skips what does not count under the flags. -/
def Flags.skip (flags : Flags) (text : List Char) : List Char :=
  if flags.spaced then dropLayout false text else text

/-- The classes that a letter after a backslash names. -/
inductive Shorthand where
  | digit
  | space
  | word
  deriving DecidableEq, Repr

/-- What stands for one character, a class or an assertion. -/
inductive Atom where
  /-- A character; `byte` says that it was written as a byte, in two hexadecimal digits. -/
  | literal (c : Char) (byte : Bool)
  | shorthand (which : Shorthand) (negated : Bool)
  | property (holds : Char → Bool) (negated : Bool)
  | look (assertion : Assertion)

/-- A class negated as its notation asks and closed under case as the flags ask. Without Unicode a class is
one of bytes, and a negated one would match what is no text. -/
def Flags.finish (flags : Flags) (negated : Bool) (c : CharClass) : Except Fault CharClass :=
  if flags.unicode then
    let c := if flags.ignoreCase then .anyCase c else c
    .ok (if negated then .compl c else c)
  else if negated then .error .notText
  else .ok (if flags.ignoreCase then .anyCaseAscii c else c)

/-- The characters of a shorthand. -/
def Shorthand.members (unicode : Bool) : Shorthand → CharClass
  | .digit =>
    if unicode then .satisfying fun c => Unicode.Category.of c == .decimalNumber else .range '0' '9'
  | .space =>
    if unicode then .satisfying Text.isBlank else .ofRanges [('\t', '\r'), (' ', ' ')]
  | .word => .satisfying (if unicode then isWordChar else isAsciiWordChar)

/-- The class of a shorthand. -/
def Flags.shorthand (flags : Flags) (which : Shorthand) (negated : Bool) : Except Fault CharClass :=
  let members := which.members flags.unicode
  if negated then
    if flags.unicode then .ok (.compl members) else .error .notText
  else .ok members

/-- The class of a property; without Unicode there are none. -/
def Flags.property (flags : Flags) (holds : Char → Bool) (negated : Bool) : Except Fault CharClass :=
  if flags.unicode then flags.finish negated (.satisfying holds) else .error .notText

/-- A character that is written out as a member of a class. -/
def Flags.member (flags : Flags) (c : Char) : Except Fault Char :=
  if flags.unicode || c.toNat < 0x80 then .ok c else .error .notText

/-- The characters that have a meaning of their own somewhere in a pattern. -/
def isMeta (c : Char) : Bool :=
  "\\.+*?()|[]\x7b\x7d^$#&-~".toList.contains c

/-- Whether a backslash before the character stands for the character itself. -/
def isEscapable (c : Char) : Bool :=
  isMeta c || (c.toNat < 0x80 && !c.isAlphanum && c != '<' && c != '>')

/-- The character with a number, if there is one. -/
def charOf? (n : Nat) : Option Char :=
  if n.isValidChar then some (Char.ofNat n) else none

/-- Reads exactly `count` hexadecimal digits. -/
def readHexDigits (flags : Flags) : Nat → Nat → List Char → Except Fault (Nat × List Char)
  | 0, value, rest => .ok (value, rest)
  | count + 1, value, rest =>
    match flags.skip rest with
    | [] => .error .badCharacterNumber
    | c :: rest =>
      match Text.digitValue? 16 c with
      | some d => readHexDigits flags count (value * 16 + d) rest
      | none => .error .badCharacterNumber

/-- Reads hexadecimal digits up to a closing brace, of which there is at least one. -/
def readBracedHex (flags : Flags) (value : Option Nat) : List Char → Except Fault (Nat × List Char)
  | [] => .error .badCharacterNumber
  | c :: rest =>
    if flags.spaced && Text.isBlank c then readBracedHex flags value rest
    else if c = '\x7d' then
      match value with
      | some n => .ok (n, rest)
      | none => .error .badCharacterNumber
    else match Text.digitValue? 16 c with
      | some d => readBracedHex flags (some (value.getD 0 * 16 + d)) rest
      | none => .error .badCharacterNumber

/-- Reads a character number after `x`, `u` or `U`, which take `count` digits where there are no braces. -/
def readCharNumber (flags : Flags) (count : Nat) (rest : List Char) : Except Fault (Atom × List Char) := do
  let (n, braced, rest) ← match flags.skip rest with
    | '\x7b' :: rest => do
      let (n, rest) ← readBracedHex flags none rest
      .ok (n, true, rest)
    | rest => do
      let (n, rest) ← readHexDigits flags count 0 rest
      .ok (n, false, rest)
  match charOf? n with
  | some c => .ok (.literal c (!braced && count == 2), rest)
  | none => .error .badCharacterNumber

/-- The property that a name, or a name and a value, stands for; `!=`, `:` and `=` all join the two. -/
def propertyOf? (name : List Char) : Option (Char → Bool) :=
  match name.span (fun c => c != ':' && c != '=' ) with
  | (_, []) => Unicode.Property.named? name
  | _ =>
    match splitAtText ['!', '='] name with
    | some (name, value) => Unicode.Property.valued? name value
    | none =>
      match splitAtText [':'] name with
      | some (name, value) => Unicode.Property.valued? name value
      | none =>
        match splitAtText ['='] name with
        | some (name, value) => Unicode.Property.valued? name value
        | none => none
where
  /-- What stands before and after the first occurrence of a separator. -/
  splitAtText (separator : List Char) : List Char → Option (List Char × List Char)
    | [] => none
    | c :: rest =>
      if separator.isPrefixOf (c :: rest) then some ([], (c :: rest).drop separator.length)
      else (splitAtText separator rest).map fun (before, after) => (c :: before, after)

/-- Reads a property after `p` or `P`. -/
def readProperty (flags : Flags) (negated : Bool) (rest : List Char) : Except Fault (Atom × List Char) := do
  let (name, rest) ← match flags.skip rest with
    | [] => .error .badEscape
    | '\x7b' :: rest =>
      match rest.span (· != '\x7d') with
      | (_, []) => .error .badEscape
      | (name, _ :: rest) => .ok (if flags.spaced then name.filter (!Text.isBlank ·) else name, rest)
    | '\\' :: _ => .error .badEscape
    | c :: rest => .ok ([c], rest)
  match propertyOf? name with
  | some holds => .ok (.property holds negated, rest)
  | none => .error .unknownProperty

/-- The kinds of word edges by name. -/
def wordEdgeNamed? : List Char → Option WordEdge
  | ['s', 't', 'a', 'r', 't'] => some .start
  | ['e', 'n', 'd'] => some .stop
  | ['s', 't', 'a', 'r', 't', '-', 'h', 'a', 'l', 'f'] => some .startHalf
  | ['e', 'n', 'd', '-', 'h', 'a', 'l', 'f'] => some .stopHalf
  | _ => none

/-- Reads what follows a word boundary: a kind of edge in braces, or nothing when the braces hold no name. -/
def readWordEdge (flags : Flags) (rest : List Char) : Except Fault (WordEdge × List Char) :=
  let isNameChar (c : Char) : Bool := c.isAlpha || c == '-'
  match rest with
  | '\x7b' :: inner =>
    match flags.skip inner with
    | [] => .error .badEscape
    | inner@(c :: _) =>
      if isNameChar c then
        let (name, rest) := inner.span fun c => isNameChar c || (flags.spaced && Text.isBlank c)
        match rest, wordEdgeNamed? (name.filter isNameChar) with
        | '\x7d' :: rest, some edge => .ok (edge, rest)
        | _, _ => .error .badEscape
      else .ok (.boundary, rest)
  | _ => .ok (.boundary, rest)

/-- Reads what follows a backslash. -/
def readEscape (flags : Flags) : List Char → Except Fault (Atom × List Char)
  | [] => .error .badEscape
  | c :: rest =>
    if isEscapable c then .ok (.literal c false, rest)
    else match c with
      | 'x' => readCharNumber flags 2 rest
      | 'u' => readCharNumber flags 4 rest
      | 'U' => readCharNumber flags 8 rest
      | 'p' => readProperty flags false rest
      | 'P' => readProperty flags true rest
      | 'd' => .ok (.shorthand .digit false, rest)
      | 's' => .ok (.shorthand .space false, rest)
      | 'w' => .ok (.shorthand .word false, rest)
      | 'D' => .ok (.shorthand .digit true, rest)
      | 'S' => .ok (.shorthand .space true, rest)
      | 'W' => .ok (.shorthand .word true, rest)
      | 'a' => .ok (.literal '\x07' false, rest)
      | 'f' => .ok (.literal '\x0C' false, rest)
      | 't' => .ok (.literal '\t' false, rest)
      | 'n' => .ok (.literal '\n' false, rest)
      | 'r' => .ok (.literal '\r' false, rest)
      | 'v' => .ok (.literal '\x0B' false, rest)
      | 'A' => .ok (.look .textStart, rest)
      | 'z' => .ok (.look .textEnd, rest)
      | 'B' => .ok (.look (.word flags.unicode .noBoundary), rest)
      | '<' => .ok (.look (.word flags.unicode .start), rest)
      | '>' => .ok (.look (.word flags.unicode .stop), rest)
      | 'b' => do
        let (edge, rest) ← readWordEdge flags rest
        .ok (.look (.word flags.unicode edge), rest)
      | _ => .error .badEscape

/-- The classes of ASCII characters by name. -/
def asciiClasses : List (String × List (Char × Char)) := [
  ("alnum", [('0', '9'), ('A', 'Z'), ('a', 'z')]),
  ("alpha", [('A', 'Z'), ('a', 'z')]),
  ("ascii", [('\x00', '\x7F')]),
  ("blank", [('\t', '\t'), (' ', ' ')]),
  ("cntrl", [('\x00', '\x1F'), ('\x7F', '\x7F')]),
  ("digit", [('0', '9')]),
  ("graph", [('!', '~')]),
  ("lower", [('a', 'z')]),
  ("print", [(' ', '~')]),
  ("punct", [('!', '/'), (':', '@'), ('[', '\x60'), ('\x7b', '~')]),
  ("space", [('\t', '\r'), (' ', ' ')]),
  ("upper", [('A', 'Z')]),
  ("word", [('0', '9'), ('A', 'Z'), ('_', '_'), ('a', 'z')]),
  ("xdigit", [('0', '9'), ('A', 'F'), ('a', 'f')])]

/-- Reads the rest of `[:name:]` or `[:^name:]` after its first bracket, if it is one: whether it is negated,
its characters, and what follows. -/
def asciiClass? : List Char → Option (Bool × CharClass × List Char)
  | ':' :: rest =>
    let (negated, rest) := match rest with
      | '^' :: rest => (true, rest)
      | rest => (false, rest)
    match rest.span (· != ':') with
    | (name, ':' :: ']' :: rest) =>
      (asciiClasses.find? fun entry => entry.1 == String.ofList name).map fun entry =>
        (negated, .ofRanges entry.2, rest)
    | _ => none
  | _ => none

/-- The operations on classes. -/
inductive SetOp where
  | inter
  | diff
  | symmDiff
  deriving DecidableEq, Repr

/-- The class that an operation makes of two. -/
def SetOp.apply : SetOp → CharClass → CharClass → CharClass
  | .inter => .inter
  | .diff => .diff
  | .symmDiff => .symmDiff

/-- A bracketed class while it is read: the members since the last operation, how many they are and how deep
they nest, and what stands before that operation. -/
structure OpenClass where
  negated : Bool
  members : CharClass := .none
  count : Nat := 0
  depth : Nat := 0
  before : Option (SetOp × CharClass × Nat) := none

namespace OpenClass

/-- One more member, or nested class of some depth. -/
def add (o : OpenClass) (member : CharClass) (depth : Nat) : OpenClass :=
  { o with members := .union o.members member, count := o.count + 1, depth := max o.depth depth }

/-- All that was read so far as one class, with its depth. Several members are one level, and so is every
operation. -/
def content (flags : Flags) (o : OpenClass) : CharClass × Nat :=
  let close (c : CharClass) : CharClass :=
    if flags.ignoreCase then (if flags.unicode then .anyCase c else .anyCaseAscii c) else c
  let depth := if o.count ≥ 2 then o.depth + 1 else o.depth
  match o.before with
  | none => (o.members, depth)
  | some (op, left, leftDepth) => (op.apply (close left) (close o.members), max leftDepth depth + 1)

/-- An operation ends the members on its left. -/
def operator (flags : Flags) (o : OpenClass) (op : SetOp) : OpenClass :=
  let (left, depth) := o.content flags
  { negated := o.negated, before := some (op, left, depth) }

end OpenClass

/-- Reads the start of a class after its bracket: the negation, then hyphens or a closing bracket that stand
for themselves. -/
def openClass (flags : Flags) (rest : List Char) : Except Fault (OpenClass × List Char) := do
  let (negated, rest) ← match flags.skip rest with
    | '^' :: rest => .ok (true, flags.skip rest)
    | rest => .ok (false, rest)
  let rec hyphens (o : OpenClass) : List Char → OpenClass × List Char
    | [] => (o, [])
    | c :: rest =>
      if c = '-' then hyphens (o.add (.single '-') 0) rest
      else if flags.spaced && Text.isBlank c then hyphens o rest
      else (o, c :: rest)
  let (o, rest) := hyphens { negated } rest
  match rest with
  | [] => .error .unclosedClass
  | ']' :: after =>
    if o.count = 0 then
      if (flags.skip after).isEmpty then .error .unclosedClass
      else .ok (o.add (.single ']') 0, flags.skip after)
    else .ok (o, rest)
  | _ => .ok (o, rest)

/-- Reads one member of a class as an atom. -/
def readMember (flags : Flags) : List Char → Except Fault (Atom × List Char)
  | [] => .error .unclosedClass
  | '\\' :: rest => readEscape flags rest
  | c :: rest => .ok (.literal c false, rest)

/-- The character of an atom that ends a range. -/
def Flags.rangeEnd (flags : Flags) : Atom → Except Fault Char
  | .literal c byte => if byte && !flags.unicode && c.toNat ≥ 0x80 then .error .notText else flags.member c
  | _ => .error .badClassMember

/-- The class of an atom that stands alone in a class. -/
def Flags.memberClass (flags : Flags) : Atom → Except Fault CharClass
  | .literal c byte => do .ok (.single (← flags.rangeEnd (.literal c byte)))
  | .shorthand which negated => flags.shorthand which negated
  | .property holds negated => flags.property holds negated
  | .look _ => .error .badClassMember

/-- Reads a member of a class or a range of members. -/
def readRange (flags : Flags) (rest : List Char) : Except Fault (CharClass × List Char) := do
  let (first, rest) ← readMember flags rest
  match flags.skip rest with
  | [] => .error .unclosedClass
  | '-' :: after =>
    match flags.skip after with
    | [] => .error .unclosedClass
    | ']' :: _ | '-' :: _ => .ok (← flags.memberClass first, '-' :: after)
    | after => do
      let (last, rest) ← readMember flags after
      let first ← flags.rangeEnd first
      let last ← flags.rangeEnd last
      if first ≤ last then .ok (.range first last, rest) else .error .badClassRange
  | rest => .ok (← flags.memberClass first, rest)

/-- Reads a class to its closing bracket, with its depth; `outer` are the classes around it that are still
open. Every turn reads a character, so fuel above the length of the text is enough. -/
def readClass (flags : Flags) : Nat → OpenClass → List OpenClass → List Char →
    Except Fault (CharClass × Nat × List Char)
  | 0, _, _, _ => .error .unclosedClass
  | fuel + 1, o, outer, rest =>
    match flags.skip rest with
    | [] => .error .unclosedClass
    | '[' :: rest =>
      match asciiClass? rest with
      | some (negated, members, rest) => do
        readClass flags fuel (o.add (← flags.finish negated members) 0) outer rest
      | none => do
        let (inner, rest) ← openClass flags rest
        readClass flags fuel inner (o :: outer) rest
    | ']' :: rest => do
      let (content, depth) := o.content flags
      let content ← flags.finish o.negated content
      match outer with
      | [] => .ok (content, depth + 1, rest)
      | parent :: outer => readClass flags fuel (parent.add content (depth + 1)) outer rest
    | '&' :: '&' :: rest => readClass flags fuel (o.operator flags .inter) outer rest
    | '-' :: '-' :: rest => readClass flags fuel (o.operator flags .diff) outer rest
    | '~' :: '~' :: rest => readClass flags fuel (o.operator flags .symmDiff) outer rest
    | rest => do
      let (member, rest) ← readRange flags rest
      readClass flags fuel (o.add member 0) outer rest

end PackageAudit.Pattern
