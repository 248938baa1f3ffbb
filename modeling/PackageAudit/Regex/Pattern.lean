import PackageAudit.Regex.Notation
import PackageAudit.Regex.Program
import PackageAudit.Text.Utf8

/-!
# Patterns

`Pattern.read` reads the notation of a regular expression: concatenation, alternatives, repetitions, groups
and flags over the atoms of `PackageAudit.Regex.Notation`. It keeps the open groups on a stack. A pattern is
refused when it nests deeper than `depthLimit` or when the program for it would take more than `memoryLimit`
bytes.
-/

namespace PackageAudit.Pattern

/-- The deepest nesting of a pattern. -/
def depthLimit : Nat := 250

/-- The largest program for a pattern, in bytes. -/
def memoryLimit : Nat := 10 * 1024 * 1024

/-- A part of a concatenation: an expression with the depth of its notation, or a setting of flags, which
matches nothing and cannot be repeated. -/
inductive Piece where
  | expr (r : Regex) (depth : Nat)
  | setting

/-- A group while it is read, the newest pieces and alternatives first; the whole pattern is a group too. -/
structure OpenGroup where
  pieces : List Piece := []
  alternatives : List (Regex × Nat) := []
  /-- The flags in force around the group. -/
  outside : Flags := {}
  /-- The number of a capturing group. -/
  index : Option Nat := none

/-- The state of reading a pattern. -/
structure Reading where
  flags : Flags := {}
  current : OpenGroup := {}
  outer : List OpenGroup := []
  groups : Nat := 0
  names : List (List Char) := []

/-- Several parts are one level of nesting; a part alone is none. -/
def levelOf : List Nat → Nat
  | [] => 0
  | [depth] => depth
  | depths => depths.foldl max 0 + 1

namespace OpenGroup

/-- The pieces since the last bar as one expression with its depth. -/
def concat (g : OpenGroup) : Regex × Nat :=
  let pieces := g.pieces.reverse
  (Regex.concat (pieces.filterMap fun
      | .expr r _ => some r
      | .setting => none),
    levelOf (pieces.map fun
      | .expr _ depth => depth
      | .setting => 0))

/-- The whole group as one expression with its depth. -/
def content (g : OpenGroup) : Regex × Nat :=
  let alternatives := (g.concat :: g.alternatives).reverse
  (Regex.oneOf (alternatives.map (·.1)), levelOf (alternatives.map (·.2)))

end OpenGroup

namespace Reading

/-- Adds a piece to the innermost open group. -/
def push (s : Reading) (r : Regex) (depth : Nat) : Reading :=
  { s with current := { s.current with pieces := .expr r depth :: s.current.pieces } }

def bar (s : Reading) : Reading :=
  { s with current :=
      { s.current with pieces := [], alternatives := s.current.concat :: s.current.alternatives } }

/-- Opens a group under the given flags. -/
def enter (s : Reading) (flags : Flags) (index : Option Nat) : Reading :=
  { s with flags, current := { outside := s.flags, index }, outer := s.current :: s.outer }

/-- Closes the innermost group; the flags around it come back. -/
def leave (s : Reading) : Except Fault Reading :=
  match s.outer with
  | [] => .error .unopenedGroup
  | parent :: outer =>
    let (r, depth) := s.current.content
    let r := match s.current.index with
      | some index => .group index r
      | none => r
    .ok (push { s with flags := s.current.outside, current := parent, outer } r (depth + 1))

/-- Repeats the last piece. -/
def repeated (s : Reading) (min : Nat) (max : Option Nat) (lazy : Bool) : Except Fault Reading :=
  match s.current.pieces with
  | .expr r depth :: pieces =>
    let greedy := !lazy != s.flags.swapGreed
    .ok { s with current :=
        { s.current with pieces := .expr (.rep r min max greedy) (depth + 1) :: pieces } }
  | _ => .error .nothingToRepeat

end Reading

/-- The expression of a character, with its other cases where the flags ask for them. -/
def Flags.character (flags : Flags) (c : Char) (byte : Bool) : Except Fault Regex :=
  if flags.unicode then
    .ok (.char (if flags.ignoreCase then .anyCase (.single c) else .single c))
  else if byte && c.toNat ≥ 0x80 then .error .notText
  else .ok (.char (if flags.ignoreCase && c.toNat < 0x80 then .anyCaseAscii (.single c) else .single c))

/-- The expression of an atom. -/
def Flags.atom (flags : Flags) : Atom → Except Fault Regex
  | .literal c byte => flags.character c byte
  | .shorthand which negated => return .char (← flags.shorthand which negated)
  | .property holds negated => return .char (← flags.property holds negated)
  | .look assertion => .ok (.look assertion)

/-- The expression of a dot: any character, less those that end a line unless the flags include them. -/
def Flags.dot (flags : Flags) : Except Fault Regex :=
  if !flags.unicode then .error .notText
  else if flags.dotAll then .ok (.char (.compl .none))
  else if flags.anyEnding then .ok (.char (.compl (.union (.single '\r') (.single '\n'))))
  else .ok .dot

/-- The assertion of `^` and of `$`. -/
def Flags.lineEdge (flags : Flags) (start : Bool) : Assertion :=
  match flags.multiLine, flags.anyEnding, start with
  | false, _, true => .textStart
  | false, _, false => .textEnd
  | true, false, true => .lineStart
  | true, false, false => .lineEnd
  | true, true, true => .lineStartAnyEnding
  | true, true, false => .lineEndAnyEnding

/-- Turns one flag on or off. -/
def Flags.set (flags : Flags) (letter : Char) (on : Bool) : Option Flags :=
  match letter with
  | 'i' => some { flags with ignoreCase := on }
  | 'm' => some { flags with multiLine := on }
  | 's' => some { flags with dotAll := on }
  | 'U' => some { flags with swapGreed := on }
  | 'u' => some { flags with unicode := on }
  | 'R' => some { flags with anyEnding := on }
  | 'x' => some { flags with spaced := on }
  | _ => none

/-- Reads flags up to a closing parenthesis or a colon: the flags then in force, whether any were written, and
whether a group follows. No flag stands twice, and there is at most one hyphen, which is not the last. -/
def readFlags (seen : List Char) (flags : Flags) : List Char → Except Fault (Flags × Bool × Bool × List Char)
  | [] => .error .badFlags
  | c :: rest =>
    if c = ')' ∨ c = ':' then
      if seen.head? = some '-' then .error .badFlags
      else .ok (flags, seen ≠ [], c = ':', rest)
    else if seen.contains c then .error .badFlags
    else if c = '-' then readFlags (c :: seen) flags rest
    else match flags.set c (!seen.contains '-') with
      | some flags => readFlags (c :: seen) flags rest
      | none => .error .badFlags

/-- Whether a character may stand in the name of a group. -/
def isNameChar (first : Bool) (c : Char) : Bool :=
  c == '_' || Unicode.Binary.isAlphabetic c
    || (!first && (c == '.' || c == '[' || c == ']' || Unicode.Category.isNumber (.of c)))

/-- Reads the name of a group and its closing angle bracket. -/
def readGroupName (rest : List Char) : Except Fault (List Char × List Char) :=
  match rest.span (· != '>') with
  | (first :: more, _ :: rest) =>
    if isNameChar true first && more.all (isNameChar false) then .ok (first :: more, rest)
    else .error .badGroupName
  | _ => .error .badGroupName

/-- Reads what follows an opening parenthesis: a setting of flags or the start of a group. -/
def readOpening (s : Reading) (rest : List Char) : Except Fault (Reading × List Char) := do
  match s.flags.skip rest with
  | '?' :: '=' :: _ | '?' :: '!' :: _ | '?' :: '<' :: '=' :: _ | '?' :: '<' :: '!' :: _ =>
    .error .lookAround
  | '?' :: 'P' :: '<' :: rest | '?' :: '<' :: rest =>
    let (name, rest) ← readGroupName rest
    if s.names.contains name then .error .repeatedGroupName
    else
      let s := { s with groups := s.groups + 1, names := name :: s.names }
      .ok (s.enter s.flags (some s.groups), rest)
  | '?' :: rest =>
    let (flags, any, group, rest) ← readFlags [] s.flags rest
    if group then .ok (s.enter flags none, rest)
    else if any then
      .ok ({ s with flags, current := { s.current with pieces := .setting :: s.current.pieces } }, rest)
    else .error .badFlags
  | rest =>
    let s := { s with groups := s.groups + 1 }
    .ok (s.enter s.flags (some s.groups), rest)

/-- The greatest count of a repetition. -/
def greatestCount : Nat := 0xFFFFFFFF

/-- Reads a count, with blanks on both sides. -/
def readCount (flags : Flags) (rest : List Char) : Except Fault (Nat × List Char) :=
  let counts (c : Char) : Bool := c.isDigit || (flags.spaced && Text.isBlank c)
  let (digits, rest) := (rest.dropWhile Text.isBlank).span counts
  let digits := digits.filter Char.isDigit
  let n := digits.foldl (fun n c => n * 10 + (c.toNat - '0'.toNat)) 0
  if digits = [] ∨ n > greatestCount then .error .badRepetition
  else .ok (n, rest.dropWhile Text.isBlank)

/-- Whether a question mark follows a repetition, which makes it lazy. -/
def readLazy : List Char → Bool × List Char
  | '?' :: rest => (true, rest)
  | rest => (false, rest)

/-- Reads a counted repetition after its opening brace. -/
def readRepetition (s : Reading) (rest : List Char) : Except Fault (Reading × List Char) := do
  let (min, rest) ← readCount s.flags (s.flags.skip rest)
  let (max, rest) ← match rest with
    | ',' :: rest =>
      match s.flags.skip rest with
      | '\x7d' :: rest => .ok (none, '\x7d' :: rest)
      | rest => do
        let (max, rest) ← readCount s.flags rest
        .ok (some max, rest)
    | rest => .ok (some min, rest)
  match rest with
  | '\x7d' :: rest =>
    let (lazy, rest) := readLazy (s.flags.skip rest)
    if max.any (· < min) then .error .badRepetition
    else .ok (← s.repeated min max lazy, rest)
  | _ => .error .badRepetition

/-- Reads one piece, operator or parenthesis; the text is not empty. -/
def readStep (s : Reading) : List Char → Except Fault (Reading × List Char)
  | [] => .ok (s, [])
  | c :: rest =>
    match c with
    | '(' => readOpening s rest
    | ')' => return (← s.leave, rest)
    | '|' => .ok (s.bar, rest)
    | '[' => do
      let (o, after) ← openClass s.flags rest
      let (members, depth, rest) ← readClass s.flags (rest.length + 1) o [] after
      .ok (s.push (.char members) depth, rest)
    | '?' => do
      let (lazy, rest) := readLazy rest
      .ok (← s.repeated 0 (some 1) lazy, rest)
    | '*' => do
      let (lazy, rest) := readLazy rest
      .ok (← s.repeated 0 none lazy, rest)
    | '+' => do
      let (lazy, rest) := readLazy rest
      .ok (← s.repeated 1 none lazy, rest)
    | '\x7b' => readRepetition s rest
    | '\\' => do
      let (atom, rest) ← readEscape s.flags rest
      .ok (s.push (← s.flags.atom atom) 0, rest)
    | '.' => return (s.push (← s.flags.dot) 0, rest)
    | '^' => .ok (s.push (.look (s.flags.lineEdge true)) 0, rest)
    | '$' => .ok (s.push (.look (s.flags.lineEdge false)) 0, rest)
    | c => return (s.push (← s.flags.character c false) 0, rest)

/-- Reads to the end of the pattern. Every step reads a character, so fuel above the length is enough. -/
def readAll : Nat → Reading → List Char → Except Fault Reading
  | 0, _, _ => .error .tooLarge
  | fuel + 1, s, rest =>
    match s.flags.skip rest with
    | [] => .ok s
    | rest => do
      let (s, rest) ← readStep s rest
      readAll fuel s rest

/-- Reads a pattern. -/
def read (pattern : String) : Except Fault Regex := do
  let s ← readAll (pattern.toList.length + 1) {} pattern.toList
  if s.outer ≠ [] then .error .unclosedGroup
  let (r, depth) := s.current.content
  if depth > depthLimit then .error .tooDeep
  if !Program.fits memoryLimit r then .error .tooLarge
  .ok r

end PackageAudit.Pattern
