import PackageAudit.Regex.Match

/-!
# Globs

A glob is a pattern for whole paths: `?` stands for any character, `*` for any text, `**` for any number of
whole components, and `[...]` or `[!...]` for one character among some or outside them. The slash is a
character like any other, except for `**`. `Glob.read` reads a pattern, `Glob.admits` matches a path with it.
-/

namespace PackageAudit

/-- A part of a glob. -/
inductive GlobToken where
  | char (c : Char)
  | anyChar
  | anyText
  /-- Any number of whole components. -/
  | anyComponents
  /-- One character in one of the ranges. -/
  | within (ranges : List (Char × Char))
  /-- One character outside the ranges. -/
  | outside (ranges : List (Char × Char))
  deriving DecidableEq, Repr

/-- A pattern for paths. -/
structure Glob where
  tokens : List GlobToken
  deriving DecidableEq, Repr

namespace Glob

/-- Why a text is no glob; the position counts characters. -/
inductive Fault where
  /-- More than two stars stand together. -/
  | tooManyStars (position : Nat)
  /-- Two stars do not make up a whole component. -/
  | partialComponent (position : Nat)
  /-- A bracket is not closed, or there is nothing in it. -/
  | invalidRange (position : Nat)
  deriving DecidableEq, Repr

namespace Fault

def position : Fault → Nat
  | .tooManyStars position | .partialComponent position | .invalidRange position => position

/-- What a fault is. -/
def reason : Fault → String
  | .tooManyStars _ => "wildcards are either regular \x60*\x60 or recursive \x60**\x60"
  | .partialComponent _ => "recursive wildcards must form a single path component"
  | .invalidRange _ => "invalid range pattern"

def message (f : Fault) : String :=
  "Pattern syntax error near position " ++ toString f.position ++ ": " ++ f.reason

end Fault

/-- The ranges between brackets; a hyphen between two characters makes a range of them. -/
def ranges : List Char → List (Char × Char)
  | first :: '-' :: last :: rest => (first, last) :: ranges rest
  | c :: rest => (c, c) :: ranges rest
  | [] => []

/-- What stands between brackets, and what follows them. The first character is not taken for the closing
bracket. -/
def cutBracket : List Char → Option (List Char × List Char)
  | [] => none
  | first :: rest =>
    match rest.dropWhile (· ≠ ']') with
    | [] => none
    | _ :: after => some (first :: rest.takeWhile (· ≠ ']'), after)

/-- Reads brackets after the opening one. -/
def readBracket (position : Nat) (text : List Char) : Except Fault (GlobToken × List Char) :=
  let (token, inside) := match text with
    | '!' :: rest => (GlobToken.outside, rest)
    | text => (GlobToken.within, text)
  match cutBracket inside with
  | some (content, rest) => .ok (token (ranges content), rest)
  | none => .error (.invalidRange position)

/-- Reads two stars that stand between `previous` and `rest`; `position` is that of the first star. They take
the slash that follows them. -/
def readComponents (position : Nat) (previous : Option Char) (rest : List Char) : Except Fault (List Char) :=
  if previous.all (· = '/') then
    match rest with
    | [] => .ok []
    | '/' :: rest => .ok rest
    | _ => .error (.partialComponent (position + 2))
  else .error (.partialComponent (position - 1))

/-- The tokens with one for whole components added; of two in a row one is enough. -/
def pushComponents (tokens : List GlobToken) : List GlobToken :=
  match tokens with
  | .anyComponents :: _ :: _ => tokens
  | tokens => .anyComponents :: tokens

/-- Reads a glob. `tokens` are those read so far, the last one first; `previous` is the character in front of
`text`. Every token takes a character, so fuel above the length of the text is enough. -/
def readFrom : Nat → Nat → Option Char → List GlobToken → List Char → Except Fault (List GlobToken)
  | 0, _, _, tokens, _ => .ok tokens.reverse
  | _, _, _, tokens, [] => .ok tokens.reverse
  | fuel + 1, position, previous, tokens, c :: text =>
    let next (token : GlobToken) := readFrom fuel (position + 1) (some c) (token :: tokens) text
    match c with
    | '?' => next .anyChar
    | '*' =>
      match text.takeWhile (· = '*') with
      | [] => next .anyText
      | [_] => do
        let after := text.drop 1
        let rest ← readComponents position previous after
        let taken := after.length - rest.length
        let last := if taken = 0 then '*' else '/'
        readFrom fuel (position + 2 + taken) (some last) (pushComponents tokens) rest
      | _ => .error (.tooManyStars (position + 2))
    | '[' => do
      let (token, rest) ← readBracket position text
      readFrom fuel (position + (text.length + 1 - rest.length)) (some ']') (token :: tokens) rest
    | c => next (.char c)

def read (pattern : String) : Except Fault Glob :=
  (readFrom (pattern.length + 1) 0 none [] pattern.toList).map (⟨·⟩)

/-- Any character, line feeds included. -/
def anything : Regex := .char (.compl .none)

/-- The expression for a token. Whole components end in a slash or at the end of the path. -/
def tokenRegex : GlobToken → Regex
  | .char c => .char (.single c)
  | .anyChar => anything
  | .anyText => .many anything
  | .anyComponents =>
    .oneOf [.empty, .concat [.many anything, .char (.single '/')], .concat [.many anything, .look .textEnd]]
  | .within ranges => .char (.ofRanges ranges)
  | .outside ranges => .char (.compl (.ofRanges ranges))

def toRegex (g : Glob) : Regex :=
  .concat (.look .textStart :: g.tokens.map tokenRegex ++ [.look .textEnd])

def admits (g : Glob) (path : String) : Bool :=
  g.toRegex.isMatch path.toList

end Glob
end PackageAudit
