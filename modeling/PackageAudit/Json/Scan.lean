import PackageAudit.Json.Numeral

/-!
# Scanning JSON

The steps that readers of JSON share: blanks, fixed words, separators, and values that nobody asked for
(`skipValue`). A skipped value is only checked for its form; the open brackets around it are kept in a list,
innermost first, so it may be nested as deeply as it likes.
-/

namespace PackageAudit.Json

def isSpace (c : Char) : Bool :=
  c == ' ' || c == '\n' || c == '\t' || c == '\r'

/-- A text without the blanks in front of it. -/
def skipSpace (text : List Char) : List Char :=
  text.dropWhile isSpace

/-- Reads the rest of a fixed word. -/
def readWord : List Char → List Char → Except Fault (List Char)
  | [], text => .ok text
  | _ :: _, [] => .error .unfinished
  | w :: word, c :: rest => if c = w then readWord word rest else .error .syntactic

/-- Reads the colon between a key and its value. -/
def readColon (text : List Char) : Except Fault (List Char) :=
  match skipSpace text with
  | ':' :: rest => .ok rest
  | [] => .error .unfinished
  | _ => .error .syntactic

/-- The kinds of brackets. -/
inductive Bracket where
  | square
  | curly
  deriving DecidableEq, Repr

def Bracket.close : Bracket → Char
  | .square => ']'
  | .curly => '\x7d'

/-- What can stand where a value is expected. -/
inductive Piece where
  /-- A value without parts, up to what follows it. -/
  | scalar (rest : List Char)
  /-- An opening bracket. -/
  | opening (bracket : Bracket) (rest : List Char)
  deriving DecidableEq, Repr

/-- Passes over a scalar or an opening bracket. -/
def skipPiece (text : List Char) : Except Fault Piece :=
  match skipSpace text with
  | [] => .error .unfinished
  | 'n' :: rest => .scalar <$> readWord ['u', 'l', 'l'] rest
  | 't' :: rest => .scalar <$> readWord ['r', 'u', 'e'] rest
  | 'f' :: rest => .scalar <$> readWord ['a', 'l', 's', 'e'] rest
  | '"' :: rest => .scalar <$> skipQuoted rest
  | '[' :: rest => .ok (.opening .square rest)
  | '\x7b' :: rest => .ok (.opening .curly rest)
  | c :: rest =>
    if c = '-' ∨ c.isDigit then .scalar <$> skipNumber (c :: rest) else .error .syntactic

/-- Passes over the closing brackets after a value, and over the comma after them. `more` says whether a comma
may stand here. The result is the brackets that are still open and the text that follows. -/
def skipClosing (more : Bool) : List Bracket → List Char → Except Fault (List Bracket × List Char)
  | [], text => .ok ([], text)
  | bracket :: outer, text =>
    match skipSpace text with
    | [] => .error .unfinished
    | c :: rest =>
      if c = ',' ∧ more then .ok (bracket :: outer, rest)
      else if c = bracket.close then skipClosing true outer rest
      else if more then .error .syntactic
      else .ok (bracket :: outer, c :: rest)

/-- Passes over the key of a member with its colon. -/
def skipKey (text : List Char) : Except Fault (List Char) :=
  match skipSpace text with
  | '"' :: rest => do readColon (← skipQuoted rest)
  | [] => .error .unfinished
  | _ => .error .syntactic

/-- Passes over what is left of a value inside open brackets. Every round takes a character, so fuel above the
length of the text never runs out. -/
def skipOpen : Nat → List Bracket → List Char → Except Fault (List Char)
  | 0, _, _ => .error .syntactic
  | fuel + 1, opened, text => do
    let (opened, more, rest) ← match ← skipPiece text with
      | .scalar rest => .ok (opened, true, rest)
      | .opening bracket rest => .ok (bracket :: opened, false, rest)
    match ← skipClosing more opened rest with
    | ([], rest) => .ok rest
    | (.square :: outer, rest) => skipOpen fuel (.square :: outer) rest
    | (.curly :: outer, rest) => skipOpen fuel (.curly :: outer) (← skipKey rest)

def skipValue (text : List Char) : Except Fault (List Char) :=
  skipOpen (text.length + 1) [] text

end PackageAudit.Json
