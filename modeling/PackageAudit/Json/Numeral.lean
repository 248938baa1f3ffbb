import PackageAudit.Decimal.Binary64
import PackageAudit.Json.Quoted

/-!
# Numbers

A number that somebody asks for is read to its value (`readNumber`): an integer of 64 bits, or a number of
double precision where there is a fraction or an exponent, where it is larger, and for minus zero. Digits
beyond what 64 bits hold only scale. A number that nobody asked for is only checked (`skipNumber`), so it may
be as large as it likes.
-/

namespace PackageAudit.Json

/-- The value of a number. -/
inductive Numeral where
  | integer (value : Int)
  | double (negative : Bool) (magnitude : Binary64)
  deriving DecidableEq, Repr

def digitValue (c : Char) : Nat :=
  c.toNat - '0'.toNat

def word : Nat := 0xFFFFFFFFFFFFFFFF

/-- Takes digits into a number while it fits 64 bits: the number, how many digits were taken, and what
follows. -/
def takeDigits (value count : Nat) : List Char → Nat × Nat × List Char
  | [] => (value, count, [])
  | c :: rest =>
    if c.isDigit ∧ value * 10 + digitValue c ≤ word then takeDigits (value * 10 + digitValue c) (count + 1) rest
    else (value, count, c :: rest)

/-- The digits in front of a text, and what follows them. -/
def spanDigits (text : List Char) : List Char × List Char :=
  (text.takeWhile Char.isDigit, text.dropWhile Char.isDigit)

/-- The number of double precision that a significand with an exponent stands for. -/
def scaled (negative : Bool) (significand : Nat) (exponent : Int) (rest : List Char) :
    Except Fault (Numeral × List Char) :=
  match Binary64.ofDecimal significand exponent with
  | some magnitude => .ok (.double negative magnitude, rest)
  | none => .error .syntactic

/-- The greatest exponent that is counted. -/
def exponentLimit : Nat := 0x7FFFFFFF

/-- An exponent moved by a written one, within 32 bits. -/
def addExponent (exponent : Int) (down : Bool) (written : Nat) : Int :=
  if down then max (-0x80000000) (exponent - written) else min 0x7FFFFFFF (exponent + written)

/-- Reads an exponent after its letter. -/
def readExponent (negative : Bool) (significand : Nat) (exponent : Int) (text : List Char) :
    Except Fault (Numeral × List Char) :=
  let (down, text) := match text with
    | '+' :: rest => (false, rest)
    | '-' :: rest => (true, rest)
    | text => (false, text)
  match text with
  | [] => .error .unfinished
  | c :: _ =>
    if c.isDigit then
      let (digits, rest) := spanDigits text
      let written := digits.foldl (fun n c => min (n * 10 + digitValue c) (exponentLimit + 1)) 0
      if exponentLimit < written then
        if significand ≠ 0 ∧ !down then .error .syntactic else .ok (.double negative .zero, rest)
      else scaled negative significand (addExponent exponent down written) rest
    else .error .syntactic

/-- Reads what may follow the digits of a number of double precision: an exponent. -/
def readTail (negative : Bool) (significand : Nat) (exponent : Int) (text : List Char) :
    Except Fault (Numeral × List Char) :=
  match text with
  | 'e' :: rest | 'E' :: rest => readExponent negative significand exponent rest
  | rest => scaled negative significand exponent rest

/-- Reads a fraction after its point. -/
def readFraction (negative : Bool) (significand : Nat) (exponent : Int) (text : List Char) :
    Except Fault (Numeral × List Char) :=
  match text with
  | [] => .error .unfinished
  | c :: _ =>
    if c.isDigit then
      let (significand, count, rest) := takeDigits significand 0 text
      readTail negative significand (exponent - count) (spanDigits rest).2
    else .error .syntactic

/-- Reads what follows the whole digits of a number. -/
def readAfterWhole (negative : Bool) (significand : Nat) (text : List Char) :
    Except Fault (Numeral × List Char) :=
  match text with
  | '.' :: rest => readFraction negative significand 0 rest
  | 'e' :: rest | 'E' :: rest => readExponent negative significand 0 rest
  | rest =>
    if negative then
      if significand = 0 ∨ 0x8000000000000000 < significand then scaled true significand 0 rest
      else .ok (.integer (-significand), rest)
    else .ok (.integer significand, rest)

/-- Reads a number after its sign. -/
def readUnsigned (negative : Bool) (text : List Char) : Except Fault (Numeral × List Char) :=
  match text with
  | [] => .error .unfinished
  | '0' :: rest =>
    if rest.head?.any Char.isDigit then .error .syntactic else readAfterWhole negative 0 rest
  | c :: rest =>
    if c.isDigit then
      let (significand, _, rest) := takeDigits (digitValue c) 0 rest
      let (more, rest) := spanDigits rest
      match more, rest with
      | [], rest => readAfterWhole negative significand rest
      | more, '.' :: rest => readFraction negative significand more.length rest
      | more, rest => readTail negative significand more.length rest
    else .error .syntactic

/-- Reads a number. -/
def readNumber (text : List Char) : Except Fault (Numeral × List Char) :=
  match text with
  | '-' :: rest => readUnsigned true rest
  | text => readUnsigned false text

def skipDigits (text : List Char) : Except Fault (List Char) :=
  if text.head?.any Char.isDigit then .ok (spanDigits text).2 else .error .syntactic

/-- Passes over an exponent, if there is one. -/
def skipExponent (text : List Char) : Except Fault (List Char) :=
  match text with
  | 'e' :: rest | 'E' :: rest =>
    match rest with
    | '+' :: rest | '-' :: rest => skipDigits rest
    | rest => skipDigits rest
  | rest => .ok rest

/-- Passes over a number. -/
def skipNumber (text : List Char) : Except Fault (List Char) := do
  let text := match text with
    | '-' :: rest => rest
    | text => text
  let rest ← match text with
    | '0' :: rest => if rest.head?.any Char.isDigit then .error .syntactic else .ok rest
    | text => skipDigits text
  match rest with
  | '.' :: rest => skipExponent (← skipDigits rest)
  | rest => skipExponent rest

end PackageAudit.Json
