import PackageAudit.Text.Digit
import PackageAudit.Text.Utf8

/-!
# Quoted texts

A text stands in JSON between quotes, with quotes, backslashes and control characters escaped (`quote`).
`readQuoted` reads a text after its opening quote; a character beyond the basic plane is escaped as two units,
which have to stand together. `skipQuoted` passes over a text that nobody asked for and leaves its units
unpaired.
-/

namespace PackageAudit.Json

/-- Why a text is no JSON: it is wrong somewhere, or it ends too early. -/
inductive Fault where
  | syntactic
  | unfinished
  deriving DecidableEq, Repr

/-- A hexadecimal digit in lower case. -/
def hexDigit (n : Nat) : Char :=
  Char.ofNat (if n < 10 then '0'.toNat + n else 'a'.toNat + n - 10)

/-- A character as it is written between quotes. -/
def escapeChar (c : Char) : List Char :=
  match c with
  | '"' => ['\\', '"']
  | '\\' => ['\\', '\\']
  | '\x08' => ['\\', 'b']
  | '\t' => ['\\', 't']
  | '\n' => ['\\', 'n']
  | '\x0c' => ['\\', 'f']
  | '\r' => ['\\', 'r']
  | c =>
    if c.toNat < 0x20 then ['\\', 'u', '0', '0', hexDigit (c.toNat / 16), hexDigit (c.toNat % 16)] else [c]

def quote (text : List Char) : List Char :=
  '"' :: text.flatMap escapeChar ++ ['"']

/-- The value of a hexadecimal digit. -/
def hexValue? : Char → Option Nat :=
  Text.digitValue? 16

/-- Reads the four digits of a unit. Where fewer than four bytes are left, the text ends too early. -/
def readUnit : List Char → Except Fault (Nat × List Char)
  | a :: b :: c :: d :: rest =>
    match hexValue? a, hexValue? b, hexValue? c, hexValue? d with
    | some a, some b, some c, some d => .ok (((a * 16 + b) * 16 + c) * 16 + d, rest)
    | _, _, _, _ => .error .syntactic
  | short => .error (if Text.Utf8.size short < 4 then .unfinished else .syntactic)

/-- The character of an escape with one letter. -/
def simpleEscape? : Char → Option Char
  | '"' => some '"'
  | '\\' => some '\\'
  | '/' => some '/'
  | 'b' => some '\x08'
  | 'f' => some '\x0c'
  | 'n' => some '\n'
  | 'r' => some '\r'
  | 't' => some '\t'
  | _ => none

/-- Reads the second unit of a character whose first unit is `high`. -/
def readLowUnit (high : Nat) : List Char → Except Fault (Char × List Char)
  | [] => .error .unfinished
  | '\\' :: [] => .error .unfinished
  | '\\' :: 'u' :: rest => do
    let (low, rest) ← readUnit rest
    if 0xDC00 ≤ low ∧ low ≤ 0xDFFF then
      .ok (Char.ofNat (0x10000 + (high - 0xD800) * 0x400 + (low - 0xDC00)), rest)
    else .error .syntactic
  | _ => .error .syntactic

/-- Reads what follows a backslash. -/
def readEscape : List Char → Except Fault (Char × List Char)
  | [] => .error .unfinished
  | 'u' :: rest => do
    let (unit, rest) ← readUnit rest
    if 0xDC00 ≤ unit ∧ unit ≤ 0xDFFF then .error .syntactic
    else if 0xD800 ≤ unit ∧ unit ≤ 0xDBFF then readLowUnit unit rest
    else .ok (Char.ofNat unit, rest)
  | c :: rest =>
    match simpleEscape? c with
    | some c => .ok (c, rest)
    | none => .error .syntactic

/-- Passes over what follows a backslash. -/
def skipEscape : List Char → Except Fault (List Char)
  | [] => .error .unfinished
  | 'u' :: rest => (readUnit rest).map (·.2)
  | c :: rest => if (simpleEscape? c).isSome then .ok rest else .error .syntactic

theorem length_of_readUnit {text rest : List Char} {unit : Nat} (h : readUnit text = .ok (unit, rest)) :
    rest.length + 4 = text.length := by
  unfold readUnit at h
  split at h
  · split at h
    · obtain ⟨-, rfl⟩ := by simpa using h
      rfl
    · cases h
  · cases h

/-- A second unit takes at least one character. -/
theorem length_of_readLowUnit {text rest : List Char} {high : Nat} {c : Char}
    (h : readLowUnit high text = .ok (c, rest)) : rest.length < text.length := by
  unfold readLowUnit at h
  split at h
  · cases h
  · cases h
  · next after =>
    cases hu : readUnit after with
    | error e => simp [hu, bind, Except.bind] at h
    | ok p =>
      obtain ⟨low, after'⟩ := p
      have := length_of_readUnit hu
      simp only [hu, bind, Except.bind] at h
      split at h
      · obtain ⟨-, rfl⟩ := by simpa using h
        simp only [List.length_cons]; omega
      · cases h
  · cases h

/-- An escape takes at least one character. -/
theorem length_of_readEscape {text rest : List Char} {c : Char} (h : readEscape text = .ok (c, rest)) :
    rest.length < text.length := by
  unfold readEscape at h
  split at h
  · cases h
  · next after =>
    cases hu : readUnit after with
    | error e => simp [hu, bind, Except.bind] at h
    | ok p =>
      obtain ⟨unit, after'⟩ := p
      have := length_of_readUnit hu
      simp only [hu, bind, Except.bind] at h
      split at h
      · cases h
      · split at h
        · have := length_of_readLowUnit h
          simp only [List.length_cons]; omega
        · obtain ⟨-, rfl⟩ := by simpa using h
          simp only [List.length_cons]; omega
  · split at h
    · obtain ⟨-, rfl⟩ := by simpa using h
      simp
    · cases h

/-- A skipped escape takes at least one character. -/
theorem length_of_skipEscape {text rest : List Char} (h : skipEscape text = .ok rest) :
    rest.length < text.length := by
  unfold skipEscape at h
  split at h
  · cases h
  · next after =>
    cases hu : readUnit after with
    | error e => simp [hu, Except.map] at h
    | ok p =>
      have := length_of_readUnit hu
      simp only [hu, Except.map, Except.ok.injEq] at h
      subst h
      simp only [List.length_cons]; omega
  · split at h
    · obtain rfl := by simpa using h
      simp
    · cases h

/-- Reads a text after its opening quote. -/
def readQuoted : List Char → Except Fault (List Char × List Char)
  | [] => .error .unfinished
  | '"' :: rest => .ok ([], rest)
  | '\\' :: rest =>
    match h : readEscape rest with
    | .error e => .error e
    | .ok (c, after) =>
      have := length_of_readEscape h
      (readQuoted after).map fun (text, rest) => (c :: text, rest)
  | c :: rest =>
    if c.toNat < 0x20 then .error .syntactic
    else (readQuoted rest).map fun (text, rest) => (c :: text, rest)
termination_by text => text.length

/-- Passes over a text after its opening quote. -/
def skipQuoted : List Char → Except Fault (List Char)
  | [] => .error .unfinished
  | '"' :: rest => .ok rest
  | '\\' :: rest =>
    match h : skipEscape rest with
    | .error e => .error e
    | .ok after =>
      have := length_of_skipEscape h
      skipQuoted after
  | c :: rest => if c.toNat < 0x20 then .error .syntactic else skipQuoted rest
termination_by text => text.length

end PackageAudit.Json
