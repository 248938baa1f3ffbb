import PackageAudit.Markup.Fault
import PackageAudit.Text.Digit
import PackageAudit.Text.Utf8

/-!
# Entities

The five characters with a meaning in markup are written as entities (`escape`); `unescape` reads the
predefined entities and the references to characters by number. Unescaping what was escaped gives the text
back.
-/

namespace PackageAudit.Markup

/-- A character as it is written in a text or a value. -/
def escapeChar (c : Char) : List Char :=
  match c with
  | '<' => "&lt;".toList
  | '>' => "&gt;".toList
  | '&' => "&amp;".toList
  | '\'' => "&apos;".toList
  | '"' => "&quot;".toList
  | c => [c]

/-- A text with the five special characters written as entities. -/
def escape (text : List Char) : List Char :=
  text.flatMap escapeChar

/-- The number that digits write; a number of more than 32 bits is refused where it becomes too large. -/
def readNumber (base value : Nat) : List Char → Except CharRefFault Nat
  | [] => .ok value
  | c :: rest =>
    match Text.digitValue? base c with
    | none => .error .notADigit
    | some d =>
      let value := value * base + d
      if value ≤ 0xFFFFFFFF then readNumber base value rest else .error .tooLarge

/-- The number after the mark of a character reference: digits without a sign. -/
def readUnsigned (base : Nat) : List Char → Except CharRefFault Nat
  | [] => .error .empty
  | c :: rest => if c = '+' ∨ c = '-' then .error .sign else readNumber base 0 (c :: rest)

/-- The character that a reference names, given what follows its `#`. -/
def readCharRef (text : List Char) : Except CharRefFault Char := do
  let number ← match text with
    | 'x' :: digits => readUnsigned 16 digits
    | digits => readUnsigned 10 digits
  if number = 0 then .error .zero
  else if number.isValidChar then .ok (Char.ofNat number)
  else .error (.notACharacter number)

/-- The character that a predefined entity stands for. -/
def predefined? : List Char → Option Char
  | ['l', 't'] => some '<'
  | ['g', 't'] => some '>'
  | ['a', 'm', 'p'] => some '&'
  | ['a', 'p', 'o', 's'] => some '\''
  | ['q', 'u', 'o', 't'] => some '"'
  | _ => none

/-- The character that an entity stands for, given the name between `&` and `;` and where it stands. -/
def resolve (start stop : Nat) : List Char → Except Fault Char
  | '#' :: number => (readCharRef number).mapError .badCharacter
  | name =>
    match predefined? name with
    | some c => .ok c
    | none => .error (.unknownEntity start stop (String.ofList name))

/-- Reads a text with entities. `entity` is the entity that has begun, if any: where, and its name so far with
the last character first; `offset` counts bytes and `size` is the size of the whole text. -/
def unescapeFrom (size : Nat) : Option (Nat × List Char) → Nat → List Char → Except Fault (List Char)
  | none, _, [] => .ok []
  | some (start, _), _, [] => .error (.unclosedEntity start size)
  | none, offset, c :: rest =>
    if c = '&' then unescapeFrom size (some (offset, [])) (offset + 1) rest
    else (unescapeFrom size none (offset + c.utf8Size) rest).map (c :: ·)
  | some (start, name), offset, c :: rest =>
    if c = '&' then .error (.unclosedEntity start size)
    else if c = ';' then do
      let resolved ← resolve (start + 1) offset name.reverse
      (unescapeFrom size none (offset + 1) rest).map (resolved :: ·)
    else unescapeFrom size (some (start, c :: name)) (offset + c.utf8Size) rest

/-- The text that a text with entities stands for. -/
def unescape (text : List Char) : Except Fault (List Char) :=
  unescapeFrom (Text.Utf8.size text) none 0 text

/-- Reading the entity of an escaped character gives the character, whatever follows. -/
theorem unescapeFrom_escapeChar (size offset : Nat) (c : Char) (rest : List Char) :
    ∃ offset', unescapeFrom size none offset (escapeChar c ++ rest)
      = (unescapeFrom size none offset' rest).map (c :: ·) := by
  unfold escapeChar
  split
  case h_6 hlt hgt hamp _ _ =>
    refine ⟨offset + c.utf8Size, ?_⟩
    show unescapeFrom size none offset (c :: rest) = _
    rw [unescapeFrom, if_neg]
    rintro rfl
    exact hamp rfl
  all_goals exact ⟨_, rfl⟩

theorem unescape_escape (text : List Char) : unescape (escape text) = .ok text := by
  have go : ∀ size offset, unescapeFrom size none offset (escape text) = .ok text := by
    intro size
    induction text with
    | nil => intro offset; rfl
    | cons c rest ih =>
      intro offset
      obtain ⟨offset', h⟩ := unescapeFrom_escapeChar size offset c (escape rest)
      show unescapeFrom size none offset (escapeChar c ++ escape rest) = _
      rw [h, ih]
      rfl
  exact go _ _

end PackageAudit.Markup
