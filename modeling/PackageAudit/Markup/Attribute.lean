import PackageAudit.Markup.Entity
import PackageAudit.Markup.Token

/-!
# Attributes

The attributes of a tag stand after its name as keys with quoted values. `readAttributes` reads them in order
and unescapes each value before it goes on, so the first fault in the text is the one that counts.
-/

namespace PackageAudit.Markup

/-- The name in the content of a tag. -/
def tagName (content : List Char) : List Char :=
  content.takeWhile (!isSpace ·)

/-- An attribute that was read, with its value still escaped: where its key stands, and what follows it. -/
structure RawAttribute where
  key : List Char
  keyOffset : Nat
  value : List Char
  next : Nat
  rest : List Char

/-- Reads the next attribute from an offset into a tag of the given size; `seen` are the keys before it with
their offsets. There is none where only blanks are left. -/
def readAttribute (size : Nat) (seen : List (List Char × Nat)) (offset : Nat) (text : List Char) :
    Except Fault (Option RawAttribute) := do
  let keyOffset := offset + (text.takeWhile isSpace).length
  match text.dropWhile isSpace with
  | [] => .ok none
  | c :: rest =>
    let isKey (c : Char) : Bool := c != '=' && !isSpace c
    let key := c :: rest.takeWhile isKey
    let keyEnd := keyOffset + Text.Utf8.size key
    let gap := (rest.dropWhile isKey).takeWhile isSpace
    match (rest.dropWhile isKey).dropWhile isSpace with
    | [] => .error (.expectedEquals size)
    | '=' :: rest =>
      match seen.find? fun entry => entry.1 = key with
      | some (_, previous) => .error (.duplicatedAttribute keyOffset previous)
      | none =>
        let valueOffset := keyEnd + gap.length + 1 + (rest.takeWhile isSpace).length
        match rest.dropWhile isSpace with
        | [] => .error (.expectedValue size)
        | quote :: rest =>
          if quote = '"' ∨ quote = '\'' then
            let value := rest.takeWhile (· ≠ quote)
            match rest.dropWhile (· ≠ quote) with
            | [] => .error (.unclosedValue size quote)
            | _ :: rest =>
              .ok (some { key, keyOffset, value, next := valueOffset + Text.Utf8.size value + 2, rest })
          else .error (.unquotedValue valueOffset)
    | _ => .error (.expectedEquals (keyEnd + gap.length))

/-- Reads attributes up to the end of a tag. Every attribute takes a character, so fuel above the length of the
text is enough. -/
def readAttributesFrom (size : Nat) : Nat → List (List Char × Nat) → Nat → List Char →
    Except Fault (List (String × String))
  | 0, _, _, _ => .ok []
  | fuel + 1, seen, offset, text => do
    match ← readAttribute size seen offset text with
    | none => .ok []
    | some a =>
      let value ← unescape a.value
      let more ← readAttributesFrom size fuel (seen ++ [(a.key, a.keyOffset)]) a.next a.rest
      .ok ((String.ofList a.key, String.ofList value) :: more)

/-- The attributes in the content of a tag, in order, with their values unescaped. -/
def readAttributes (content : List Char) : Except Fault (List (String × String)) :=
  let name := tagName content
  readAttributesFrom (Text.Utf8.size content) (content.length + 1) [] (Text.Utf8.size name)
    (content.drop name.length)

end PackageAudit.Markup
