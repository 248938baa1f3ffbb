import PackageAudit.Decimal.Shortest
import PackageAudit.Json.Scan
import PackageAudit.Settings.Basic

/-!
# Reading settings

Settings are read from an object whose keys are known words, or from an array that lists them in their order.
What is not given keeps its default; unknown keys are passed over. Reading stops at the first error in the
order of the text, be it a fault of the JSON or a value of another type than the setting has.
-/

namespace PackageAudit

/-- A value of the wrong type. -/
inductive Found where
  | null
  | boolean (b : Bool)
  | number (n : Json.Numeral)
  | text (s : String)
  | sequence
  | map
  deriving DecidableEq, Repr

/-- A value of the wrong type, in words. -/
def Found.describe : Found → String
  | .null => "null"
  | .boolean b => "boolean \x60" ++ (if b then "true" else "false") ++ "\x60"
  | .number (.integer value) => "integer \x60" ++ toString value ++ "\x60"
  | .number (.double negative magnitude) =>
    "floating point \x60" ++ (if negative then "-" else "") ++ String.ofList magnitude.text ++ "\x60"
  | .text s => "string " ++ Text.shown s
  | .sequence => "sequence"
  | .map => "map"

/-- JSON that does not describe settings. -/
inductive Mismatch where
  | invalidType (found : Found) (expected : String)
  | unknownVariant (word : String)
  | duplicateField (key : String)
  deriving DecidableEq, Repr

/-- The message for JSON that does not describe settings. -/
def Mismatch.message : Mismatch → String
  | .invalidType found expected => "invalid type: " ++ found.describe ++ ", expected " ++ expected
  | .unknownVariant word =>
    "unknown variant \x60" ++ word ++ "\x60, expected "
      ++ Text.join " or " (ReportFormat.values.map fun f => "\x60" ++ f.token ++ "\x60")
  | .duplicateField key => "duplicate field \x60" ++ key ++ "\x60"

/-- Why a text does not describe settings. -/
inductive DecodeError where
  | fault (f : Json.Fault)
  | mismatch (m : Mismatch)
  deriving DecidableEq, Repr

namespace Settings

/-- A reader takes what it reads from the front of a text and leaves the rest. -/
abbrev Reader (α : Type) := List Char → Except DecodeError (α × List Char)

/-- The outcome of a step that only JSON can be at fault for. -/
def lift {α : Type} (result : Except Json.Fault α) : Except DecodeError α :=
  result.mapError .fault

/-- A quoted text after its opening quote. -/
def readString : Reader String := fun text => do
  let (chars, rest) ← lift (Json.readQuoted text)
  .ok (String.ofList chars, rest)

/-- The error for the value in front of a text, which has another type than expected. A value that is no JSON
is at fault itself. -/
def unexpected (expected : String) (text : List Char) : DecodeError :=
  let found : Except DecodeError Found := do
    match text with
    | 'n' :: rest => lift ((fun _ => .null) <$> Json.readWord ['u', 'l', 'l'] rest)
    | 't' :: rest => lift ((fun _ => .boolean true) <$> Json.readWord ['r', 'u', 'e'] rest)
    | 'f' :: rest => lift ((fun _ => .boolean false) <$> Json.readWord ['a', 'l', 's', 'e'] rest)
    | '"' :: rest => (fun p => .text p.1) <$> readString rest
    | '[' :: _ => .ok .sequence
    | '\x7b' :: _ => .ok .map
    | [] => .error (.fault .unfinished)
    | c :: _ =>
      if c = '-' ∨ c.isDigit then lift ((fun p => .number p.1) <$> Json.readNumber text)
      else .error (.fault .syntactic)
  match found with
  | .ok found => .mismatch (.invalidType found expected)
  | .error e => e

/-- Reads a text. -/
def readText (expected : String) : Reader String := fun text =>
  match Json.skipSpace text with
  | '"' :: rest => readString rest
  | other => .error (unexpected expected other)

/-- Passes to the next item of an array, if there is one; `first` says whether none was read yet. The text
left is that of the item, or what follows the array. -/
def nextItem (first : Bool) : Reader Bool := fun text =>
  match Json.skipSpace text with
  | [] => .error (.fault .unfinished)
  | ']' :: rest => .ok (false, rest)
  | c :: rest =>
    if first then .ok (true, c :: rest)
    else if c = ',' then
      match Json.skipSpace rest with
      | [] => .error (.fault .unfinished)
      | ']' :: _ => .error (.fault .syntactic)
      | rest => .ok (true, rest)
    else .error (.fault .syntactic)

/-- Reads the items of an array of texts after its bracket. Every item takes a character, so fuel above the
length of the text never runs out. -/
def readItems : Nat → Bool → Reader (List String)
  | 0, _, _ => .error (.fault .syntactic)
  | fuel + 1, first, text => do
    match ← nextItem first text with
    | (false, rest) => .ok ([], rest)
    | (true, rest) =>
      let (item, rest) ← readText "a string" rest
      let (items, rest) ← readItems fuel false rest
      .ok (item :: items, rest)

/-- Reads an array of texts. -/
def readTexts : Reader (List String) := fun text =>
  match Json.skipSpace text with
  | '[' :: rest => readItems (rest.length + 1) true rest
  | other => .error (unexpected "a sequence" other)

/-- The format that a word names. -/
def formatOf (word : String) : Except DecodeError ReportFormat :=
  match ReportFormat.ofToken? word with
  | some format => .ok format
  | none => .error (.mismatch (.unknownVariant word))

/-- Reads the null that stands beside a format in an object. -/
def readUnit : Reader Unit := fun text =>
  match Json.skipSpace text with
  | 'n' :: rest => lift ((fun rest => ((), rest)) <$> Json.readWord ['u', 'l', 'l'] rest)
  | other => .error (unexpected "unit" other)

/-- Reads a report format: a word, or an object with the word for its only key and null for its value. -/
def readFormat : Reader ReportFormat := fun text => do
  match Json.skipSpace text with
  | [] => .error (.fault .unfinished)
  | '"' :: rest =>
    let (word, rest) ← readString rest
    .ok (← formatOf word, rest)
  | '\x7b' :: rest =>
    let (word, rest) ← readText "variant identifier" rest
    let format ← formatOf word
    let ((), rest) ← readUnit (← lift (Json.readColon rest))
    match Json.skipSpace rest with
    | [] => .error (.fault .unfinished)
    | '\x7d' :: rest => .ok (format, rest)
    | _ => .error (.fault .syntactic)
  | _ => .error (.fault .syntactic)

/-- The settings that can be given. -/
inductive Key where
  | rulesFile
  | catalogSection
  | reportFile
  | reportFormat
  | reservedKeywordsFile
  | rootMarkers
  | skipSuffixes
  | ignores
  deriving DecidableEq, Repr

namespace Key

/-- The word for a setting. -/
def token : Key → String
  | .rulesFile => "rulesFile"
  | .catalogSection => "catalogSection"
  | .reportFile => "reportFile"
  | .reportFormat => "reportFormat"
  | .reservedKeywordsFile => "reservedKeywordsFile"
  | .rootMarkers => "rootMarkers"
  | .skipSuffixes => "skipSuffixes"
  | .ignores => "ignores"

def values : List Key :=
  [.rulesFile, .catalogSection, .reportFile, .reportFormat, .reservedKeywordsFile, .rootMarkers, .skipSuffixes,
    .ignores]

def ofToken? (text : String) : Option Key :=
  values.find? (·.token == text)

theorem ofToken?_token (k : Key) : ofToken? k.token = some k := by cases k <;> rfl

end Key

/-- Reads the value of a setting into settings. -/
def readValue (s : Settings) (key : Key) : Reader Settings := fun text =>
  let set {α : Type} (read : Reader α) (change : α → Settings) : Except DecodeError (Settings × List Char) :=
    (fun (value, rest) => (change value, rest)) <$> read text
  match key with
  | .rulesFile => set (readText "a string") ({ s with rulesFile := · })
  | .catalogSection => set (readText "a string") ({ s with catalogSection := · })
  | .reportFile => set (readText "a string") ({ s with reportFile := · })
  | .reportFormat => set readFormat ({ s with reportFormat := · })
  | .reservedKeywordsFile => set (readText "a string") ({ s with reservedKeywordsFile := · })
  | .rootMarkers => set readTexts ({ s with rootMarkers := · })
  | .skipSuffixes => set readTexts ({ s with skipSuffixes := · })
  | .ignores => set readTexts ({ s with ignores := · })

/-- Passes to the key of the next member of an object, if there is one. The text left is that after the quote
of the key, or what follows the object. -/
def nextKey (first : Bool) : Reader Bool := fun text =>
  let keyAt (text : List Char) : Except DecodeError (Bool × List Char) :=
    match text with
    | [] => .error (.fault .unfinished)
    | '"' :: rest => .ok (true, rest)
    | _ => .error (.fault .syntactic)
  match Json.skipSpace text with
  | [] => .error (.fault .unfinished)
  | '\x7d' :: rest => .ok (false, rest)
  | c :: rest =>
    if first then keyAt (c :: rest)
    else if c = ',' then keyAt (Json.skipSpace rest)
    else .error (.fault .syntactic)

/-- Reads the members of an object after its brace; `given` are the settings read so far. Every member takes a
character, so fuel above the length of the text never runs out. -/
def readMembers : Nat → Bool → List Key → Settings → Reader Settings
  | 0, _, _, _, _ => .error (.fault .syntactic)
  | fuel + 1, first, given, s, text => do
    match ← nextKey first text with
    | (false, rest) => .ok (s, rest)
    | (true, rest) =>
      let (word, rest) ← readString rest
      match Key.ofToken? word with
      | none =>
        let rest ← lift (Json.skipValue (← lift (Json.readColon rest)))
        readMembers fuel false given s rest
      | some key =>
        if key ∈ given then .error (.mismatch (.duplicateField word))
        else
          let (s, rest) ← readValue s key (← lift (Json.readColon rest))
          readMembers fuel false (key :: given) s rest

/-- Reads settings that are listed in their order after a bracket. -/
def readListed : Bool → List Key → Settings → Reader Settings
  | _, [], s, text =>
    match Json.skipSpace text with
    | [] => .error (.fault .unfinished)
    | ']' :: rest => .ok (s, rest)
    | _ => .error (.fault .syntactic)
  | first, key :: keys, s, text => do
    match ← nextItem first text with
    | (false, rest) => .ok (s, rest)
    | (true, rest) =>
      let (s, rest) ← readValue s key rest
      readListed false keys s rest

/-- Reads settings as a value. -/
def readSettings : Reader Settings := fun text =>
  match Json.skipSpace text with
  | '[' :: rest => readListed true Key.values default rest
  | '\x7b' :: rest => readMembers (rest.length + 1) true [] default rest
  | other => .error (unexpected "struct Config" other)

/-- Reads settings as a document. -/
def decode (text : List Char) : Except DecodeError Settings := do
  let (s, rest) ← readSettings text
  match Json.skipSpace rest with
  | [] => .ok s
  | _ => .error (.fault .syntactic)

end Settings
end PackageAudit
