import PackageAudit.Markup.Fault
import PackageAudit.Text.Search
import PackageAudit.Text.Utf8

/-!
# The tokens of a marked-up text

`tokens` cuts a text into runs of characters, tags and other markup, each with the byte offset at which it
begins; the list ends with `finish`, or with the fault at which reading stops. Nothing is decoded and the
content of instructions, comments, character data and document types is dropped.
-/

namespace PackageAudit.Markup

def isSpace (c : Char) : Bool :=
  c == ' ' || c == '\t' || c == '\r' || c == '\n'

/-- A piece of a marked-up text. -/
inductive Token where
  /-- Characters up to the next tag. -/
  | text (chars : List Char)
  /-- A start tag, given what stands between its angle brackets. -/
  | start (content : List Char)
  /-- A tag of an element without content, less its final slash. -/
  | empty (content : List Char)
  /-- An end tag, given its name. -/
  | close (name : List Char)
  /-- An instruction, a declaration, a comment, character data or a document type. -/
  | other
  /-- The end of the text. -/
  | finish
  /-- The place where reading stops. -/
  | broken (fault : Fault)
  deriving DecidableEq, Repr

/-- What stands before the first `>` that is reached in the state `final`, and what follows it; `next` is the state
behind a character. -/
def cutIn {σ : Type} [DecidableEq σ] (final : σ) (next : σ → Char → σ) (state : σ) :
    List Char → Option (List Char × List Char)
  | [] => none
  | c :: rest =>
    if c = '>' ∧ state = final then some ([], rest)
    else (cutIn final next (next state c) rest).map fun (before, after) => (c :: before, after)

/-- The quote that is open behind a character, given the one that is open in front of it. -/
def quoteBehind : Option Char → Char → Option Char
  | none, c => if c = '"' ∨ c = '\'' then some c else none
  | some q, c => if c = q then none else some q

/-- How many `<` are open behind a character, given how many are in front of it. -/
def depthBehind (depth : Nat) (c : Char) : Nat :=
  if c = '<' then depth + 1 else if c = '>' then depth - 1 else depth

/-- What stands before the first `>` outside quotes, and what follows it; `quote` is the open quote. -/
def cutTag (quote : Option Char) : List Char → Option (List Char × List Char) :=
  cutIn none quoteBehind quote

/-- What stands before the first `>` that is not paired with a `<`, and what follows it. -/
def cutBalanced (depth : Nat) : List Char → Option (List Char × List Char) :=
  cutIn 0 depthBehind depth

theorem cutTag_cons (quote : Option Char) (c : Char) (rest : List Char) : cutTag quote (c :: rest)
    = if c = '>' ∧ quote = none then some ([], rest)
      else (cutTag (quoteBehind quote c) rest).map fun (before, after) => (c :: before, after) := rfl

/-- The name in an end tag: its content without the blanks at the end, unless it is nothing but blanks. -/
def closeName (content : List Char) : List Char :=
  match (content.reverse.dropWhile isSpace).reverse with
  | [] => content
  | name => name

/-- Reads a document type after its `<!`; its first word is read in any case. -/
def readDoctype (text : List Char) : Except Fault (List Char) :=
  match cutBalanced 0 text with
  | none => .error .unclosedDoctype
  | some (content, rest) =>
    if (content.take 7).map Char.toUpper = "DOCTYPE".toList then
      if (content.drop 7).all isSpace then .error .missingDoctypeName else .ok rest
    else .error .unclosedDoctype

/-- Reads markup after its `<`: the token and what follows it. -/
def readMarkup (text : List Char) : Except Fault (Token × List Char) :=
  match text with
  | '?' :: '>' :: _ => .error .unclosedInstruction
  | '?' :: rest =>
    match Text.cutFirst "?>".toList rest with
    | some (_, rest) => .ok (.other, rest)
    | none => .error .unclosedInstruction
  | '!' :: '-' :: rest =>
    match rest with
    | '-' :: rest =>
      match Text.cutFirst "-->".toList rest with
      | some (_, rest) => .ok (.other, rest)
      | none => .error .unclosedComment
    | _ => .error .unclosedComment
  | '!' :: '[' :: rest =>
    if "CDATA[".toList.isPrefixOf rest then
      match Text.cutFirst "]]>".toList (rest.drop 6) with
      | some (_, rest) => .ok (.other, rest)
      | none => .error .unclosedCharacterData
    else .error .unclosedCharacterData
  | '!' :: rest =>
    if rest.head? = some 'D' ∨ rest.head? = some 'd' then (readDoctype rest).map fun rest => (.other, rest)
    else .error .unknownMarkup
  | '/' :: rest =>
    match cutTag none rest with
    | some (content, rest) => .ok (.close (closeName content), rest)
    | none => .error .unclosedTag
  | text =>
    match cutTag none text with
    | some (content, rest) =>
      if content.getLast? = some '/' then .ok (.empty content.dropLast, rest)
      else .ok (.start content, rest)
    | none => .error .unclosedTag

/-- Reads the tokens of a text from a byte offset. Every token takes a character, so fuel above the length of
the text is enough. -/
def tokensFrom : Nat → Nat → List Char → List (Nat × Token)
  | 0, _, _ => []
  | _ + 1, offset, [] => [(offset, .finish)]
  | fuel + 1, offset, c :: rest =>
    if c = '<' then
      match readMarkup rest with
      | .error fault => [(offset, .broken fault)]
      | .ok (token, after) =>
        let size := 1 + (Text.Utf8.size rest - Text.Utf8.size after)
        (offset, token) :: tokensFrom fuel (offset + size) after
    else
      let chars := (c :: rest).takeWhile (· ≠ '<')
      (offset, .text chars)
        :: tokensFrom fuel (offset + Text.Utf8.size chars) ((c :: rest).dropWhile (· ≠ '<'))

/-- The tokens of a text with their byte offsets. A byte order mark in front is not part of the text. -/
def tokens (text : List Char) : List (Nat × Token) :=
  let text := match text with
    | '\uFEFF' :: rest => rest
    | text => text
  tokensFrom (text.length + 1) 0 text

end PackageAudit.Markup
