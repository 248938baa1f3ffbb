import PackageAudit.Unicode.Binary
import PackageAudit.Unicode.Category

/-!
# Texts in messages

A message quotes a text so that every character can be seen: quotes, backslashes and the common control
characters are escaped by a letter, and whatever has no shape of its own by its number.
-/

namespace PackageAudit.Text

/-- Whether a character has a shape of its own. -/
def isVisible (c : Char) : Bool :=
  c == ' ' ||
    match Unicode.Category.of c with
    | .control | .format | .surrogate | .privateUse | .unassigned | .lineSeparator | .paragraphSeparator
    | .spaceSeparator => false
    | _ => !Unicode.Binary.isGraphemeExtend c

/-- A character as it stands in a quoted text. -/
def showChar (c : Char) : List Char :=
  match c with
  | '"' => ['\\', '"']
  | '\\' => ['\\', '\\']
  | '\t' => ['\\', 't']
  | '\n' => ['\\', 'n']
  | '\r' => ['\\', 'r']
  | '\x00' => ['\\', '0']
  | c => if isVisible c then [c] else ['\\', 'u', '\x7b'] ++ Nat.toDigits 16 c.toNat ++ ['\x7d']

/-- A text in quotes, with its characters made visible. -/
def shown (text : String) : String :=
  "\"" ++ String.ofList (text.toList.flatMap showChar) ++ "\""

end PackageAudit.Text
