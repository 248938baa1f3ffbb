/-!
# Faults of markup

Everything that can be wrong with a marked-up text, and the message for each. Positions in the messages count
bytes from the start of the tag, ranges count bytes of the attribute's value.
-/

namespace PackageAudit.Markup

/-- Why a character reference names no character. -/
inductive CharRefFault where
  | sign
  | empty
  | notADigit
  | tooLarge
  | zero
  | notACharacter (number : Nat)
  deriving DecidableEq, Repr

namespace CharRefFault

/-- The message for a character reference. -/
def message : CharRefFault → String
  | .sign => "unexpected number sign"
  | .empty => "cannot parse integer from empty string"
  | .notADigit => "invalid digit found in string"
  | .tooLarge => "number too large to fit in target type"
  | .zero => "0x0 character is not permitted in XML"
  | .notACharacter number => "\x60" ++ toString number ++ "\x60 is not a valid codepoint"

end CharRefFault

/-- What is wrong with a marked-up text. -/
inductive Fault where
  | unclosedInstruction
  | unclosedCharacterData
  | unclosedComment
  | unclosedDoctype
  | unclosedTag
  | unknownMarkup
  | missingDoctypeName
  | mismatchedEnd (expected found : String)
  | unmatchedEnd (found : String)
  | unclosedElement (name : String)
  | expectedEquals (position : Nat)
  | expectedValue (position : Nat)
  | unquotedValue (position : Nat)
  | unclosedValue (position : Nat) (quote : Char)
  | duplicatedAttribute (position previous : Nat)
  | unknownEntity (start stop : Nat) (name : String)
  | unclosedEntity (start stop : Nat)
  | badCharacter (cause : CharRefFault)
  deriving DecidableEq, Repr

namespace Fault

/-- The message for a fault of syntax: what was not found before the text ended. -/
def notFound (what mark : String) : String :=
  "syntax error: " ++ what ++ " not closed: \x60" ++ mark ++ "\x60 not found before end of input"

/-- The message for a fault. -/
def message : Fault → String
  | .unclosedInstruction => notFound "processing instruction or xml declaration" "?>"
  | .unclosedCharacterData => notFound "CDATA" "]]>"
  | .unclosedComment => notFound "comment" "-->"
  | .unclosedDoctype => notFound "DOCTYPE" ">"
  | .unclosedTag => notFound "tag" ">"
  | .unknownMarkup => "syntax error: unknown or missed symbol in markup"
  | .missingDoctypeName =>
    "ill-formed document: \x60<!DOCTYPE>\x60 declaration does not contain a name of a document type"
  | .mismatchedEnd expected found =>
    "ill-formed document: expected \x60</" ++ expected ++ ">\x60, but \x60</" ++ found ++ ">\x60 was found"
  | .unmatchedEnd found =>
    "ill-formed document: close tag \x60</" ++ found ++ ">\x60 does not match any open tag"
  | .unclosedElement name => "unclosed element <" ++ name ++ ">"
  | .expectedEquals position =>
    "position " ++ toString position ++ ": attribute key must be directly followed by \x60=\x60 or space"
  | .expectedValue position =>
    "position " ++ toString position ++ ": \x60=\x60 must be followed by an attribute value"
  | .unquotedValue position =>
    "position " ++ toString position ++ ": attribute value must be enclosed in \x60\"\x60 or \x60'\x60"
  | .unclosedValue position quote =>
    "position " ++ toString position ++ ": missing closing quote \x60" ++ quote.toString
      ++ "\x60 in attribute value"
  | .duplicatedAttribute position previous =>
    "position " ++ toString position ++ ": duplicated attribute, previous declaration at position "
      ++ toString previous
  | .unknownEntity start stop name =>
    "at " ++ toString start ++ ".." ++ toString stop ++ ": unrecognized entity \x60" ++ name ++ "\x60"
  | .unclosedEntity start stop =>
    "Error while escaping character at range " ++ toString start ++ ".." ++ toString stop
      ++ ": Cannot find ';' after '&'"
  | .badCharacter cause => "invalid character reference: " ++ cause.message

end Fault
end PackageAudit.Markup
