/-!
# Digits

Digits write numbers in a base up to sixteen, with letters in either case above nine: those of escapes between quotes,
of character numbers in patterns and of character references in markup.
-/

namespace PackageAudit.Text

/-- The value of a digit in a base up to sixteen. -/
def digitValue? (base : Nat) (c : Char) : Option Nat :=
  let value :=
    if '0' ≤ c && c ≤ '9' then c.toNat - '0'.toNat
    else if 'a' ≤ c && c ≤ 'f' then c.toNat - 'a'.toNat + 10
    else if 'A' ≤ c && c ≤ 'F' then c.toNat - 'A'.toNat + 10
    else base
  if value < base then some value else none

end PackageAudit.Text
