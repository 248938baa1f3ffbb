import PackageAudit.Decimal.Binary64

/-!
# Shortest decimals

The shortest decimal of a binary number has the fewest digits among those that read back as the number, and is
the nearest to it among these. `Binary64.text` writes it: with a point from `10 ^ -5` up to `10 ^ 16`, with an
exponent outside.
-/

namespace PackageAudit

/-- A decimal: `digits * 10 ^ exponent`. -/
structure ShortDecimal where
  digits : Nat
  exponent : Int
  deriving DecidableEq, Repr

namespace ShortDecimal

/-- A decimal without zeros at the end of its digits. -/
def normalize : Nat → ShortDecimal → ShortDecimal
  | 0, d => d
  | fuel + 1, d =>
    if d.digits ≠ 0 ∧ d.digits % 10 = 0 then normalize fuel ⟨d.digits / 10, d.exponent + 1⟩ else d

/-- A decimal as a ratio of natural numbers. -/
def ratio (d : ShortDecimal) : Nat × Nat :=
  (d.digits * Nat.pow 10 d.exponent.toNat, Nat.pow 10 (-d.exponent).toNat)

/-- The digits with a point after the first, or none after a single one. -/
def pointed : List Char → List Char
  | [] => []
  | [c] => [c]
  | c :: rest => c :: '.' :: rest

/-- A decimal as it is written. -/
def text (d : ShortDecimal) : List Char :=
  let digits := (toString d.digits).toList
  let lead : Int := d.exponent + digits.length - 1
  if -5 ≤ lead ∧ lead < 16 then
    if 0 ≤ d.exponent then digits ++ List.replicate d.exponent.toNat '0' ++ ['.', '0']
    else if 0 ≤ lead then digits.take (lead.toNat + 1) ++ '.' :: digits.drop (lead.toNat + 1)
    else ['0', '.'] ++ List.replicate ((-lead).toNat - 1) '0' ++ digits
  else pointed digits ++ ['e', if lead < 0 then '-' else '+'] ++ (toString lead.natAbs).toList

end ShortDecimal

namespace Binary64

/-- Whether a ratio is less than another. -/
def ratioLt (a b : Nat × Nat) : Bool :=
  a.1 * b.2 < b.1 * a.2

/-- The ends of the interval of ratios that round to a number. -/
def interval (x : Binary64) : (Nat × Nat) × (Nat × Nat) :=
  let (num, den) := shift 1 1 (-x.exponent)
  let below := if x.significand = 1 <<< 52 ∧ leastExponent < x.exponent then 1 else 2
  (((4 * x.significand - below) * num, 4 * den), ((4 * x.significand + 2) * num, 4 * den))

/-- Whether a decimal reads back as a number; the ends of the interval do where the significand is even. -/
def readsBack (x : Binary64) (d : ShortDecimal) : Bool :=
  let (low, high) := x.interval
  if x.significand % 2 = 0 then !ratioLt d.ratio low && !ratioLt high d.ratio
  else ratioLt low d.ratio && ratioLt d.ratio high

/-- The decimals next to a number, below and above, whose digits count multiples of `10 ^ exponent`. -/
def neighbours (x : Binary64) (exponent : Int) : ShortDecimal × ShortDecimal :=
  let (num, den) := x.ratio
  let quotient := num * Nat.pow 10 (-exponent).toNat / (den * Nat.pow 10 exponent.toNat)
  (⟨quotient, exponent⟩, ⟨quotient + 1, exponent⟩)

/-- The better of the neighbours with an exponent that read back: the nearer one, of equally near ones that
with the even last digit. -/
def bestNeighbour? (x : Binary64) (exponent : Int) : Option ShortDecimal :=
  let (below, above) := x.neighbours exponent
  match x.readsBack below, x.readsBack above with
  | false, false => none
  | true, false => some below
  | false, true => some above
  | true, true =>
    let (num, den) := x.ratio
    let (n, d) := below.ratio
    let (n', d') := above.ratio
    let middle := (n * d' + n' * d, 2 * d * d')
    if ratioLt (num, den) middle then some below
    else if ratioLt middle (num, den) then some above
    else some (if below.digits % 2 = 0 then below else above)

/-- The exponent of the first decimal digit of a number, from a first guess that is not too large. -/
def leadingExponent (x : Binary64) : Nat → Int → Int
  | 0, guess => guess
  | fuel + 1, guess =>
    let next : ShortDecimal := ⟨1, guess + 1⟩
    if ratioLt x.ratio next.ratio then guess else leadingExponent x fuel (guess + 1)

/-- The shortest decimal of a number. Seventeen digits always read back. -/
def shortest (x : Binary64) : ShortDecimal :=
  if x.significand = 0 then ⟨0, 0⟩
  else
    let lead := x.leadingExponent 700 (-330)
    match (List.range 17).findSome? fun (count : Nat) => x.bestNeighbour? (lead - (count : Int)) with
    | some d => d.normalize 20
    | none => ⟨0, 0⟩

def text (x : Binary64) : List Char :=
  x.shortest.text

end Binary64
end PackageAudit
