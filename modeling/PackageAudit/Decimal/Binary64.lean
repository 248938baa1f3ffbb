/-!
# Binary numbers of double precision

A finite number of double precision is a significand times a power of two. Ratios of natural numbers are
rounded to the nearest such number, a tie to the even significand; whole arithmetic is exact, so nothing here
depends on the arithmetic of a processor. Signs are kept elsewhere.
-/

namespace PackageAudit

/-- A finite number of double precision without its sign: `significand * 2 ^ exponent`. -/
structure Binary64 where
  significand : Nat
  exponent : Int
  deriving DecidableEq, Repr

namespace Binary64

def leastExponent : Int := -1074

def greatestExponent : Int := 971

def zero : Binary64 := ⟨0, leastExponent⟩

/-- A number as a ratio of natural numbers. -/
def ratio (x : Binary64) : Nat × Nat :=
  (x.significand <<< x.exponent.toNat, 1 <<< (-x.exponent).toNat)

/-- The nearest natural number to a ratio, a tie to the even one. -/
def roundDiv (num den : Nat) : Nat :=
  let quotient := num / den
  let twice := 2 * (num % den)
  if twice < den then quotient
  else if den < twice then quotient + 1
  else quotient + quotient % 2

/-- A ratio divided by a power of two. -/
def shift (num den : Nat) (exponent : Int) : Nat × Nat :=
  (num <<< (-exponent).toNat, den <<< exponent.toNat)

/-- The exponent that leaves a ratio a quotient of 53 bits, or the least one. -/
def exponentFor (num den : Nat) : Int :=
  let guess : Int := (num.log2 : Int) - den.log2 - 52
  let (n, d) := shift num den guess
  max leastExponent (if n / d < 1 <<< 52 then guess - 1 else guess)

/-- The nearest number to a ratio; none where it would be too large. -/
def ofRatio (num den : Nat) : Option Binary64 :=
  if num = 0 then some zero
  else
    let exponent := exponentFor num den
    let (n, d) := shift num den exponent
    let significand := roundDiv n d
    let x : Binary64 :=
      if significand = 1 <<< 53 then ⟨1 <<< 52, exponent + 1⟩ else ⟨significand, exponent⟩
    if x.exponent ≤ greatestExponent then some x else none

/-- The nearest number to a natural number. -/
def ofNat (n : Nat) : Option Binary64 :=
  ofRatio n 1

def mul (x y : Binary64) : Option Binary64 :=
  ofRatio (x.ratio.1 * y.ratio.1) (x.ratio.2 * y.ratio.2)

/-- The nearest number to a quotient. -/
def div (x y : Binary64) : Option Binary64 :=
  ofRatio (x.ratio.1 * y.ratio.2) (x.ratio.2 * y.ratio.1)

/-- The greatest power of ten among the numbers. -/
def greatestPower : Nat := 308

/-- A number times a power of ten, where the power is rounded before it is used. A power too small to be a
number is divided out in two steps. None where the product would be too large. -/
def scaleByTen (x : Binary64) (exponent : Int) : Option Binary64 :=
  if x.significand = 0 then some x
  else if (greatestPower : Int) < exponent then none
  else if 0 ≤ exponent then do x.mul (← ofNat (Nat.pow 10 exponent.toNat))
  else
    let down := (-exponent).toNat
    if down ≤ greatestPower then do x.div (← ofNat (Nat.pow 10 down))
    else if down ≤ 2 * greatestPower then do
      (← x.div (← ofNat (Nat.pow 10 greatestPower))).div (← ofNat (Nat.pow 10 (down - greatestPower)))
    else some zero

/-- The number that a significand with a decimal exponent stands for. -/
def ofDecimal (significand : Nat) (exponent : Int) : Option Binary64 := do
  (← ofNat significand).scaleByTen exponent

end Binary64
end PackageAudit
