import PackageAudit.Regex.Basic

/-!
# Matching

A set of positions of a text is a number whose bit `i` says whether position `i` belongs to it. A regular
expression is first specialised to a text: `Plan` keeps its shape, with each character class replaced by the
set of positions that hold a member and each assertion by the set of positions where it is true. Running a
plan takes the set of positions where a match may begin to the set of those where it may end, so the time is
bounded by the size of the expression and the length of the text, however the repetitions nest.
`Regex.isMatch` begins at every position: a match may stand anywhere.
-/

namespace PackageAudit

/-- The set of positions at which a list of truths is true. -/
def positionsWhere : List Bool → Nat
  | [] => 0
  | b :: rest => 2 * positionsWhere rest + b.toNat

/-- The characters on both sides of every position of a text, where `before` stands in front of it. -/
def neighbours (before : Option Char) : List Char → List (Option Char × Option Char)
  | [] => [(before, none)]
  | c :: rest => (before, some c) :: neighbours (some c) rest

/-- The set of all positions of a text of the given length. -/
def allPositions (length : Nat) : Nat :=
  1 <<< (length + 1) - 1

/-- The positions reached from a set in at most `fuel` further steps. -/
def reachable (step : Nat → Nat) : Nat → Nat → Nat
  | 0, set => set
  | fuel + 1, set =>
    let more := set ||| step set
    if more = set then set else reachable step fuel more

/-- The positions reached from a set in exactly `count` steps. -/
def stepTimes (step : Nat → Nat) : Nat → Nat → Nat
  | 0, set => set
  | count + 1, set =>
    let next := step set
    if next = set then set else stepTimes step count next

/-- A regular expression specialised to one text. -/
inductive Plan where
  /-- Stay at those positions. -/
  | stay (allowed : Nat)
  /-- Move over the character at one of those positions. -/
  | move (crossed : Nat)
  | seq (a b : Plan)
  | alt (a b : Plan)
  | rep (p : Plan) (min : Nat) (max : Option Nat)

namespace Plan

/-- The positions at which a match may end that begins at one of `set`; no text is longer than `length`. -/
def run (length : Nat) : Plan → Nat → Nat
  | .stay allowed, set => set &&& allowed
  | .move crossed, set => (set &&& crossed) <<< 1
  | .seq a b, set => b.run length (a.run length set)
  | .alt a b, set => a.run length set ||| b.run length set
  | .rep p min max, set =>
    let enough := stepTimes (p.run length) min set
    match max with
    | none => reachable (p.run length) (length + 1) enough
    | some max => reachable (p.run length) (max - min) enough

end Plan

namespace Regex

/-- The plan of an expression for one text. -/
def plan (text : List Char) : Regex → Plan
  | .empty => .stay (allPositions text.length)
  | .char among => .move (positionsWhere (text.map among.contains))
  | .look a => .stay (positionsWhere ((neighbours none text).map fun (before, after) => a.holds before after))
  | .seq a b => .seq (plan text a) (plan text b)
  | .alt a b => .alt (plan text a) (plan text b)
  | .rep r min max _ => .rep (plan text r) min max
  | .group _ r => plan text r

/-- Whether the expression matches somewhere in the text. -/
def isMatch (r : Regex) (text : List Char) : Bool :=
  (r.plan text).run text.length (allPositions text.length) != 0

end Regex
end PackageAudit
