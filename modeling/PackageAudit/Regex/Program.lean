import PackageAudit.Regex.Basic

/-!
# The size of programs

A regular expression is run by a program that reads bytes. This module counts the bytes that the states of the
program take, without making the program: `Program.size` adds them up over the expression, and `Program.fits`
compares the sum with a limit. A class beyond ASCII is a tree over the UTF-8 encodings of its members
(`sequences`), read from the first byte, so encodings share the states of a common beginning.
-/

namespace PackageAudit.Program

def stateSize : Nat := 32

/-- The bytes that each way out of a state with several takes. -/
def choiceSize : Nat := 4

/-- The bytes that each range of a state for a class of ASCII takes. -/
def rangeSize : Nat := 8

/-! ## Classes -/

/-- The ascending ranges of the numbers below a bound with a property, in front of those already found. -/
def rangesBelow (holds : Nat → Bool) : Nat → List (Nat × Nat) → List (Nat × Nat)
  | 0, found => found
  | n + 1, found =>
    if holds n then
      match found with
      | (first, last) :: rest =>
        if first = n + 1 then rangesBelow holds n ((n, last) :: rest)
        else rangesBelow holds n ((n, n) :: (first, last) :: rest)
      | [] => rangesBelow holds n [(n, n)]
    else rangesBelow holds n found

/-- The ranges of code points in a class. -/
def ranges (c : CharClass) : List (Nat × Nat) :=
  rangesBelow (fun n => n.isValidChar && c.contains (Char.ofNat n)) 0x110000 []

/-- The last code point of the first part, where the code points from `first` to `last` have to be cut: their
encodings differ in length, or the first or the last of them does not fill its continuation bytes. -/
def cut? (first last : Nat) : Option Nat :=
  match [0x7F, 0x7FF, 0xFFFF].find? fun longest => first ≤ longest && longest < last with
  | some longest => some longest
  | none =>
    if last ≤ 0x7F then none
    else [64, 64 * 64, 64 * 64 * 64].findSome? fun block =>
      if first / block = last / block then none
      else if first % block ≠ 0 then some ((first / block + 1) * block - 1)
      else if last % block ≠ block - 1 then some (last / block * block - 1)
      else none

def bytes (n : Nat) : List UInt8 :=
  String.utf8EncodeChar (Char.ofNat n)

/-- The encodings of the code points from `first` to `last`, as sequences of ranges of bytes. -/
def sequences (first last : Nat) : List (List (UInt8 × UInt8)) :=
  match cut? first last with
  | some n =>
    if first ≤ n ∧ n < last then sequences first n ++ sequences (n + 1) last
    else [(bytes first).zip (bytes last)]
  | none => [(bytes first).zip (bytes last)]
termination_by last - first

/-- The length of the common beginning of two lists. -/
def sharedLength {α : Type} [DecidableEq α] : List α → List α → Nat
  | a :: as, b :: bs => if a = b then sharedLength as bs + 1 else 0
  | _, _ => 0

/-- The states of the tree over sequences; each shares those of its beginning with the sequence before it. -/
def treeStates (before : List (UInt8 × UInt8)) : List (List (UInt8 × UInt8)) → Nat
  | [] => 0
  | s :: rest => s.length - sharedLength before s + treeStates s rest

/-- The bytes that the states of ranges of code points take. A single one is a chain of states, and ranges of
ASCII are one state with its end; otherwise there are the tree, the choice among its branches and its end. -/
def rangesSize (ranges : List (Nat × Nat)) : Nat :=
  let listed := 2 * stateSize + rangeSize * ranges.length
  match ranges with
  | [(first, last)] =>
    if first = last then stateSize * (bytes first).length
    else if last < 0x80 then listed
    else treeSize (sequences first last)
  | ranges => if ranges.all (·.2 < 0x80) then listed else treeSize (ranges.flatMap fun r => sequences r.1 r.2)
where
  /-- The bytes that a tree takes. -/
  treeSize (sequences : List (List (UInt8 × UInt8))) : Nat :=
    stateSize * (treeStates [] sequences + 2) + choiceSize * sequences.length

def classSize (c : CharClass) : Nat :=
  rangesSize (ranges c)

/-- Whether a class is written with characters of ASCII only. -/
def isAscii : CharClass → Bool
  | .none => true
  | .range _ last => last.toNat < 0x80
  | .union a b | .inter a b => isAscii a && isAscii b
  | .diff a _ => isAscii a
  | _ => false

/-- An estimate from above of the bytes that a class takes, without a look at its members. -/
def classBound : CharClass → Nat
  | .none => 2 * stateSize
  | .range first last =>
    if first = last then stateSize * first.utf8Size
    else if last.toNat < 0x80 then 2 * stateSize + rangeSize
    else 2000
  | .satisfying _ => 100000
  | .union a b | .inter a b | .diff a b | .symmDiff a b => classBound a + classBound b
  | .compl a => 2000 + classBound a
  | .anyCase (.range first last) => if first = last ∨ last.toNat < 0x80 then 500 else 100000
  | .anyCase a => 2 * classBound a + if isAscii a then 500 else 100000
  | .anyCaseAscii a => 2 * classBound a

/-! ## Expressions -/

/-- The class that an expression of one character stands for. -/
def classOf? : Regex → Option CharClass
  | .char c => some c
  | .alt a b =>
    match classOf? a, classOf? b with
    | some a, some b => some (.union a b)
    | _, _ => none
  | _ => none

/-- Whether an expression matches the empty text. -/
def admitsEmpty : Regex → Bool
  | .empty | .look _ => true
  | .char _ => false
  | .seq a b => admitsEmpty a && admitsEmpty b
  | .alt a b => admitsEmpty a || admitsEmpty b
  | .rep r min _ _ => min = 0 || admitsEmpty r
  | .group _ r => admitsEmpty r

/-- Whether an expression matches no text but the empty one. -/
def admitsEmptyOnly : Regex → Bool
  | .empty | .look _ => true
  | .char _ => false
  | .seq a b | .alt a b => admitsEmptyOnly a && admitsEmptyOnly b
  | .rep r _ max _ => max = some 0 || admitsEmptyOnly r
  | .group _ r => admitsEmptyOnly r

/-- The bytes that the states of an expression take, given those of classes. An alternative of a group of
alternatives, as `alternative` says, shares the states that begin and end the group. -/
def size (ofClass : CharClass → Nat) (alternative : Bool) : Regex → Nat
  | .empty | .look _ => stateSize + shareOf alternative
  | .char c => ofClass c + shareOf alternative
  | .seq a b => size ofClass false a + size ofClass false b + shareOf alternative
  | .alt a b =>
    match classOf? (.alt a b) with
    | some c => ofClass c + shareOf alternative
    | none =>
      size ofClass true a + size ofClass true b + if alternative then 0 else 2 * stateSize
  | .group _ r => size ofClass false r + 2 * stateSize + shareOf alternative
  | .rep r min max _ =>
    let once := size ofClass false r
    let optional := once + stateSize + 2 * choiceSize
    let (min, max) :=
      if admitsEmptyOnly r then (Nat.min min 1, some ((max.map (Nat.min · 1)).getD 1)) else (min, max)
    (match min, max with
    | 0, some 0 => stateSize
    | min, some max => min * once + if min = max then 0 else stateSize + (max - min) * optional
    | 0, none => if admitsEmpty r then once + 3 * stateSize + 4 * choiceSize else optional
    | min, none => min * once + stateSize + 2 * choiceSize) + shareOf alternative
where
  /-- The bytes for the way into an alternative. -/
  shareOf (alternative : Bool) : Nat := if alternative then choiceSize else 0

/-- Whether the program for an expression takes at most `limit` bytes. The members of classes are looked at
only if the estimate is above the limit. -/
def fits (limit : Nat) (r : Regex) : Bool :=
  size classBound false r ≤ limit || size classSize false r ≤ limit

end PackageAudit.Program
