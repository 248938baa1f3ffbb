/-!
# Sets and partitions of the code points

`Intervals` is a set of code points as ascending, disjoint intervals, and `Runs` a partition of all code
points into runs of one value. Both are looked up by bisection and are read from a compact notation in which
the tables of this folder are written: `9-D 20 85` for intervals, `Cc20 Zs1 Po3` (a value, then the length of
its run) for runs, all numbers hexadecimal.
-/

namespace PackageAudit.Unicode

/-- The value of a hexadecimal digit in capitals. -/
def hexDigit (c : Char) : Nat :=
  if c ≤ '9' then c.toNat - '0'.toNat else c.toNat - 'A'.toNat + 10

/-- The value of a hexadecimal number in capitals. -/
def hexNumber (digits : List Char) : Nat :=
  digits.foldl (fun n c => n * 16 + hexDigit c) 0

/-- The words of a table: what stands between blanks and line breaks. -/
def words (text : String) : List (List Char) :=
  (text.toList.splitOnP fun c => c == ' ' || c == '\n').filter (· ≠ [])

/-- A set of code points: ascending, disjoint intervals, both ends included. -/
structure Intervals where
  bounds : Array (Nat × Nat)

namespace Intervals

/-- Reads the notation `9-D 20 85`. -/
def read (text : String) : Intervals :=
  ⟨(words text).map (fun word =>
    match word.span (· ≠ '-') with
    | (first, _ :: last) => (hexNumber first, hexNumber last)
    | (only, []) => (hexNumber only, hexNumber only)) |>.toArray⟩

/-- Whether a code point lies in one of the intervals with index in `[low, high)`. -/
def searchFrom (t : Intervals) (n : Nat) (low high : Nat) : Bool :=
  if low < high then
    let middle := (low + high) / 2
    match t.bounds[middle]? with
    | none => false
    | some (first, last) =>
      if n < first then searchFrom t n low middle
      else if last < n then searchFrom t n (middle + 1) high
      else true
  else false
termination_by high - low

/-- Whether a code point is in the set. -/
def contains (t : Intervals) (n : Nat) : Bool :=
  t.searchFrom n 0 t.bounds.size

end Intervals

/-- A partition of the code points: where each run begins, and its value. -/
structure Runs (α : Type) where
  starts : Array (Nat × α)

namespace Runs

variable {α : Type}

/-- Reads the notation `Cc20 Zs1 Po3`, in which a value is a code of `width` letters. -/
def read (width : Nat) (value : List Char → α) (text : String) : Runs α :=
  ⟨((words text).foldl (fun (starts, next) word =>
    (starts.push (next, value (word.take width)), next + hexNumber (word.drop width))) (#[], 0)).1⟩

/-- The value of the last run that begins at or before a code point, among those with index in
`[low, high)`; `best` where there is none. -/
def searchFrom (t : Runs α) (n : Nat) (low high : Nat) (best : Option α) : Option α :=
  if low < high then
    let middle := (low + high) / 2
    match t.starts[middle]? with
    | none => best
    | some (start, value) =>
      if n < start then searchFrom t n low middle best
      else searchFrom t n (middle + 1) high (some value)
  else best
termination_by high - low

def get? (t : Runs α) (n : Nat) : Option α :=
  t.searchFrom n 0 t.starts.size none

end Runs
end PackageAudit.Unicode
