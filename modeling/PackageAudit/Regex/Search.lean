import PackageAudit.Regex.Basic

/-!
# The first match and its groups

`Regex.ways` lists every way in which an expression can match from a position, best first: an alternative
before the later ones, more repetitions before fewer where a repetition is greedy. The first match of a text
is the best way from the leftmost position that has one.
-/

namespace PackageAudit

/-- One way to match: where it stops, and the spans of the groups on it, each with its index. -/
structure Way where
  stop : Nat
  groups : List (Nat × Nat × Nat)
  deriving DecidableEq, Repr

/-- All ways to repeat a step from a position, best first. A repetition beyond the least number has to move
forward, so `fuel` above the least number and the length of the text never runs out. -/
def repeatWays (step : Nat → List Way) (greedy : Bool) : Nat → Nat → Option Nat → Nat → List Way
  | 0, _, _, _ => []
  | fuel + 1, min, max, position =>
    if max = some 0 then [⟨position, []⟩]
    else
      let further (w : Way) : List Way :=
        (repeatWays step greedy fuel (min - 1) (max.map (· - 1)) w.stop).map fun v =>
          ⟨v.stop, w.groups ++ v.groups⟩
      if min = 0 then
        let more := (step position).flatMap fun w => if w.stop = position then [] else further w
        if greedy then more ++ [⟨position, []⟩] else ⟨position, []⟩ :: more
      else (step position).flatMap further

namespace Regex

/-- All ways in which an expression matches a text from a position, best first. -/
def ways (text : Array Char) : Regex → Nat → List Way
  | .empty, position => [⟨position, []⟩]
  | .char among, position =>
    match text[position]? with
    | some c => if among.contains c then [⟨position + 1, []⟩] else []
    | none => []
  | .look a, position =>
    let before := if position = 0 then none else text[position - 1]?
    if a.holds before text[position]? then [⟨position, []⟩] else []
  | .seq a b, position =>
    (ways text a position).flatMap fun w =>
      (ways text b w.stop).map fun v => ⟨v.stop, w.groups ++ v.groups⟩
  | .alt a b, position => ways text a position ++ ways text b position
  | .rep r min max greedy, position =>
    repeatWays (ways text r) greedy (min + text.size + 2) min max position
  | .group index r, position =>
    (ways text r position).map fun w => ⟨w.stop, w.groups ++ [(index, position, w.stop)]⟩

/-- The text of the group with an index in the first match, if there is a match and the group is on it. -/
def firstGroup? (r : Regex) (index : Nat) (text : List Char) : Option (List Char) := do
  let chars := text.toArray
  let way ← (List.range (text.length + 1)).findSome? fun position => (r.ways chars position).head?
  let (_, start, stop) ← way.groups.find? fun group => group.1 = index
  some ((text.drop start).take (stop - start))

end Regex
end PackageAudit
