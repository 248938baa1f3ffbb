import Mathlib.Data.List.Basic
import PackageAudit.Proofs.Text.Search
import PackageAudit.Regex.Search

/-!
# What is captured between a literal text and a mark

A literal text matches where it stands, in one way (`ways_literal`). Dots match up to any later position, the farthest
one first (`ways_dots`). So an expression of a literal text, a group of dots and a mark matches at the first occurrence
of the text that has a mark behind it, and the group is what stands between that occurrence and the last mark.

How expressions in a row are put together makes no difference to the ways in which they match (`ways_seq_assoc`,
`ways_concat_append`), nor to what is captured (`firstGroup?_congr`).

Main statement: `firstGroup?_between`, for texts without line feeds.
-/

namespace PackageAudit.Regex

variable {text : List Char} {p : Nat}

/-! ## Ways of the parts -/

theorem ways_seq (a b : Regex) (chars : Array Char) (p : Nat) : (Regex.seq a b).ways chars p
    = (a.ways chars p).flatMap fun w => (b.ways chars w.stop).map fun v => ⟨v.stop, w.groups ++ v.groups⟩ := rfl

theorem ways_char (among : CharClass) (text : List Char) (p : Nat) : (Regex.char among).ways text.toArray p
    = match text.drop p with
      | [] => []
      | c :: _ => if among.contains c then [⟨p + 1, []⟩] else [] := by
  have here : text.toArray[p]? = (text.drop p).head? := by simp
  rw [ways, here]
  cases text.drop p <;> rfl

theorem ways_single (c : Char) (text : List Char) (p : Nat) : (Regex.char (.single c)).ways text.toArray p
    = if text[p]? = some c then [⟨p + 1, []⟩] else [] := by
  rw [ways_char, ← List.head?_drop]
  cases text.drop p <;> simp

/-- **A literal text** matches where it stands, in one way. -/
theorem ways_concat_chars (literal text : List Char) (p : Nat) :
    (concat (literal.map fun c => .char (.single c))).ways text.toArray p
      = if literal.isPrefixOf (text.drop p) then [⟨p + literal.length, []⟩] else [] := by
  induction literal generalizing p with
  | nil => simp [concat, ways]
  | cons c literal ih =>
    have both : (concat ((c :: literal).map fun c => .char (.single c))).ways text.toArray p
        = ((Regex.char (.single c)).ways text.toArray p).flatMap fun w =>
          ((concat (literal.map fun c => .char (.single c))).ways text.toArray w.stop).map fun v =>
            ⟨v.stop, w.groups ++ v.groups⟩ := by
      cases literal with
      | nil =>
        show (Regex.char (.single c)).ways text.toArray p = _
        rw [ways_single]
        split <;> rfl
      | cons d literal => rfl
    rw [both, ways_single, ← List.head?_drop]
    have rest : text.drop (p + 1) = (text.drop p).tail := by simp
    cases hd : text.drop p with
    | nil => simp
    | cons d more =>
      rw [hd] at rest
      by_cases h : c = d
      · subst h
        simp only [List.head?_cons, if_true, List.flatMap_singleton, ih, rest, List.tail_cons, List.isPrefixOf,
          beq_self_eq_true, Bool.true_and]
        split <;> simp [Nat.add_comm, Nat.add_left_comm]
      · simp [h, Ne.symm h, List.isPrefixOf]

theorem ways_literal (literal : String) (text : List Char) (p : Nat) : (Regex.literal literal).ways text.toArray p
    = if literal.toList.isPrefixOf (text.drop p) then [⟨p + literal.toList.length, []⟩] else [] :=
  ways_concat_chars literal.toList text p

theorem ways_dot (h : '\n' ∉ text) (p : Nat) :
    Regex.dot.ways text.toArray p = if p < text.length then [⟨p + 1, []⟩] else [] := by
  rw [dot, ways_char]
  by_cases hp : p < text.length
  · have other : text[p] ≠ '\n' := fun same => h (same ▸ List.getElem_mem hp)
    rw [List.drop_eq_getElem_cons hp, if_pos hp]
    simp [other]
  · rw [List.drop_eq_nil_of_le (Nat.not_lt.mp hp), if_neg hp]

/-- **Dots** match up to any later position, the farthest one first. -/
theorem ways_dots (h : '\n' ∉ text) {fuel : Nat} (hp : p ≤ text.length) (hf : text.length < p + fuel) :
    repeatWays (Regex.dot.ways text.toArray) true fuel 0 none p
      = (List.range' p (text.length - p + 1)).reverse.map fun stop => ⟨stop, []⟩ := by
  induction fuel generalizing p with
  | zero => omega
  | succ fuel ih =>
    have unfolded : repeatWays (Regex.dot.ways text.toArray) true (fuel + 1) 0 none p
        = ((Regex.dot.ways text.toArray p).flatMap fun w => if w.stop = p then [] else
            (repeatWays (Regex.dot.ways text.toArray) true fuel 0 none w.stop).map fun v =>
              ⟨v.stop, w.groups ++ v.groups⟩) ++ [⟨p, []⟩] := rfl
    rw [unfolded, ways_dot h]
    rcases Nat.lt_or_eq_of_le hp with hlt | rfl
    · have length : text.length - p = text.length - (p + 1) + 1 := by omega
      rw [if_pos hlt, length, List.range'_succ, List.reverse_cons, List.map_append]
      simp [ih hlt (by omega)]
    · simp

/-! ## The group -/

/-- The farthest position at which a mark stands is that of the last mark. -/
theorem findSome?_mark (mark : Char) (hp : p ≤ text.length) :
    ((List.range' p (text.length - p + 1)).reverse.findSome? fun stop =>
        if text[stop]? = some mark then some stop else none)
      = (Text.cutLast mark (text.drop p)).map fun cut => p + cut.1.length := by
  induction hn : text.length - p generalizing p with
  | zero =>
    obtain rfl : p = text.length := by omega
    simp [Text.cutLast]
  | succ k ih =>
    have hlt : p < text.length := by omega
    rw [List.range'_succ, List.reverse_cons, List.findSome?_append, ih hlt (by omega),
      List.drop_eq_getElem_cons hlt, Text.cutLast]
    cases Text.cutLast mark (text.drop (p + 1)) with
    | some cut => simp [Nat.add_assoc, Nat.add_comm 1]
    | none => by_cases hm : text[p] = mark <;> simp [hlt, hm]

/-- A literal text, a group of dots, and a mark. -/
def between (literal : String) (mark : Char) : Regex :=
  .concat [.literal literal, .group 1 (.many .dot), .char (.single mark)]

/-- **The best way from a position**: the literal text stands there, and the group ends at the last mark behind it. -/
theorem head?_ways_between {literal : String} {mark : Char} (h : '\n' ∉ text) (hp : p ≤ text.length) :
    ((between literal mark).ways text.toArray p).head?
      = if literal.toList.isPrefixOf (text.drop p) then
          (Text.cutLast mark (text.drop (p + literal.toList.length))).map fun cut =>
            ⟨p + literal.toList.length + cut.1.length + 1,
              [(1, p + literal.toList.length, p + literal.toList.length + cut.1.length)]⟩
        else none := by
  show ((Regex.seq (.literal literal) (.seq (.group 1 (.many .dot)) (.char (.single mark)))).ways
    text.toArray p).head? = _
  rw [ways_seq, ways_literal]
  split
  case isFalse => rfl
  case isTrue found =>
    have inside : p + literal.toList.length ≤ text.length := by
      have := (List.isPrefixOf_iff_prefix.mp found).length_le
      rw [List.length_drop] at this
      omega
    generalize p + literal.toList.length = start at inside ⊢
    have dots : (Regex.many .dot).ways text.toArray start
        = (List.range' start (text.length - start + 1)).reverse.map fun stop => ⟨stop, []⟩ :=
      ways_dots h inside (by simp; omega)
    have group : (Regex.group 1 (.many .dot)).ways text.toArray start
        = (List.range' start (text.length - start + 1)).reverse.map fun stop => ⟨stop, [(1, start, stop)]⟩ := by
      rw [ways, dots, List.map_map]
      rfl
    have best : ((Regex.seq (.group 1 (.many .dot)) (.char (.single mark))).ways text.toArray start).head?
        = ((List.range' start (text.length - start + 1)).reverse.findSome? fun stop =>
            if text[stop]? = some mark then some stop else none).map fun stop => ⟨stop + 1, [(1, start, stop)]⟩ := by
      rw [ways_seq, group, List.flatMap_map, List.head?_flatMap, List.map_findSome?]
      refine congrArg (List.findSome? · _) (funext fun stop => ?_)
      rw [ways_single]
      split <;> simp [*]
    rw [List.flatMap_singleton, List.head?_map, best, findSome?_mark mark inside, Option.map_map, Option.map_map]
    rfl

theorem head?_ways_between_eq_none {literal : String} {mark : Char} (h : '\n' ∉ text) (hp : p ≤ text.length)
    (none_behind : mark ∉ text.drop (p + literal.toList.length)) :
    ((between literal mark).ways text.toArray p).head? = none := by
  rw [head?_ways_between h hp, Text.cutLast_eq_none_iff.mpr none_behind]
  simp

/-- **The first match** from a position on is at the first occurrence of the literal text, if there is a mark behind
that, and else there is none. -/
theorem findSome?_ways_between {literal : String} {mark : Char} (h : '\n' ∉ text) (hp : p ≤ text.length) :
    ((List.range' p (text.length - p + 1)).findSome? fun p => ((between literal mark).ways text.toArray p).head?)
      = (Text.cutFirst literal.toList (text.drop p)).bind fun found => (Text.cutLast mark found.2).map fun cut =>
          ⟨p + found.1.length + literal.toList.length + cut.1.length + 1,
            [(1, p + found.1.length + literal.toList.length,
              p + found.1.length + literal.toList.length + cut.1.length)]⟩ := by
  induction hn : text.length - p generalizing p with
  | zero =>
    obtain rfl : p = text.length := by omega
    rw [List.range'_one, List.findSome?_singleton, head?_ways_between h hp, List.drop_length]
    split
    case isTrue found =>
      have behind : text.drop (text.length + literal.toList.length) = [] := List.drop_eq_nil_of_le (by omega)
      rw [Text.cutFirst_of_isPrefixOf found, behind]
      simp [Text.cutLast]
    case isFalse missing => simp [Text.cutFirst, missing]
  | succ k ih =>
    have hlt : p < text.length := by omega
    rw [List.range'_succ, List.findSome?_cons, head?_ways_between h hp]
    by_cases found : literal.toList.isPrefixOf (text.drop p) = true
    · rw [if_pos found, Text.cutFirst_of_isPrefixOf found, List.drop_drop]
      cases hcut : Text.cutLast mark (text.drop (p + literal.toList.length)) with
      | some cut => simp [hcut]
      | none =>
        -- behind a later occurrence there is no mark, either
        have later : ((List.range' (p + 1) (k + 1)).findSome? fun q =>
            ((between literal mark).ways text.toArray q).head?) = none := by
          refine List.findSome?_eq_none_iff.mpr fun q hq => ?_
          obtain ⟨hlow, hhigh⟩ := List.mem_range'_1.mp hq
          refine head?_ways_between_eq_none h (by omega) fun behind => ?_
          refine Text.cutLast_eq_none_iff.mp hcut ?_
          have further : text.drop (q + literal.toList.length)
              = (text.drop (p + literal.toList.length)).drop (q - p) := by
            rw [List.drop_drop]
            congr 1
            omega
          rw [further] at behind
          exact List.mem_of_mem_drop behind
        simp [later, hcut]
    · rw [if_neg found, ih hlt (by omega), List.drop_eq_getElem_cons hlt]
      rw [List.drop_eq_getElem_cons hlt] at found
      rw [Text.cutFirst_cons found]
      cases Text.cutFirst literal.toList (text.drop (p + 1)) with
      | none => rfl
      | some found => simp [Nat.add_assoc, Nat.add_comm 1]

/-- **What is captured** between a literal text and a mark: what stands between the first occurrence of the literal text
and the last mark behind that, in a text without line feeds. -/
theorem firstGroup?_between {literal : String} {mark : Char} (h : '\n' ∉ text) :
    (between literal mark).firstGroup? 1 text
      = (Text.cutFirst literal.toList text).bind fun found => (Text.cutLast mark found.2).map (·.1) := by
  have first := @findSome?_ways_between text 0 literal mark h (Nat.zero_le _)
  rw [Nat.sub_zero, ← List.range_eq_range', List.drop_zero] at first
  unfold firstGroup?
  simp only [first]
  cases hfirst : Text.cutFirst literal.toList text with
  | none => rfl
  | some found =>
    obtain ⟨before, after⟩ := found
    simp only [Option.bind_some]
    cases hlast : Text.cutLast mark after with
    | none => rfl
    | some cut =>
      obtain ⟨captured, rest⟩ := cut
      have whole : text = before ++ literal.toList ++ (captured ++ mark :: rest) := by
        rw [← Text.eq_of_cutLast hlast, Text.eq_of_cutFirst hfirst]
      have behind : text.drop (0 + before.length + literal.toList.length) = captured ++ mark :: rest := by
        rw [Nat.zero_add, ← List.length_append, whole, List.drop_left]
      simp only [Option.map_some, bind, Option.bind, List.find?_cons, decide_true, behind, Nat.add_sub_cancel_left,
        List.take_left]

/-! ## Rows of expressions -/

theorem ways_seq_assoc (a b c : Regex) (chars : Array Char) (p : Nat) :
    (Regex.seq (.seq a b) c).ways chars p = (Regex.seq a (.seq b c)).ways chars p := by
  simp only [ways_seq, List.flatMap_assoc, List.flatMap_map, List.map_flatMap, List.map_map, Function.comp_def,
    List.append_assoc]

/-- Expressions in a row match as two rows of them do. -/
theorem ways_concat_append {front back : List Regex} (hf : front ≠ []) (hb : back ≠ []) (chars : Array Char) (p : Nat) :
    (concat (front ++ back)).ways chars p = (Regex.seq (concat front) (concat back)).ways chars p := by
  induction front generalizing p with
  | nil => exact absurd rfl hf
  | cons r front ih =>
    cases front with
    | nil =>
      cases back with
      | nil => exact absurd rfl hb
      | cons => rfl
    | cons r' front =>
      have first : concat (r :: r' :: front ++ back) = .seq r (concat (r' :: front ++ back)) := rfl
      have row : concat (r :: r' :: front) = .seq r (concat (r' :: front)) := rfl
      rw [first, row, ways_seq_assoc, ways_seq, ways_seq]
      simp only [ih (List.cons_ne_nil r' front)]

theorem firstGroup?_congr {r s : Regex} (same : ∀ chars p, r.ways chars p = s.ways chars p) (index : Nat)
    (text : List Char) : r.firstGroup? index text = s.firstGroup? index text := by
  unfold firstGroup?
  simp only [same]

end PackageAudit.Regex
