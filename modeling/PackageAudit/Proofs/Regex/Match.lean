import Mathlib.Logic.Function.Iterate
import PackageAudit.Regex.Match

/-!
# What the matcher finds

`Regex.Matches` says by the shape of an expression from where to where in a text it can match. Running the plan of an
expression takes sets of positions along this relation (`Along`), since each construct does so if its parts do. A
repetition without an upper bound stops at a fuel of its own: no step leads backwards, so what can be reached at all is
reached in no more steps than there are positions ahead (`Along.exists_steps_le`).

Main statement: the matcher finds a match exactly if there is one (`isMatch_iff`).
-/

namespace PackageAudit

variable {n count : Nat} {step step' : Nat → Nat} {R R' : Nat → Nat → Prop} {i j : Nat}

/-! ## Sets of positions -/

/-- A position is in the set of truths if the truth at its place is. -/
theorem testBit_positionsWhere (truths : List Bool) (i : Nat) :
    (positionsWhere truths).testBit i = truths[i]?.getD false := by
  induction truths generalizing i with
  | nil => simp [positionsWhere]
  | cons b rest ih =>
    have below : b.toNat < 2 := by cases b <;> decide
    cases i with
    | zero => cases b <;> simp [positionsWhere]
    | succ i =>
      have half : positionsWhere (b :: rest) / 2 = positionsWhere rest := by
        rw [positionsWhere]
        omega
      rw [Nat.testBit_succ, half, ih, List.getElem?_cons_succ]

theorem testBit_allPositions (length i : Nat) : (allPositions length).testBit i = decide (i ≤ length) := by
  rw [allPositions, Nat.one_shiftLeft, Nat.testBit_two_pow_sub_one]
  exact decide_eq_decide.mpr Nat.lt_succ_iff

/-- The neighbours of a position are the characters in front of it and behind it. -/
theorem getElem?_neighbours (before : Option Char) (text : List Char) (h : i ≤ text.length) :
    (neighbours before text)[i]? = some (if i = 0 then before else text[i - 1]?, text[i]?) := by
  induction text generalizing before i with
  | nil =>
    obtain rfl : i = 0 := Nat.le_zero.mp h
    rfl
  | cons c rest ih =>
    cases i with
    | zero => rfl
    | succ i =>
      rw [neighbours, List.getElem?_cons_succ, ih (some c) (Nat.le_of_succ_le_succ h)]
      cases i <;> rfl

/-- Whether no position of a set is beyond a bound. -/
def Within (n set : Nat) : Prop :=
  ∀ i, set.testBit i = true → i ≤ n

theorem within_allPositions (n : Nat) : Within n (allPositions n) := by
  intro i h
  rw [testBit_allPositions] at h
  exact of_decide_eq_true h

/-! ## Steps along a relation -/

/-- A number of steps along a relation. -/
def Steps (R : Nat → Nat → Prop) : Nat → Nat → Nat → Prop
  | 0, i, j => i = j
  | count + 1, i, j => ∃ k, R i k ∧ Steps R count k j

theorem steps_add {a b : Nat} : Steps R (a + b) i j ↔ ∃ k, Steps R a i k ∧ Steps R b k j := by
  induction a generalizing i with
  | zero => simp [Steps]
  | succ a ih =>
    rw [Nat.succ_add, Steps]
    simp only [ih, Steps]
    constructor
    · rintro ⟨m, first, k, more, last⟩
      exact ⟨k, ⟨m, first, more⟩, last⟩
    · rintro ⟨k, ⟨m, first, more⟩, last⟩
      exact ⟨m, first, k, more, last⟩

/-- Steps at each of which one may also stay are at most as many steps. -/
theorem steps_or_stay : Steps (fun i j => i = j ∨ R i j) count i j ↔ ∃ taken ≤ count, Steps R taken i j := by
  induction count generalizing i with
  | zero => simp [Steps]
  | succ count ih =>
    rw [Steps]
    simp only [ih]
    constructor
    · rintro ⟨k, rfl | first, taken, few, more⟩
      · exact ⟨taken, Nat.le_succ_of_le few, more⟩
      · exact ⟨taken + 1, Nat.succ_le_succ few, k, first, more⟩
    · rintro ⟨_ | taken, few, steps⟩
      · exact ⟨i, Or.inl rfl, 0, Nat.zero_le _, steps⟩
      · obtain ⟨k, first, more⟩ := steps
        exact ⟨k, Or.inr first, taken, Nat.le_of_succ_le_succ few, more⟩

/-- Whether a step takes sets of the positions up to a bound along a relation, which leads ahead and not beyond the
bound. -/
structure Along (n : Nat) (step : Nat → Nat) (R : Nat → Nat → Prop) : Prop where
  ahead : ∀ {i j}, i ≤ n → R i j → i ≤ j ∧ j ≤ n
  testBit_iff : ∀ {set}, Within n set → ∀ j, (step set).testBit j = true ↔ ∃ i, set.testBit i = true ∧ R i j

namespace Along

theorem within (h : Along n step R) {set : Nat} (hs : Within n set) : Within n (step set) := by
  intro j hj
  obtain ⟨i, hi, reached⟩ := (h.testBit_iff hs j).mp hj
  exact (h.ahead (hs i hi) reached).2

theorem congr (h : Along n step R) (same : ∀ i ≤ n, ∀ j, R i j ↔ R' i j) : Along n step R' where
  ahead hi reached := h.ahead hi ((same _ hi _).mpr reached)
  testBit_iff hs j := by
    rw [h.testBit_iff hs]
    exact exists_congr fun i => and_congr_right fun hi => same i (hs i hi) j

/-- One step after the other leads along both relations. -/
theorem comp (h : Along n step R) (h' : Along n step' R') :
    Along n (fun set => step' (step set)) (fun i j => ∃ k, R i k ∧ R' k j) where
  ahead := by
    rintro i j hi ⟨k, first, second⟩
    obtain ⟨le_k, hk⟩ := h.ahead hi first
    obtain ⟨le_j, hj⟩ := h'.ahead hk second
    exact ⟨Nat.le_trans le_k le_j, hj⟩
  testBit_iff hs j := by
    rw [h'.testBit_iff (h.within hs)]
    simp only [h.testBit_iff hs]
    constructor
    · rintro ⟨k, ⟨i, hi, first⟩, second⟩
      exact ⟨i, hi, k, first, second⟩
    · rintro ⟨i, hi, k, first, second⟩
      exact ⟨k, ⟨i, hi, first⟩, second⟩

theorem union (h : Along n step R) (h' : Along n step' R') :
    Along n (fun set => step set ||| step' set) (fun i j => R i j ∨ R' i j) where
  ahead hi reached := reached.elim (h.ahead hi) (h'.ahead hi)
  testBit_iff hs j := by
    rw [Nat.testBit_or, Bool.or_eq_true, h.testBit_iff hs, h'.testBit_iff hs, ← exists_or]
    simp only [and_or_left]

theorem stay : Along n id (· = ·) where
  ahead := by
    rintro i _ hi rfl
    exact ⟨Nat.le_refl i, hi⟩
  testBit_iff _ j := by simp

theorem iterate (h : Along n step R) (count : Nat) : Along n step^[count] (Steps R count) := by
  induction count with
  | zero => exact stay
  | succ count ih => exact h.comp ih

/-- What can be reached is reached without standing still, and so in no more steps than there are positions ahead. -/
theorem exists_steps_le (h : Along n step R) (hi : i ≤ n) (steps : Steps R count i j) :
    ∃ few ≤ j - i, Steps R few i j := by
  induction count generalizing i with
  | zero => exact ⟨0, Nat.zero_le _, steps⟩
  | succ count ih =>
    obtain ⟨k, first, more⟩ := steps
    obtain ⟨le_k, hk⟩ := h.ahead hi first
    obtain ⟨few, hfew, reached⟩ := ih hk more
    rcases Nat.eq_or_lt_of_le le_k with rfl | moved
    · exact ⟨few, hfew, reached⟩
    · have le_j : k ≤ j := ((h.iterate count).ahead hk more).1
      exact ⟨few + 1, by omega, k, first, reached⟩

end Along

/-- Stopping where nothing changes any more makes no difference to repeated steps. -/
theorem stepTimes_eq_iterate (step : Nat → Nat) (count set : Nat) : stepTimes step count set = step^[count] set := by
  induction count generalizing set with
  | zero => rfl
  | succ count ih =>
    rw [stepTimes]
    split
    next fixed => exact (Function.iterate_fixed fixed _).symm
    next => exact ih _

/-- Stopping where nothing is added any more makes no difference to what is reached. -/
theorem reachable_eq_iterate (step : Nat → Nat) (fuel set : Nat) :
    reachable step fuel set = (fun set => set ||| step set)^[fuel] set := by
  induction fuel generalizing set with
  | zero => rfl
  | succ fuel ih =>
    rw [reachable]
    split
    next fixed => exact (Function.iterate_fixed (f := fun set => set ||| step set) fixed _).symm
    next => exact ih _

/-- At least a number of steps, and then as many more as there is fuel at most. -/
theorem Along.repeated (h : Along n step R) (min fuel : Nat) :
    Along n (fun set => reachable step fuel (stepTimes step min set))
      (fun i j => ∃ more ≤ fuel, Steps R (min + more) i j) := by
  have stays : Steps (fun i j => i = j ∨ R i j) fuel = fun i j => ∃ taken ≤ fuel, Steps R taken i j := by
    funext i j
    exact propext steps_or_stay
  have further : Along n (reachable step fuel) (fun i j => ∃ taken ≤ fuel, Steps R taken i j) := by
    rw [funext (reachable_eq_iterate step fuel), ← stays]
    exact (stay.union h).iterate fuel
  have enough : Along n (stepTimes step min) (Steps R min) := by
    rw [funext (stepTimes_eq_iterate step min)]
    exact h.iterate min
  refine (enough.comp further).congr fun i _ j => ?_
  simp only [steps_add]
  constructor
  · rintro ⟨k, first, more, few, last⟩
    exact ⟨more, few, k, first, last⟩
  · rintro ⟨more, few, k, first, last⟩
    exact ⟨k, first, more, few, last⟩

/-! ## Expressions -/

namespace Regex

variable {text : List Char}

/-- From where to where an expression can match in a text. -/
def Matches (text : List Char) : Regex → Nat → Nat → Prop
  | .empty, i, j => i = j
  | .char among, i, j => (∃ c, text[i]? = some c ∧ among.contains c = true) ∧ j = i + 1
  | .look a, i, j => i = j ∧ a.holds (if i = 0 then none else text[i - 1]?) text[i]? = true
  | .seq a b, i, j => ∃ k, Matches text a i k ∧ Matches text b k j
  | .alt a b, i, j => Matches text a i j ∨ Matches text b i j
  | .rep r min max _, i, j =>
    ∃ more, (∀ most ∈ max, more ≤ most - min) ∧ Steps (Matches text r) (min + more) i j
  | .group _ r, i, j => Matches text r i j

/-- A class is crossed where a member of it stands. -/
theorem along_char (text : List Char) (among : CharClass) :
    Along text.length ((plan text (.char among)).run text.length) (Matches text (.char among)) where
  ahead := by
    rintro i j - ⟨⟨c, here, -⟩, rfl⟩
    exact ⟨Nat.le_succ i, (List.getElem?_eq_some_iff.mp here).1⟩
  testBit_iff {set} _ j := by
    have member (i : Nat) : (text.map among.contains)[i]?.getD false = true
        ↔ ∃ c, text[i]? = some c ∧ among.contains c = true := by
      rw [List.getElem?_map]
      cases text[i]? <;> simp
    rw [plan, Plan.run, Nat.testBit_shiftLeft]
    cases j with
    | zero => simp [Matches]
    | succ j =>
      rw [Nat.add_sub_cancel, Nat.testBit_and, testBit_positionsWhere]
      simp only [ge_iff_le, Nat.le_add_left, decide_true, Bool.true_and, Bool.and_eq_true, member, Matches]
      constructor
      · rintro ⟨hj, here⟩
        exact ⟨j, hj, here, rfl⟩
      · rintro ⟨i, hi, here, moved⟩
        obtain rfl : j = i := Nat.succ.inj moved
        exact ⟨hi, here⟩

/-- An assertion lets those positions pass at which it holds. -/
theorem along_look (text : List Char) (a : Assertion) :
    Along text.length ((plan text (.look a)).run text.length) (Matches text (.look a)) where
  ahead := by
    rintro i _ hi ⟨rfl, -⟩
    exact ⟨Nat.le_refl i, hi⟩
  testBit_iff {set} hs j := by
    rw [plan, Plan.run, Nat.testBit_and, Bool.and_eq_true, testBit_positionsWhere, List.getElem?_map]
    simp only [Matches]
    constructor
    · rintro ⟨hj, holds⟩
      rw [getElem?_neighbours none text (hs j hj)] at holds
      exact ⟨j, hj, rfl, holds⟩
    · rintro ⟨_, hj, rfl, holds⟩
      rw [getElem?_neighbours none text (hs _ hj)]
      exact ⟨hj, holds⟩

/-- **Running the plan of an expression** takes sets of positions along what the expression matches. -/
theorem along_plan (text : List Char) (r : Regex) :
    Along text.length ((r.plan text).run text.length) (r.Matches text) := by
  induction r with
  | empty =>
    refine ⟨Along.stay.ahead, fun {set} hs j => ?_⟩
    rw [plan, Plan.run, Nat.testBit_and, testBit_allPositions, Bool.and_eq_true, decide_eq_true_eq]
    simp only [Matches, exists_eq_right, and_iff_left_iff_imp]
    exact hs j
  | char among => exact along_char text among
  | look a => exact along_look text a
  | seq a b iha ihb => exact iha.comp ihb
  | alt a b iha ihb => exact iha.union ihb
  | rep r min max greedy ih =>
    cases max with
    | some max =>
      refine (ih.repeated min (max - min)).congr fun i _ j => ?_
      simp [Matches]
    | none =>
      -- the fuel is above the number of positions ahead
      refine (ih.repeated min (text.length + 1)).congr fun i hi j => ?_
      constructor
      · rintro ⟨more, -, steps⟩
        exact ⟨more, nofun, steps⟩
      · rintro ⟨more, -, steps⟩
        obtain ⟨k, first, last⟩ := steps_add.mp steps
        obtain ⟨-, hk⟩ := (ih.iterate min).ahead hi first
        obtain ⟨-, hj⟩ := (ih.iterate more).ahead hk last
        obtain ⟨few, hfew, reached⟩ := ih.exists_steps_le hk last
        exact ⟨few, by omega, steps_add.mpr ⟨k, first, reached⟩⟩
  | group index r ih => exact ih

/-- **The matcher finds a match** exactly if the expression can match from some position of the text to another. -/
theorem isMatch_iff {r : Regex} : r.isMatch text = true ↔ ∃ i ≤ text.length, ∃ j, r.Matches text i j := by
  have reached := (along_plan text r).testBit_iff (within_allPositions text.length)
  simp only [testBit_allPositions, decide_eq_true_eq] at reached
  rw [isMatch, bne_iff_ne]
  constructor
  · intro found
    obtain ⟨j, hj⟩ := Nat.exists_testBit_of_ne_zero found
    obtain ⟨i, hi, matched⟩ := (reached j).mp hj
    exact ⟨i, hi, j, matched⟩
  · rintro ⟨i, hi, j, matched⟩ nothing
    have hj := (reached j).mpr ⟨i, hi, matched⟩
    rw [nothing, Nat.zero_testBit] at hj
    exact Bool.noConfusion hj

theorem matches_seq {a b : Regex} : Matches text (.seq a b) i j ↔ ∃ k, Matches text a i k ∧ Matches text b k j :=
  Iff.rfl

theorem matches_single {c : Char} : Matches text (.char (.single c)) i j ↔ text[i]? = some c ∧ j = i + 1 := by
  simp only [Matches, CharClass.contains_single, decide_eq_true_eq, exists_eq_right]

theorem matches_rep_same {r : Regex} {greedy : Bool} :
    Matches text (.rep r count (some count) greedy) i j ↔ Steps (Matches text r) count i j := by
  simp [Matches]

/-- A class that is repeated matches as many of its members. -/
theorem steps_char {among : CharClass} : Steps (Matches text (.char among)) count i j
    ↔ j = i + count ∧ ∃ run, run.length = count ∧ (∀ c ∈ run, among.contains c = true) ∧ run <+: text.drop i := by
  induction count generalizing i with
  | zero =>
    simp only [Steps, Nat.add_zero, List.length_eq_zero_iff]
    constructor
    · rintro rfl
      exact ⟨rfl, [], rfl, List.forall_mem_nil _, List.nil_prefix⟩
    · rintro ⟨rfl, -⟩
      rfl
  | succ count ih =>
    rw [Steps]
    simp only [ih]
    constructor
    · rintro ⟨k, ⟨⟨c, here, member⟩, rfl⟩, rfl, run, length, members, stands⟩
      obtain ⟨hi, rfl⟩ := List.getElem?_eq_some_iff.mp here
      refine ⟨by omega, text[i] :: run, by rw [List.length_cons, length],
        List.forall_mem_cons.mpr ⟨member, members⟩, ?_⟩
      rw [List.drop_eq_getElem_cons hi]
      exact List.cons_prefix_cons.mpr ⟨rfl, stands⟩
    · rintro ⟨rfl, run, length, members, stands⟩
      obtain ⟨c, run, rfl⟩ := List.exists_cons_of_length_eq_add_one length
      obtain ⟨member, members⟩ := List.forall_mem_cons.mp members
      obtain ⟨rest, hrest⟩ := stands
      have here : text[i]? = some c := by
        rw [← List.head?_drop, ← hrest]
        rfl
      have behind : text.drop (i + 1) = run ++ rest := by
        rw [← List.tail_drop, ← hrest]
        rfl
      exact ⟨i + 1, ⟨⟨c, here, member⟩, rfl⟩, by omega, run, Nat.succ.inj length, members, rest, behind.symm⟩

end Regex
end PackageAudit
