import Mathlib.Data.List.Basic
import PackageAudit.Text.Search

/-!
# Cutting at a mark

A text that is followed by a mark is cut there if it does not contain the mark itself, provided the last character of
the mark stands nowhere else in the mark (`cutFirst_append`): then no occurrence can begin in the text and end in the
mark. A mark that was found is found at the same place when more text follows (`cutFirst_append_right`). Whatever the
mark is, a text is cut at its first occurrence (`cutFirst_eq_some_iff`), and not at all if there is none
(`cutFirst_eq_none_iff`).

A text is cut at the last of its marks (`cutLast_eq_some_iff`), and not at all if there is none (`cutLast_eq_none_iff`).
-/

namespace PackageAudit.Text

variable {front : List Char} {last : Char}

/-- An occurrence of a mark cannot begin in a text that does not contain it and end in the mark after the text. -/
theorem no_occurrence_across {text rest : List Char} (hl : last ∉ front) (hne : text ≠ [])
    (h : ¬front ++ [last] <:+: text) : ¬front ++ [last] <+: text ++ (front ++ [last] ++ rest) := by
  rintro ⟨tail, ht⟩
  rcases List.append_eq_append_iff.mp ht with ⟨t, htext, -⟩ | ⟨t, hmark, hrest⟩
  · exact h ⟨[], t, by rw [List.nil_append]; exact htext.symm⟩
  · -- `t` is what the occurrence shares with the mark: a proper prefix of the mark that ends as the mark does
    have hlen : t.length ≤ front.length := by
      have := congrArg List.length hmark
      have := List.length_pos_iff.mpr hne
      simp only [List.length_append, List.length_singleton] at *
      omega
    have shared : t <+: front := by
      refine List.prefix_of_prefix_length_le ⟨tail, hrest.symm⟩ ?_ hlen
      rw [List.append_assoc]
      exact List.prefix_append _ _
    cases t with
    | nil =>
      rw [List.append_nil] at hmark
      exact h (hmark ▸ List.infix_rfl)
    | cons c t =>
      have hlast := congrArg List.getLast? hmark
      rw [List.getLast?_concat, List.getLast?_append_of_ne_nil _ (List.cons_ne_nil c t)] at hlast
      exact hl (shared.subset (List.mem_of_getLast? hlast.symm))

/-- **A text is cut at the mark that follows it.** -/
theorem cutFirst_append {text : List Char} (rest : List Char) (hl : last ∉ front) (h : ¬front ++ [last] <:+: text) :
    cutFirst (front ++ [last]) (text ++ (front ++ [last] ++ rest)) = some (text, rest) := by
  induction text with
  | nil =>
    have found : (front ++ [last]).isPrefixOf (front ++ [last] ++ rest) = true :=
      List.isPrefixOf_iff_prefix.mpr (List.prefix_append _ _)
    unfold cutFirst
    rw [List.nil_append, if_pos found, List.drop_left]
  | cons c text ih =>
    have later : ¬(front ++ [last]).isPrefixOf (c :: text ++ (front ++ [last] ++ rest)) = true := by
      rw [List.isPrefixOf_iff_prefix]
      exact no_occurrence_across hl (List.cons_ne_nil c text) h
    have ih := ih fun h' => h (List.infix_cons h')
    unfold cutFirst
    rw [if_neg later, List.cons_append]
    simp only [ih, Option.map_some]

/-- A mark that was found is found at the same place when more text follows. -/
theorem cutFirst_append_right {needle : List Char} (more : List Char) : ∀ {hay before after : List Char},
    cutFirst needle hay = some (before, after) → cutFirst needle (hay ++ more) = some (before, after ++ more) := by
  intro hay
  induction hay with
  | nil =>
    intro before after h
    unfold cutFirst at h
    split at h
    next hp =>
      obtain rfl : needle = [] := by simpa using hp
      cases h
      cases more <;> rfl
    next => cases h
  | cons c rest ih =>
    intro before after h
    have whole := eq_of_cutFirst h
    unfold cutFirst at h
    split at h
    next hp =>
      obtain ⟨rfl, rfl⟩ := by simpa using h
      have hp' : needle.isPrefixOf (c :: rest ++ more) = true :=
        List.isPrefixOf_iff_prefix.mpr ((List.isPrefixOf_iff_prefix.mp hp).trans (List.prefix_append _ _))
      have len : needle.length ≤ (c :: rest).length := (List.isPrefixOf_iff_prefix.mp hp).length_le
      unfold cutFirst
      rw [if_pos hp', List.drop_append_of_le_length len]
    next hp =>
      obtain ⟨⟨b, a⟩, hc, he⟩ := Option.map_eq_some_iff.mp h
      cases he
      -- an occurrence in front would lie in the text itself, which is longer than the mark
      have hp' : ¬needle.isPrefixOf (c :: rest ++ more) = true := by
        rw [List.isPrefixOf_iff_prefix] at hp ⊢
        intro hn
        have len : needle.length ≤ (c :: rest).length := by
          rw [whole]
          simp only [List.length_append]
          omega
        exact hp (List.prefix_of_prefix_length_le hn (List.prefix_append _ _) len)
      unfold cutFirst
      rw [if_neg hp', List.cons_append]
      simp only [ih hc, Option.map_some]

theorem cutFirst_of_isPrefixOf {needle hay : List Char} (h : needle.isPrefixOf hay = true) :
    cutFirst needle hay = some ([], hay.drop needle.length) := by
  unfold cutFirst
  rw [if_pos h]

theorem cutFirst_cons {needle rest : List Char} {c : Char} (h : ¬needle.isPrefixOf (c :: rest) = true) :
    cutFirst needle (c :: rest) = (cutFirst needle rest).map fun (before, after) => (c :: before, after) := by
  rw [cutFirst, if_neg h]

/-- A text is not cut at a mark that it does not contain. -/
theorem cutFirst_eq_none_iff {needle hay : List Char} : cutFirst needle hay = none ↔ ¬needle <:+: hay := by
  induction hay with
  | nil => cases needle <;> simp [cutFirst]
  | cons c rest ih =>
    rw [List.infix_cons_iff, not_or, ← ih]
    by_cases begun : needle.isPrefixOf (c :: rest) = true
    · rw [cutFirst_of_isPrefixOf begun]
      simp [List.isPrefixOf_iff_prefix.mp begun]
    · rw [cutFirst_cons begun, Option.map_eq_none_iff]
      exact ⟨fun h => ⟨fun hp => begun (List.isPrefixOf_iff_prefix.mpr hp), h⟩, And.right⟩

/-- Before the place where a text is cut no other occurrence of the mark begins. -/
theorem length_le_of_cutFirst {needle : List Char} : ∀ {hay before after earlier : List Char},
    cutFirst needle hay = some (before, after) → earlier ++ needle <+: hay → before.length ≤ earlier.length := by
  intro hay
  induction hay with
  | nil =>
    intro before after earlier h _
    obtain ⟨hb, -⟩ := List.append_eq_nil_iff.mp (eq_of_cutFirst h).symm
    obtain ⟨rfl, -⟩ := List.append_eq_nil_iff.mp hb
    exact Nat.zero_le _
  | cons c rest ih =>
    intro before after earlier h occurs
    by_cases begun : needle.isPrefixOf (c :: rest) = true
    · rw [cutFirst_of_isPrefixOf begun] at h
      cases h
      exact Nat.zero_le _
    · rw [cutFirst_cons begun] at h
      obtain ⟨⟨front, tail⟩, hc, he⟩ := Option.map_eq_some_iff.mp h
      cases he
      cases earlier with
      | nil => exact absurd (List.isPrefixOf_iff_prefix.mpr occurs) begun
      | cons d earlier => exact Nat.succ_le_succ (ih hc (List.cons_prefix_cons.mp occurs).2)

/-- **A text is cut where the mark occurs first.** -/
theorem cutFirst_eq_some_iff {needle hay before after : List Char} : cutFirst needle hay = some (before, after)
    ↔ hay = before ++ needle ++ after ∧ ∀ earlier, earlier ++ needle <+: hay → before.length ≤ earlier.length := by
  refine ⟨fun h => ⟨eq_of_cutFirst h, fun _ => length_le_of_cutFirst h⟩, fun ⟨stands, first⟩ => ?_⟩
  have occurs : needle <:+: hay := ⟨before, after, stands.symm⟩
  cases hc : cutFirst needle hay with
  | none => exact absurd occurs (cutFirst_eq_none_iff.mp hc)
  | some cut =>
    obtain ⟨front, tail⟩ := cut
    have cut := eq_of_cutFirst hc
    have before_le := first front (cut ▸ List.prefix_append _ _)
    have front_le := length_le_of_cutFirst hc (stands ▸ List.prefix_append _ _)
    rw [stands, List.append_assoc, List.append_assoc] at cut
    obtain ⟨rfl, rest⟩ := List.append_inj cut (Nat.le_antisymm before_le front_le)
    rw [List.append_cancel_left rest]

theorem contains_iff {needle hay : List Char} : contains needle hay = true ↔ needle <:+: hay := by
  induction hay with
  | nil => simp [contains]
  | cons c rest ih => rw [contains, Bool.or_eq_true, ih, List.isPrefixOf_iff_prefix, List.infix_cons_iff]

theorem cutLast_eq_none_iff {mark : Char} {hay : List Char} : cutLast mark hay = none ↔ mark ∉ hay := by
  induction hay with
  | nil => simp [cutLast]
  | cons c rest ih =>
    rw [List.mem_cons, not_or, ← ih, cutLast, eq_comm (a := mark)]
    cases cutLast mark rest with
    | some cut => simp
    | none => by_cases h : c = mark <;> simp [h]

/-- **A text is cut at its last mark.** -/
theorem cutLast_append {mark : Char} (before : List Char) {after : List Char} (h : mark ∉ after) :
    cutLast mark (before ++ mark :: after) = some (before, after) := by
  induction before with
  | nil => rw [List.nil_append, cutLast, cutLast_eq_none_iff.mpr h, if_pos rfl]
  | cons c before ih => rw [List.cons_append, cutLast, ih]

/-- Behind the place where a text is cut last there is no other mark. -/
theorem notMem_of_cutLast {mark : Char} {hay before after : List Char} (h : cutLast mark hay = some (before, after)) :
    mark ∉ after := by
  induction hay generalizing before with
  | nil => cases h
  | cons c rest ih =>
    rw [cutLast] at h
    cases hr : cutLast mark rest with
    | some cut =>
      rw [hr] at h
      cases h
      exact ih hr
    | none =>
      by_cases hc : c = mark
      · simp only [hr, if_pos hc] at h
        cases h
        exact cutLast_eq_none_iff.mp hr
      · simp [hr, hc] at h

/-- **A text is cut where the mark stands last.** -/
theorem cutLast_eq_some_iff {mark : Char} {hay before after : List Char} :
    cutLast mark hay = some (before, after) ↔ hay = before ++ mark :: after ∧ mark ∉ after := by
  refine ⟨fun h => ⟨eq_of_cutLast h, notMem_of_cutLast h⟩, ?_⟩
  rintro ⟨rfl, none_behind⟩
  exact cutLast_append before none_behind

end PackageAudit.Text
