import PackageAudit.Audit.ChangeRequest
import PackageAudit.Proofs.Findings.Messages
import PackageAudit.Proofs.Regex.Match
import PackageAudit.Regex.Pattern

/-!
# What counts as a change request number

A text holds a number if a capital C stands somewhere in it, directly followed by at least seven digits (`HoldsNumber`).
That is what the fixed pattern finds (`isNumber_iff`), which is the one that is written `C[0-9]{7}` (`read_pattern`).

Main statement: the check files one message, as information or as a warning, and nothing else (`check_files_number`).
-/

namespace PackageAudit.Audit.ChangeRequest

variable {text : List Char} {i j : Nat}

/-- Whether a capital C stands somewhere in a text, directly followed by at least seven digits of ASCII. -/
def HoldsNumber (text : List Char) : Prop :=
  ∃ front digits rest, text = front ++ 'C' :: (digits ++ rest) ∧ 7 ≤ digits.length ∧ ∀ d ∈ digits, '0' ≤ d ∧ d ≤ '9'

theorem matches_pattern : pattern.Matches text i j ↔ text[i]? = some 'C' ∧ j = i + 1 + 7
    ∧ ∃ digits, digits.length = 7 ∧ (∀ d ∈ digits, '0' ≤ d ∧ d ≤ '9') ∧ digits <+: text.drop (i + 1) := by
  have digit (d : Char) : (CharClass.ofRanges [('0', '9')]).contains d = true ↔ '0' ≤ d ∧ d ≤ '9' := by
    simp [CharClass.contains_ofRanges]
  simp only [pattern, Regex.matches_seq, Regex.matches_single, Regex.matches_rep_same, Regex.steps_char, digit]
  constructor
  · rintro ⟨_, ⟨here, rfl⟩, stop, digits⟩
    exact ⟨here, stop, digits⟩
  · rintro ⟨here, stop, digits⟩
    exact ⟨i + 1, ⟨here, rfl⟩, stop, digits⟩

/-- **A text looks like a number** exactly if it holds one. -/
theorem isNumber_iff : isNumber text = true ↔ HoldsNumber text := by
  rw [isNumber, Regex.isMatch_iff]
  simp only [matches_pattern]
  constructor
  · rintro ⟨i, -, _, here, -, digits, length, members, rest, hrest⟩
    obtain ⟨hi, hc⟩ := List.getElem?_eq_some_iff.mp here
    refine ⟨text.take i, digits, rest, ?_, Nat.le_of_eq length.symm, members⟩
    rw [hrest, ← hc, ← List.drop_eq_getElem_cons hi, List.take_append_drop]
  · rintro ⟨front, digits, rest, rfl, enough, members⟩
    have behind : (front ++ 'C' :: (digits ++ rest)).drop (front.length + 1) = digits ++ rest := by
      rw [List.append_cons, List.drop_left' (by simp)]
    refine ⟨front.length, by simp, _, by simp, rfl, digits.take 7, ?_, ?_, ?_⟩
    · rw [List.length_take]
      omega
    · exact fun d hd => members d (List.mem_of_mem_take hd)
    · rw [behind]
      exact (List.take_prefix 7 digits).trans (List.prefix_append _ _)

theorem read_pattern : ∃ r, Pattern.read "C[0-9]\x7b7\x7d" = .ok r ∧ ∀ text, r.isMatch text = isNumber text := by
  have same : (CharClass.union .none (.range '0' '9')).contains = (CharClass.ofRanges [('0', '9')]).contains := by
    funext c
    exact Bool.or_comm _ _
  refine ⟨.seq (.char (.single 'C')) (.rep (.char (.union .none (.range '0' '9'))) 7 (some 7) true), rfl,
    fun text => ?_⟩
  simp only [isNumber, pattern, Regex.isMatch, Regex.plan, same]

/-- The check files its message under its identity, at the level that fits the number. -/
theorem messages_check (facts : Facts) (f : Findings) (l : Level) : (check facts f).messages identity l
    = f.messages identity l ++ if l = (if isNumber facts.changeRequest.toList then .information else .warning) then
        ["The Change Record Number is: " ++ facts.changeRequest] else [] := by
  unfold check
  rw [Findings.messages_record]
  simp only [true_and]

theorem get?_check_of_ne {facts : Facts} {f : Findings} {x : String} (h : x ≠ identity) :
    (check facts f).get? x = f.get? x := by
  unfold check
  rw [Findings.get?_record, if_neg h]

/-- **The number of a corpus** is filed by the check, whatever was filed before: as information if it holds a capital C
directly followed by at least seven digits, and else as a warning. Its message comes after those that are there, and
nothing else changes. -/
theorem check_files_number (corpus : Corpus) (f : Findings) :
    (∀ text, isNumber text = true ↔ HoldsNumber text)
      ∧ (∃ r, Pattern.read "C[0-9]\x7b7\x7d" = .ok r ∧ ∀ text, r.isMatch text = isNumber text)
      ∧ (HoldsNumber corpus.facts.changeRequest.toList →
        (check corpus.facts f).messages ".Change Record Number" .information
            = f.messages ".Change Record Number" .information
              ++ ["The Change Record Number is: " ++ corpus.facts.changeRequest]
          ∧ (check corpus.facts f).messages ".Change Record Number" .warning
            = f.messages ".Change Record Number" .warning)
      ∧ (¬HoldsNumber corpus.facts.changeRequest.toList →
        (check corpus.facts f).messages ".Change Record Number" .warning
            = f.messages ".Change Record Number" .warning
              ++ ["The Change Record Number is: " ++ corpus.facts.changeRequest]
          ∧ (check corpus.facts f).messages ".Change Record Number" .information
            = f.messages ".Change Record Number" .information)
      ∧ (check corpus.facts f).messages ".Change Record Number" .error = f.messages ".Change Record Number" .error
      ∧ ∀ x ≠ ".Change Record Number", (check corpus.facts f).get? x = f.get? x := by
  have filed := messages_check corpus.facts f
  refine ⟨fun _ => isNumber_iff, read_pattern, fun holds => ?_, fun lacks => ?_, ?_, fun x => get?_check_of_ne⟩
  · rw [if_pos (isNumber_iff.mpr holds)] at filed
    exact ⟨filed .information, (filed .warning).trans (List.append_nil _)⟩
  · rw [if_neg (mt isNumber_iff.mp lacks)] at filed
    exact ⟨filed .warning, (filed .information).trans (List.append_nil _)⟩
  · have other : Level.error ≠ if isNumber corpus.facts.changeRequest.toList then .information else .warning := by
      split <;> exact nofun
    have unchanged := filed .error
    rw [if_neg other, List.append_nil] at unchanged
    exact unchanged

/-- A corpus of which nothing is known but its number. -/
def numbered (number : String) : Corpus where
  paths := []
  content _ := none
  facts := { changeRequest := number }

/-- Findings with a warning about the number. -/
def warned : Findings :=
  Findings.empty.record ".Change Record Number" .warning "none yet"

/-- A number stands behind one that is too short, and has more digits than it needs; digits of other scripts do not
count. -/
theorem check_files_number_late : HoldsNumber "C123456C12345678".toList ∧ ¬HoldsNumber "C123456\u0667".toList
    ∧ (check (numbered "C123456C12345678").facts warned).messages ".Change Record Number" .information
      = ["The Change Record Number is: C123456C12345678"]
    ∧ (check (numbered "C123456\u0667").facts warned).messages ".Change Record Number" .warning
      = ["none yet", "The Change Record Number is: C123456\u0667"] := by
  have holds : HoldsNumber "C123456C12345678".toList :=
    ⟨"C123456".toList, "12345678".toList, [], by decide, by decide, by simp⟩
  have lacks : ¬HoldsNumber "C123456\u0667".toList := by
    rw [← isNumber_iff]
    decide +kernel
  obtain ⟨-, -, information, -⟩ := check_files_number (numbered "C123456C12345678") warned
  obtain ⟨-, -, -, warning, -⟩ := check_files_number (numbered "C123456\u0667") warned
  exact ⟨holds, lacks, (information holds).1.trans (by decide), (warning lacks).1.trans (by decide)⟩

end PackageAudit.Audit.ChangeRequest
