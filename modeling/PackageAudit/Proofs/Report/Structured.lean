import PackageAudit.Proofs.Findings.Messages
import PackageAudit.Proofs.Settings.Any
import PackageAudit.Proofs.Settings.Document
import PackageAudit.Report.Structured

/-!
# Reading back reports as JSON

A report is a written value (`fits_members`), and so it is read back as that value. `Structured.decode` asks the members
of the value by their keys, in whatever order they stand; what it reads from a report are the name of the suite, the
numbers and the entries that the report was written for (`Structured.decode_report`).
-/

namespace PackageAudit.Report.Structured

open Json

/-! ## The written value -/

theorem fits_record {levels : Nat} {members : List (String × Value)} (h : ∀ member ∈ members, member.2.Fits levels) :
    (Value.record members).Fits (levels + 1) := by
  refine .object fun member hm => ?_
  obtain ⟨m, given, rfl⟩ := List.mem_map.mp hm
  exact h m given

theorem fits_optional {levels : Nat} {key : String} {text : Option String} :
    ∀ member ∈ optional key text, member.2.Fits levels := by
  intro member hm
  obtain ⟨t, -, rfl⟩ := Option.map_eq_some_iff.mp (Option.mem_toList.mp hm)
  exact .string _

theorem fits_result {levels : Nat} (e : Findings.Entry) : (result e).Fits (levels + 1) := by
  refine fits_record fun member hm => ?_
  simp only [List.cons_append, List.mem_cons, List.mem_append] at hm
  rcases hm with rfl | (hm | hm) | hm
  · exact .string _
  all_goals exact fits_optional member hm

theorem fits_summary {levels : Nat} (f : Findings) : (summary f).Fits (levels + 1) := by
  refine fits_record fun member hm => ?_
  simp only [List.mem_cons, List.not_mem_nil, or_false] at hm
  rcases hm with rfl | rfl | rfl <;> exact .number _

/-- The members of a report are values in which at most two brackets are open at once. -/
theorem fits_members {levels : Nat} (f : Findings) :
    ∀ member ∈ [("suite", Value.text suiteName), ("summary", summary f), ("results", .array (f.entries.map result))],
      member.2.Fits (levels + 2) := by
  intro member hm
  simp only [List.mem_cons, List.not_mem_nil, or_false] at hm
  rcases hm with rfl | rfl | rfl
  · exact .string _
  · exact fits_summary f
  · refine .array fun item hi => ?_
    obtain ⟨e, -, rfl⟩ := List.mem_map.mp hi
    exact fits_result e

/-! ## Reading a report -/

def member? (key : String) : Value → Option Value
  | .object members => (members.find? (·.1 == key.toList)).map (·.2)
  | _ => none

def text? : Value → Option String
  | .string text => some (String.ofList text)
  | _ => none

/-- The natural number that a value is. -/
def count? : Value → Option Nat
  | .number literal => if literal.all Char.isDigit then some (Nat.ofDigitChars 10 literal 0) else none
  | _ => none

/-- The text of a member that may be missing. -/
def optionalText? (key : String) (v : Value) : Option (Option String) :=
  match member? key v with
  | none => some none
  | some v => (text? v).map some

/-- Reads a result. -/
def entryOf? (v : Value) : Option Findings.Entry := do
  some {
    name := ← text? (← member? "name" v)
    failure := ← optionalText? "failure" v
    warning := ← optionalText? "warning" v
    information := ← optionalText? "information" v }

/-- What a report says. -/
structure Content where
  suite : String
  artifacts : Nat
  failures : Nat
  warnings : Nat
  entries : List Findings.Entry
  deriving DecidableEq, Repr

/-- Reads a report. -/
def decode (text : String) : Option Content := do
  let v ← (Settings.readDocument text.toList).toOption
  let summary ← member? "summary" v
  let .array results ← member? "results" v | none
  some {
    suite := ← text? (← member? "suite" v)
    artifacts := ← count? (← member? "artifacts" summary)
    failures := ← count? (← member? "failures" summary)
    warnings := ← count? (← member? "warnings" summary)
    entries := ← results.mapM entryOf? }

theorem text?_text (s : String) : text? (.text s) = some s := by
  rw [Value.text, text?, String.ofList_toList]

theorem count?_nat (n : Nat) : count? (.nat n) = some n := by
  have digits : (Nat.toDigits 10 n).all Char.isDigit = true :=
    List.all_eq_true.mpr fun c hc => Nat.isDigit_of_mem_toDigits (by decide) (by decide) hc
  rw [Value.nat, count?, toList_toString, if_pos digits, Nat.ofDigitChars_ten_toDigits]

section Members

variable {key other : String}

theorem member?_cons_self (key : String) (v : Value) (rest : List (String × Value)) :
    member? key (.record ((key, v) :: rest)) = some v := by
  simp [Value.record, member?]

theorem member?_cons_of_ne (h : other ≠ key) (v : Value) (rest : List (String × Value)) :
    member? key (.record ((other, v) :: rest)) = member? key (.record rest) := by
  have different : ¬other.toList = key.toList := fun same => h (String.toList_inj.mp same)
  simp [Value.record, member?, different]

theorem member?_optional_of_ne (h : other ≠ key) (text : Option String) (rest : List (String × Value)) :
    member? key (.record (optional other text ++ rest)) = member? key (.record rest) := by
  cases text with
  | none => rfl
  | some t => exact member?_cons_of_ne h (.text t) rest

theorem member?_optional (text : Option String) {rest : List (String × Value)}
    (alone : member? key (.record rest) = none) :
    member? key (.record (optional key text ++ rest)) = text.map .text := by
  cases text with
  | none => exact alone
  | some t => exact member?_cons_self key (.text t) rest

theorem optionalText?_of_member? {v : Value} {text : Option String} (h : member? key v = text.map .text) :
    optionalText? key v = some text := by
  unfold optionalText?
  rw [h]
  cases text with
  | none => rfl
  | some t => exact congrArg (Option.map some) (text?_text t)

end Members

/-- **A result is read as the entry that it was written for.** -/
theorem entryOf?_result (e : Findings.Entry) : entryOf? (result e) = some e := by
  have members : result e = .record (("name", .text e.name) :: (optional "failure" e.failure
      ++ (optional "warning" e.warning ++ (optional "information" e.information ++ [])))) := by
    simp [result]
  have empty (key : String) : member? key (.record []) = none := rfl
  have name : member? "name" (result e) = some (.text e.name) := member?_cons_self _ _ _
  have failure : member? "failure" (result e) = e.failure.map .text := by
    rw [members, member?_cons_of_ne (by decide)]
    refine member?_optional e.failure ?_
    rw [member?_optional_of_ne (by decide), member?_optional_of_ne (by decide), empty]
  have warning : member? "warning" (result e) = e.warning.map .text := by
    rw [members, member?_cons_of_ne (by decide), member?_optional_of_ne (by decide)]
    refine member?_optional e.warning ?_
    rw [member?_optional_of_ne (by decide), empty]
  have information : member? "information" (result e) = e.information.map .text := by
    rw [members, member?_cons_of_ne (by decide), member?_optional_of_ne (by decide),
      member?_optional_of_ne (by decide)]
    exact member?_optional e.information (empty _)
  unfold entryOf?
  simp only [bind, Option.bind, name, text?_text, optionalText?_of_member? failure, optionalText?_of_member? warning,
    optionalText?_of_member? information]

theorem mapM_entryOf?_result (entries : List Findings.Entry) : (entries.map result).mapM entryOf? = some entries := by
  induction entries with
  | nil => rfl
  | cons e entries ih => rw [List.map_cons, List.mapM_cons, entryOf?_result, ih]; rfl

theorem readDocument_document (f : Findings) : Settings.readDocument (document f).toList = .ok (value f) :=
  Settings.readDocument_pretty (fits_record (fits_members f))

theorem decode_settings (f : Findings) : Settings.decode (document f).toList = .ok .default := by
  have unknown : ∀ key ∈ ["suite", "summary", "results"], Settings.Key.ofToken? key = none := by decide
  refine Settings.decode_record (@fits_members 0 f) fun member hm => unknown member.1 ?_
  exact List.mem_map_of_mem (f := Prod.fst) hm

/-- What is read from a report. -/
theorem decode_eq (f : Findings) :
    decode (document f) = some {
      suite := suiteName, artifacts := f.size, failures := f.failureCount, warnings := f.warningCount
      entries := f.entries } := by
  have suite : member? "suite" (value f) = some (.text suiteName) := rfl
  have summarized : member? "summary" (value f) = some (summary f) := rfl
  have results : member? "results" (value f) = some (.array (f.entries.map result)) := rfl
  have artifacts : member? "artifacts" (summary f) = some (.nat f.size) := rfl
  have failures : member? "failures" (summary f) = some (.nat f.failureCount) := rfl
  have warnings : member? "warnings" (summary f) = some (.nat f.warningCount) := rfl
  unfold decode
  rw [readDocument_document]
  simp only [Except.toOption, bind, Option.bind, summarized, results, suite, artifacts, failures, warnings,
    text?_text, count?_nat, mapM_entryOf?_result]

/-- **Reading back a report.** A report is read as the value that it was written for, and is accepted where settings
are expected, as an object that gives none of them. What is read from it are the name of the suite, the numbers of the
findings and their entries: an entry for each identity, in order, with the texts of the levels that have messages.
Numbers of 64 bits are read as integers. So findings with the same report have the same entries. -/
theorem decode_report (f : Findings) :
    Settings.readDocument (document f).toList = .ok (value f)
    ∧ Settings.decode (document f).toList = .ok .default
    ∧ decode (document f) = some {
        suite := suiteName, artifacts := f.size, failures := f.failureCount, warnings := f.warningCount
        entries := f.entries }
    ∧ List.Forall₂ (fun (e : Findings.Entry) (p : String × Verdict) => e.Presents p.1 p.2) f.entries f.toList
    ∧ (f.size ≤ word → ∀ n ∈ [f.size, f.failureCount, f.warningCount],
        readNumber (toString n).toList = .ok (.integer n, []))
    ∧ ∀ g, document f = document g → f.entries = g.entries := by
  refine ⟨readDocument_document f, decode_settings f, decode_eq f, f.forall₂_presents, fun fits n hn => ?_,
    fun g h => ?_⟩
  · have counted : n ≤ f.size := by
      simp only [List.mem_cons, List.not_mem_nil, or_false] at hn
      rcases hn with rfl | rfl | rfl
      · exact Nat.le_refl _
      · exact List.countP_le_length
      · exact List.countP_le_length
    have read := readNumber_toString (Nat.le_trans counted fits) ended_nil
    rwa [List.append_nil] at read
  · have same := decode_eq f
    rw [h, decode_eq g] at same
    exact (congrArg Content.entries (Option.some.inj same)).symm

/-- Findings that differ only in where a text was joined have the same report, and the same entries. -/
theorem document_oneMessage :
    (document .twoMessages = document .oneMessage ∧ Findings.twoMessages.entries = Findings.oneMessage.entries)
    ∧ Findings.twoMessages.size ≤ word ∧ readNumber ['1'] = .ok (.integer 1, []) := by
  have same : document .twoMessages = document .oneMessage := by
    have summary : summary .twoMessages = summary .oneMessage := by
      have counts : Findings.twoMessages.size = Findings.oneMessage.size
          ∧ Findings.twoMessages.failureCount = Findings.oneMessage.failureCount
          ∧ Findings.twoMessages.warningCount = Findings.oneMessage.warningCount := by decide
      obtain ⟨size, failures, warnings⟩ := counts
      rw [Structured.summary, Structured.summary, size, failures, warnings]
    rw [document, document, value, value, summary, Findings.entries_twoMessages]
  have fits : Findings.twoMessages.size ≤ word := by decide
  obtain ⟨-, -, -, -, integers, injective⟩ := decode_report .twoMessages
  exact ⟨⟨same, injective .oneMessage same⟩, fits, integers fits 1 (by decide)⟩

end PackageAudit.Report.Structured
