import PackageAudit.Proofs.Audit.Counts
import PackageAudit.Proofs.Markup.Legal
import PackageAudit.Report.JUnit

/-!
# Whether reports for build servers may be read

A report escapes what has a meaning in markup and writes everything else as it is, so it may hold a character that no
document may hold. Whatever the report adds is legal, so the report is legal exactly if all identities and messages are
(`legal_document_iff`).

Main statement: the report of a check is legal exactly if all is that comes into it from the corpus and the catalog
(`legal_document_run`). Nothing refuses other characters on the way (`document_controlled`).
-/

namespace PackageAudit.Report.JUnit

open Markup (IsChar Legal)

variable {e : Findings.Entry} {f : Findings} {facts : Facts}

/-! ## The document -/

theorem legal_write (l : Line) : Legal l.write ↔ Legal l.text := by
  have blank : IsChar ' ' ∧ IsChar '\n' := by decide
  simp [Line.write, Markup.legal_replicate, blank]

theorem legal_counts (f : Findings) : ∀ attr ∈ counts f, Legal attr.1.toList ∧ Legal attr.2.toList := by
  rw [counts, List.forall_mem_cons, List.forall_mem_cons, List.forall_mem_singleton]
  have named : Legal "tests".toList ∧ Legal "failures".toList ∧ Legal "errors".toList := by decide
  exact ⟨⟨named.1, Markup.legal_toString _⟩, ⟨named.2.1, Markup.legal_toString _⟩, named.2.2, Markup.legal_toString _⟩

theorem legal_part {text : Option String} {line : String → List Char}
    (h : ∀ t, Legal (line t) ↔ Legal t.toList) :
    (∀ l ∈ (text.map fun t => Line.mk 3 (line t)).toList, Legal l.text) ↔ ∀ t ∈ text, Legal t.toList := by
  cases text <;> simp [h]

/-- What stands in a test case is legal if the texts of its entry are. -/
theorem legal_caseContent : (∀ line ∈ caseContent e, Legal line.text)
    ↔ ((∀ t ∈ e.failure, Legal t.toList) ∧ ∀ t ∈ e.warning, Legal t.toList) ∧ ∀ t ∈ e.information, Legal t.toList := by
  have named : Legal "type".toList ∧ Legal "message".toList := by decide
  have message {kind : String} (legal : Legal kind.toList) (t : String) :
      Legal (Markup.emptyTag kind [("type", kind), ("message", t)]) ↔ Legal t.toList := by
    simp only [Markup.legal_emptyTag, List.forall_mem_cons, List.not_mem_nil, IsEmpty.forall_iff, implies_true, legal,
      named, true_and, and_true]
  have output (t : String) : Legal (Markup.startTag "system-out" [] ++ Markup.escape t.toList
      ++ Markup.endTag "system-out") ↔ Legal t.toList := by
    have tags : Legal (Markup.startTag "system-out" []) ∧ Legal (Markup.endTag "system-out") := by decide
    simp only [Markup.legal_append, Markup.legal_escape, tags, true_and, and_true]
  rw [caseContent, List.forall_mem_append, List.forall_mem_append, legal_part (message (by decide)),
    legal_part (message (by decide)), legal_part output]

/-- A test case is legal if the name of its entry is and what stands in it. -/
theorem legal_caseLines : (∀ line ∈ caseLines e, Legal line.text)
    ↔ Legal e.name.toList ∧ ∀ line ∈ caseContent e, Legal line.text := by
  have named : Legal "testcase".toList ∧ Legal "name".toList ∧ Legal "classname".toList := by decide
  unfold caseLines
  cases caseContent e with
  | nil =>
    simp only [List.forall_mem_cons, List.not_mem_nil, IsEmpty.forall_iff, implies_true, Markup.legal_emptyTag, named,
      true_and, and_true, and_self]
  | cons line lines =>
    simp only [List.cons_append, List.forall_mem_append, List.forall_mem_cons, List.not_mem_nil, IsEmpty.forall_iff,
      implies_true, Markup.legal_startTag, Markup.legal_endTag, named, true_and, and_true, and_self]

/-- **A document** is legal exactly if the names and the texts of its entries are. -/
theorem legal_document : Legal (document f).toList
    ↔ ∀ e ∈ f.entries, Legal e.name.toList ∧ ∀ line ∈ caseContent e, Legal line.text := by
  have declared : Legal "<?xml version=\"1.0\" encoding=\"UTF-8\"?>".toList := by decide
  have named : Legal "testsuites".toList ∧ Legal "testsuite".toList ∧ Legal "name".toList
    ∧ Legal suiteName.toList := by decide
  rw [document, String.toList_ofList, Markup.legal_flatMap]
  simp only [legal_write, lines, List.forall_mem_append, List.forall_mem_cons, List.not_mem_nil, IsEmpty.forall_iff,
    implies_true, Markup.legal_startTag, Markup.legal_endTag, declared, named, true_and, and_true]
  rw [and_iff_right ⟨legal_counts f, legal_counts f⟩, List.forall_mem_flatMap]
  exact forall₂_congr fun _ _ => legal_caseLines

/-- The texts of an entry are legal if all messages of its verdict are. -/
theorem legal_joined {v : Verdict} {level : Level} :
    (∀ t ∈ v.joined? level, Legal t.toList) ↔ ∀ m ∈ v.messages level, Legal m.toList := by
  have separator : Legal Verdict.separator.toList := by decide
  rw [Findings.joined?_eq_ite]
  split
  next none_filed => simp [none_filed]
  next => simp only [Option.mem_some_iff, forall_eq', Markup.legal_join separator]

/-- **A report** is legal exactly if all identities and all messages are. -/
theorem legal_document_iff : Legal (document f).toList
    ↔ (∀ x ∈ f.identities, Legal x.toList) ∧ ∀ x l, ∀ m ∈ f.messages x l, Legal m.toList := by
  have entry (x : String) (v : Verdict) : (∀ line ∈ caseContent (Findings.Entry.of x v), Legal line.text)
      ↔ ∀ l, ∀ m ∈ v.messages l, Legal m.toList := by
    rw [legal_caseContent, Findings.Entry.of, legal_joined, legal_joined, legal_joined]
    exact ⟨fun ⟨⟨failures, warnings⟩, information⟩ l => by cases l <;> assumption,
      fun h => ⟨⟨h .error, h .warning⟩, h .information⟩⟩
  rw [legal_document, Findings.entries, List.forall_mem_map]
  simp only [entry]
  constructor
  · refine fun h => ⟨fun x listed => ?_, fun x l m hm => ?_⟩
    · obtain ⟨v, found⟩ := Option.isSome_iff_exists.mp (Findings.isSome_get?_iff.mpr listed)
      exact (h (x, v) (Findings.mem_toList_iff.mpr found)).1
    · rw [Findings.messages] at hm
      cases found : f.get? x with
      | none =>
        rw [found] at hm
        cases l <;> cases hm
      | some v =>
        rw [found] at hm
        exact (h (x, v) (Findings.mem_toList_iff.mpr found)).2 l m hm
  · rintro ⟨identities, messages⟩ ⟨x, v⟩ hv
    have found := Findings.mem_toList_iff.mp hv
    refine ⟨identities x (Findings.isSome_get?_iff.mp (by rw [found]; rfl)), fun l m hm => messages x l m ?_⟩
    rw [Findings.messages, found]
    exact hm

/-! ## The report of a check -/

/-- The message of a comparison is legal if the names that it lists are. -/
theorem legal_message {c : Audit.ObjectCounts.Comparison} (hc : c ∈ Audit.ObjectCounts.comparisons facts) :
    Legal c.message.toList ↔ ∀ name ∈ c.names.names, Legal name.toList := by
  have said : ∀ c ∈ Audit.ObjectCounts.comparisons facts, Legal c.what.toList := by
    simp only [Audit.ObjectCounts.comparisons, List.forall_mem_cons, List.not_mem_nil, IsEmpty.forall_iff, implies_true,
      and_true]
    decide
  have before : Legal "These objects are ".toList := by decide
  have after : Legal ": \n".toList := by decide
  have separator : Legal ", ".toList := by decide
  unfold Audit.ObjectCounts.Comparison.message
  rw [String.toList_append, String.toList_append, String.toList_append, Markup.legal_append, Markup.legal_append,
    Markup.legal_append, Markup.legal_join separator]
  exact and_iff_right ⟨⟨before, said c hc⟩, after⟩

theorem legal_countMessages : (∀ x l, ∀ m ∈ Audit.countMessages facts x l, Legal m.toList)
    ↔ ∀ name, name ∈ facts.created ∨ name ∈ facts.deleted ∨ name ∈ facts.rolledBack → Legal name.toList := by
  simp only [Audit.ObjectCounts.mem_countMessages, ← Audit.ObjectCounts.exists_comparison_iff]
  constructor
  · rintro h name ⟨c, hc, listed⟩
    exact (legal_message hc).mp (h _ _ _ ⟨c, hc, List.ne_nil_of_mem listed, rfl, rfl, rfl⟩) name listed
  · rintro h x l m ⟨c, hc, -, -, -, rfl⟩
    exact (legal_message hc).mpr fun name listed => h name ⟨c, hc, listed⟩

/-- What the built-in checks say is legal if the object names and the change request number are. -/
theorem legal_builtinMessages : (∀ x l, ∀ m ∈ Audit.builtinMessages facts x l, Legal m.toList)
    ↔ (∀ name, name ∈ facts.created ∨ name ∈ facts.deleted ∨ name ∈ facts.rolledBack → Legal name.toList)
      ∧ Legal facts.changeRequest.toList := by
  have front : Legal "The Change Record Number is: ".toList := by decide
  have number : Legal ("The Change Record Number is: " ++ facts.changeRequest).toList
      ↔ Legal facts.changeRequest.toList := by
    rw [String.toList_append, Markup.legal_append]
    exact and_iff_right front
  rw [← legal_countMessages, ← number]
  simp only [Audit.builtinMessages, List.forall_mem_append, List.mem_ite_nil_right, List.mem_singleton]
  constructor
  · intro h
    exact ⟨fun x l => (h x l).1, (h _ _).2 _ ⟨⟨rfl, rfl⟩, rfl⟩⟩
  · rintro ⟨counts, number⟩ x l
    exact ⟨counts x l, fun m ⟨_, hm⟩ => hm ▸ number⟩

section Rules

variable {o : Audit.Options} {catalog : Catalog} {collected : List (List Audit.Hit)}

/-- The identities are legal if those of the selected artifacts are. -/
theorem legal_identities : (∀ x ∈ (Audit.evaluate o facts catalog collected).identities, Legal x.toList)
    ↔ ∀ rule ∈ catalog.rules, ∀ hit ∈ Audit.hitsOf collected rule.condition, Legal (o.identity hit.artifact).toList := by
  have builtin : Legal Audit.ObjectCounts.identity.toList ∧ Legal Audit.ChangeRequest.identity.toList := by decide
  simp only [Audit.mem_identities_evaluate]
  constructor
  · exact fun h rule hr hit hh => h _ (Or.inr (Or.inr ⟨rule, hr, hit, hh, rfl⟩))
  · rintro h x (rfl | rfl | ⟨rule, hr, hit, hh, rfl⟩)
    · exact builtin.1
    · exact builtin.2
    · exact h rule hr hit hh

/-- What the rules say is legal if the messages are of those that a selected text breaks. -/
theorem legal_ruleMessages :
    (∀ x l, ∀ m ∈ catalog.rules.flatMap (Audit.ruleMessages o facts catalog collected x l), Legal m.toList)
    ↔ ∀ rule ∈ catalog.rules, ∀ hit ∈ Audit.hitsOf collected rule.condition,
        Audit.breaks facts catalog rule hit.text = true → Legal rule.message.toList := by
  simp only [List.mem_flatMap, Audit.ruleMessages, List.mem_ite_nil_right, List.mem_singleton]
  constructor
  · intro h rule hr hit hh broken
    exact h _ _ _ ⟨rule, hr, hit, hh, ⟨rfl, rfl, broken⟩, rfl⟩
  · rintro h x l m ⟨rule, hr, hit, hh, ⟨-, -, broken⟩, rfl⟩
    exact h rule hr hit hh broken

end Rules

/-- **What a report shows has to be legal.** The report of a check holds only characters that a document may hold exactly
if this is so of everything that it shows: the change request number, the names of the objects that are created, deleted
or rolled back, the identity of every artifact that is selected for a rule, and the message of every rule that a selected
text breaks. -/
theorem legal_document_run (o : Audit.Options) (corpus : Corpus) (catalog : Catalog) :
    (∀ c ∈ (document (Audit.run o corpus catalog)).toList, IsChar c)
    ↔ Legal corpus.facts.changeRequest.toList
      ∧ (∀ name, name ∈ corpus.facts.created ∨ name ∈ corpus.facts.deleted ∨ name ∈ corpus.facts.rolledBack →
          Legal name.toList)
      ∧ ∀ rule ∈ catalog.rules, ∀ hit ∈ Audit.hitsOf (Audit.collect o corpus catalog) rule.condition,
          Legal (Artifact.shortenIdentity hit.artifact o.rootMarkers).toList
            ∧ (Audit.breaks corpus.facts catalog rule hit.text = true → Legal rule.message.toList) := by
  show Legal (document (Audit.run o corpus catalog)).toList ↔ _
  rw [legal_document_iff]
  have messages : (∀ x l, ∀ m ∈ (Audit.run o corpus catalog).messages x l, Legal m.toList)
      ↔ (∀ x l, ∀ m ∈ Audit.builtinMessages corpus.facts x l, Legal m.toList)
        ∧ ∀ x l, ∀ m ∈ catalog.rules.flatMap
            (Audit.ruleMessages o corpus.facts catalog (Audit.collect o corpus catalog) x l), Legal m.toList := by
    simp only [Audit.run, Audit.messages_evaluate, List.forall_mem_append, forall_and]
  rw [messages, legal_builtinMessages, legal_ruleMessages, Audit.run, legal_identities]
  constructor
  · rintro ⟨identities, ⟨names, number⟩, rules⟩
    exact ⟨number, names, fun rule hr hit hh => ⟨identities rule hr hit hh, rules rule hr hit hh⟩⟩
  · rintro ⟨number, names, selected⟩
    exact ⟨fun rule hr hit hh => (selected rule hr hit hh).1, ⟨names, number⟩,
      fun rule hr hit hh => (selected rule hr hit hh).2⟩

/-- A package without artifacts, whose change request number ends in a control character. -/
def controlled : Corpus where
  paths := []
  content _ := none
  facts := { changeRequest := "C1234567\x01" }

/-- The control character stands in the report. -/
theorem document_controlled : '\x01' ∈ (document (Audit.run {} controlled .empty)).toList ∧ ¬IsChar '\x01' := by
  rw [document, String.toList_ofList]
  decide +kernel

end PackageAudit.Report.JUnit
