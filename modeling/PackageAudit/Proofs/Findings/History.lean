import Mathlib.Data.Set.Card
import PackageAudit.Proofs.Findings.Messages
import PackageAudit.Proofs.Text.ByteOrder

/-!
# Findings as histories

Findings come from a sequence of operations, each of which touches an identity or records a message. What is recorded
in such a history for one identity and level is a part of it, in the same order (`recorded`). One operation lists its
identity and adds what it records (`mem_identities_apply`, `messages_apply`), so the findings list what the history
mentions and file what it records (`mem_identities_ofHistory`, `messages_ofHistory`).

Everything else follows: the numbers are numbers of identities with records (`failureCount_eq_ncard`,
`warningCount_eq_ncard`), an entry tells the records of its identity (`entries_eq`), and two histories come to the same
findings if they mention the same identities and record the same under each of them and each level, however these
records are interleaved (`ofHistory_reflects`).
-/

namespace PackageAudit.Findings

/-- An operation on findings. -/
inductive Filing where
  | touch (identity : String)
  | record (identity : String) (level : Level) (message : String)
  deriving DecidableEq, Repr

namespace Filing

/-- The identity that an operation mentions. -/
def identity : Filing → String
  | touch identity => identity
  | record identity _ _ => identity

/-- The message that an operation records for an identity and a level. -/
def messageFor? (x : String) (l : Level) : Filing → Option String
  | touch _ => none
  | record identity level message => if x = identity ∧ l = level then some message else none

def apply (f : Findings) : Filing → Findings
  | touch identity => f.touch identity
  | record identity level message => f.record identity level message

end Filing

/-- The findings after a history, from none. -/
def ofHistory (history : List Filing) : Findings :=
  history.foldl Filing.apply empty

/-- Whether a history mentions an identity. -/
def Mentions (history : List Filing) (x : String) : Prop :=
  ∃ filing ∈ history, filing.identity = x

/-- The messages that a history records for an identity and a level. -/
def recorded (history : List Filing) (x : String) (l : Level) : List String :=
  history.filterMap (Filing.messageFor? x l)

variable {f : Findings} {history history' : List Filing} {x : String} {l : Level}

/-! ## What is listed and filed -/

theorem mem_identities_apply (filing : Filing) :
    x ∈ (Filing.apply f filing).identities ↔ filing.identity = x ∨ x ∈ f.identities := by
  rw [eq_comm (a := filing.identity)]
  cases filing with
  | touch identity => exact mem_identities_touch
  | record identity level message => exact mem_identities_record

/-- An operation files what it records, after what was filed before. -/
theorem messages_apply (filing : Filing) (f : Findings) :
    (Filing.apply f filing).messages x l = f.messages x l ++ (filing.messageFor? x l).toList := by
  cases filing with
  | touch identity => simp [Filing.apply, Filing.messageFor?]
  | record identity level message =>
    rw [Filing.apply, messages_record, Filing.messageFor?]
    split <;> rfl

theorem mem_identities_ofHistory : x ∈ (ofHistory history).identities ↔ Mentions history x := by
  have listed := mem_identities_foldl (f := empty) fun filing (_ : filing ∈ history) f =>
    mem_identities_apply (x := x) (f := f) filing
  simpa [ofHistory, Mentions] using listed

theorem messages_ofHistory : (ofHistory history).messages x l = recorded history x l := by
  have filed := messages_foldl (f := empty) history fun filing f => messages_apply (x := x) (l := l) filing f
  rw [ofHistory, filed, messages_empty, List.nil_append, recorded, List.filterMap_eq_flatMap_toList]

theorem Mentions.of_recorded (h : recorded history x l ≠ []) : Mentions history x := by
  obtain ⟨message, hm⟩ := List.exists_mem_of_ne_nil _ h
  obtain ⟨filing, hf, hr⟩ := List.mem_filterMap.mp hm
  refine ⟨filing, hf, ?_⟩
  cases filing with
  | touch identity => cases hr
  | record identity level message =>
    have same : x = identity ∧ l = level := by
      by_contra other
      simp [Filing.messageFor?, other] at hr
    exact same.1.symm

/-! ## Numbers -/

theorem ncard_eq_countP (f : Findings) (p : String → Bool) :
    {x | x ∈ f.identities ∧ p x}.ncard = f.identities.countP p := by
  have nodup : (f.identities.filter p).Nodup := (nodup_of_ascending f.ascending_identities).filter p
  have same : {x | x ∈ f.identities ∧ p x} = ((f.identities.filter p).toFinset : Set String) := by
    ext x
    simp
  rw [same, Set.ncard_coe_finset, List.toFinset_card_of_nodup nodup, List.countP_eq_length_filter]

/-- The identities with records of one level are counted among the listed ones. -/
theorem countP_identities_ofHistory (history : List Filing) (l : Level) :
    ((ofHistory history).identities.countP fun x => !((ofHistory history).messages x l).isEmpty)
      = {x | recorded history x l ≠ []}.ncard := by
  rw [← ncard_eq_countP]
  congr 1
  ext x
  rw [Set.mem_ofPred_eq, Set.mem_ofPred_eq, messages_ofHistory, mem_identities_ofHistory]
  constructor
  · rintro ⟨-, h⟩
    simpa using h
  · intro h
    exact ⟨.of_recorded h, by simpa using h⟩

theorem failureCount_eq_ncard (history : List Filing) :
    (ofHistory history).failureCount = {x | recorded history x .error ≠ []}.ncard := by
  rw [failureCount_eq, countP_identities_ofHistory]

theorem warningCount_eq_ncard (history : List Filing) :
    (ofHistory history).warningCount = {x | recorded history x .warning ≠ []}.ncard := by
  rw [warningCount_eq, countP_identities_ofHistory]

theorem size_eq_ncard (history : List Filing) : (ofHistory history).size = {x | Mentions history x}.ncard := by
  have all := ncard_eq_countP (ofHistory history) fun _ => true
  simp only [mem_identities_ofHistory, and_true, List.countP_true] at all
  rw [size_eq, all]

/-! ## Entries -/

/-- Joined texts are the texts with the separator between them. -/
theorem join_eq_intercalate (separator : String) (texts : List String) :
    Text.join separator texts = separator.intercalate texts := by
  induction texts with
  | nil => rfl
  | cons text texts ih =>
    cases texts with
    | nil => simp [Text.join]
    | cons next texts =>
      rw [Text.join, ih, String.intercalate_cons_cons]
      simp

/-- The text of a level: none if nothing is on record, which differs from a record of the empty message. -/
def joined? (messages : List String) : Option String :=
  if messages = [] then none else some (" _BR_ ".intercalate messages)

/-- What a history says about an identity. -/
def entryFor (history : List Filing) (x : String) : Entry where
  name := x
  failure := joined? (recorded history x .error)
  warning := joined? (recorded history x .warning)
  information := joined? (recorded history x .information)

/-- An entry joins the messages that are filed under its identity. -/
theorem entry_of_get? {v : Verdict} (h : (ofHistory history).get? x = some v) :
    Entry.of x v = entryFor history x := by
  have text (l : Level) : v.joined? l = joined? (recorded history x l) := by
    rw [← messages_ofHistory, messages, h, joined?_eq_ite, join_eq_intercalate]
    rfl
  rw [Entry.of, text, text, text, entryFor]

theorem entries_eq (history : List Filing) :
    (ofHistory history).entries = (ofHistory history).identities.map (entryFor history) := by
  unfold entries identities Register.keys
  rw [List.map_map]
  refine List.map_congr_left fun ⟨x, v⟩ hv => ?_
  exact entry_of_get? (mem_toList_iff.mp hv)

/-! ## Histories -/

/-- Whether findings tell what a history says: which identities it mentions, each once and in the order of their
bytes, what it records about them, how many of them have an error or a warning on record, and the entries. -/
structure Reflects (history : List Filing) (f : Findings) : Prop where
  listed : ∀ x, x ∈ f.identities ↔ Mentions history x
  ascending : f.identities.Pairwise fun x y => Text.Utf8.encode x.toList < Text.Utf8.encode y.toList
  filed : ∀ x l, f.messages x l = recorded history x l
  size : f.size = {x | Mentions history x}.ncard
  failureCount : f.failureCount = {x | recorded history x .error ≠ []}.ncard
  warningCount : f.warningCount = {x | recorded history x .warning ≠ []}.ncard
  hasFailures : f.hasFailures = true ↔ 0 < f.failureCount
  failureCount_le : f.failureCount ≤ f.size
  warningCount_le : f.warningCount ≤ f.size
  entries : f.entries = f.identities.map (entryFor history)

/-- **Findings reflect their history.** They are the same for two histories exactly if these mention the same
identities and record the same under each identity and level. -/
theorem ofHistory_reflects (history : List Filing) : Reflects history (ofHistory history)
    ∧ ∀ history', ofHistory history' = ofHistory history
      ↔ (∀ x, Mentions history' x ↔ Mentions history x)
        ∧ ∀ x l, recorded history' x l = recorded history x l := by
  refine ⟨?_, fun history' => ⟨fun same => ⟨fun x => ?_, fun x l => ?_⟩, fun ⟨mentioned, said⟩ => ?_⟩⟩
  · exact {
      listed := fun x => mem_identities_ofHistory
      ascending := (ascending_identities _).imp Text.Utf8.lt_iff_encode_lt.mp
      filed := fun x l => messages_ofHistory
      size := size_eq_ncard history
      failureCount := failureCount_eq_ncard history
      warningCount := warningCount_eq_ncard history
      hasFailures := hasFailures_iff
      failureCount_le := List.countP_le_length
      warningCount_le := List.countP_le_length
      entries := entries_eq history }
  · rw [← mem_identities_ofHistory, ← mem_identities_ofHistory, same]
  · rw [← messages_ofHistory, ← messages_ofHistory, same]
  · refine ext_messages (eq_of_ascending (ascending_identities _) (ascending_identities _) fun x => ?_) fun x l => ?_
    · rw [mem_identities_ofHistory, mem_identities_ofHistory, mentioned]
    · rw [messages_ofHistory, messages_ofHistory, said]

/-- An empty message is a message. -/
example : (ofHistory [.record "b" .error "", .touch "a"]).entries
    = [⟨"a", none, none, none⟩, ⟨"b", some "", none, none⟩] := by
  decide

end PackageAudit.Findings
