import PackageAudit.Proofs.Audit.Run
import PackageAudit.Proofs.Text.ByteOrder

/-!
# What the comparison of object names says

The names that a package creates, deletes and rolls back are compared, and each comparison that lists a name files one
message (`said`) with all of them in the order of their bytes (`Lists`). Under the identity of the comparison these
messages come after those that are there already, at the level of errors (`messages_check_error`) and at that of
information (`messages_check_information`), and nowhere else is anything filed (`get?_check_of_ne`).

Main statement: `check_filed`. No failure is added exactly if the names that are rolled back are those that are created
or deleted, and every name is listed somewhere.
-/

namespace PackageAudit.Audit.ObjectCounts

variable {facts : Facts} {f : Findings} {x : String} {l : Level}

/-! ## Listed names -/

/-- Whether names are those with a property, each once, in the ascending order of their bytes. -/
structure Lists (names : List String) (holds : String → Prop) : Prop where
  mem : ∀ name, name ∈ names ↔ holds name
  ascending : (names.map fun name => Text.Utf8.encode name.toList).Pairwise (· < ·)

theorem lists_names (s : NameSet) : Lists s.names (· ∈ s) where
  mem _ := Iff.rfl
  ascending := List.pairwise_map.mpr (s.ascending.imp Text.Utf8.lt_iff_encode_lt.mp)

theorem Lists.congr {names : List String} {holds holds' : String → Prop} (h : Lists names holds)
    (same : ∀ name, holds name ↔ holds' name) : Lists names holds' where
  mem name := (h.mem name).trans (same name)
  ascending := h.ascending

theorem Lists.eq_singleton {names : List String} {holds : String → Prop} {name : String} (h : Lists names holds)
    (only : ∀ n, holds n ↔ n = name) : names = [name] := by
  have ascending : names.Pairwise (· < ·) :=
    (List.pairwise_map.mp h.ascending).imp Text.Utf8.lt_iff_encode_lt.mpr
  refine eq_of_ascending ascending (List.pairwise_singleton _ _) fun n => ?_
  rw [h.mem, only, List.mem_singleton]

/-- What is said of names: nothing if there are none, and else one message with all of them. -/
def said (what : String) (names : List String) : List String :=
  if names = [] then [] else ["These objects are " ++ what ++ ": \n" ++ Text.join ", " names]

theorem said_eq_nil_iff {what : String} {names : List String} : said what names = [] ↔ names = [] := by
  unfold said
  split <;> simp [*]

/-! ## The comparisons -/

/-- The names that are created and not rolled back. -/
def unrolledCreated (facts : Facts) : NameSet := facts.created.diff facts.rolledBack

/-- The names that are created and rolled back. -/
def rolledCreated (facts : Facts) : NameSet := facts.created.inter facts.rolledBack

/-- The names that are deleted and not rolled back. -/
def unrolledDeleted (facts : Facts) : NameSet := facts.deleted.diff facts.rolledBack

/-- The names that are deleted and rolled back. -/
def rolledDeleted (facts : Facts) : NameSet := facts.deleted.inter facts.rolledBack

/-- The names that are rolled back and neither created nor deleted. -/
def stray (facts : Facts) : NameSet := facts.rolledBack.diff (facts.created.union facts.deleted)

/-- A comparison that lists a name files what is said of its names. -/
theorem flatMap_filter_message (comparisons : List Comparison) (l : Level) :
    ((comparisons.filter (!·.names.names.isEmpty)).flatMap fun c => if l = c.level then [c.message] else [])
      = comparisons.flatMap fun c => if l = c.level then said c.what c.names.names else [] := by
  induction comparisons with
  | nil => rfl
  | cons c rest ih =>
    rw [List.flatMap_cons, ← ih, List.filter_cons]
    by_cases empty : c.names.names = []
    · simp [said, empty]
    · have own : said c.what c.names.names = [c.message] := if_neg empty
      rw [own, if_pos (by simp [empty]), List.flatMap_cons]

/-- What is filed at a level under the identity of the comparisons is what is said by those of that level. -/
theorem countMessages_identity (facts : Facts) (l : Level) : countMessages facts identity l
    = (comparisons facts).flatMap fun c => if l = c.level then said c.what c.names.names else [] := by
  rw [← flatMap_filter_message]
  unfold countMessages
  simp only [true_and]

/-- A message is filed for a comparison that lists a name, under the identity of the comparisons and at its level. -/
theorem mem_countMessages {message : String} : message ∈ countMessages facts x l
    ↔ ∃ c ∈ comparisons facts, c.names.names ≠ [] ∧ x = identity ∧ l = c.level ∧ message = c.message := by
  simp only [countMessages, List.mem_flatMap, List.mem_filter, List.mem_ite_nil_right, List.mem_singleton,
    Bool.not_eq_true', List.isEmpty_eq_false_iff, and_assoc]

/-- The names that the comparisons list are those that are compared. -/
theorem exists_comparison_iff {name : String} : (∃ c ∈ comparisons facts, name ∈ c.names)
    ↔ name ∈ facts.created ∨ name ∈ facts.deleted ∨ name ∈ facts.rolledBack := by
  simp only [comparisons, List.exists_mem_cons_iff, List.not_mem_nil, false_and, exists_false, or_false,
    NameSet.mem_diff, NameSet.mem_inter, NameSet.mem_union]
  tauto

theorem messages_check_error : (check facts f).messages identity .error = f.messages identity .error
    ++ (said "created but not rolled back" (unrolledCreated facts).names
      ++ said "deleted but not rolled back" (unrolledDeleted facts).names
      ++ said "not created or deleted but are rolled back" (stray facts).names) := by
  rw [messages_objectCounts, countMessages_identity]
  simp [comparisons, unrolledCreated, unrolledDeleted, stray]

theorem messages_check_information : (check facts f).messages identity .information = f.messages identity .information
    ++ (said "created and rolled back" (rolledCreated facts).names
      ++ said "deleted and rolled back" (rolledDeleted facts).names) := by
  rw [messages_objectCounts, countMessages_identity]
  simp [comparisons, rolledCreated, rolledDeleted]

theorem messages_check_warning : (check facts f).messages identity .warning = f.messages identity .warning := by
  rw [messages_objectCounts, countMessages_identity]
  simp [comparisons]

theorem get?_check_of_ne (h : x ≠ identity) : (check facts f).get? x = f.get? x := by
  refine Findings.get?_congr ?_ fun l => ?_
  · rw [mem_identities_objectCounts, or_iff_right h]
  · rw [messages_objectCounts]
    simp [countMessages, h]

/-- If what is deleted is what is rolled back, a failure can only be about what is created. -/
theorem messages_check_error_of_deleted (same : facts.deleted = facts.rolledBack) :
    (check facts f).messages identity .error = f.messages identity .error
      ++ said "created but not rolled back" (unrolledCreated facts).names := by
  have unrolled : (unrolledDeleted facts).names = [] := by
    refine List.eq_nil_iff_forall_not_mem.mpr fun name listed => ?_
    obtain ⟨deleted, kept⟩ := NameSet.mem_diff.mp (NameSet.mem_def.mpr listed)
    exact kept (same ▸ deleted)
  have none_stray : (stray facts).names = [] := by
    refine List.eq_nil_iff_forall_not_mem.mpr fun name listed => ?_
    obtain ⟨back, untouched⟩ := NameSet.mem_diff.mp (NameSet.mem_def.mpr listed)
    exact untouched (NameSet.mem_union.mpr (Or.inr (same ▸ back)))
  have nothing (what : String) : said what [] = [] := if_pos rfl
  rw [messages_check_error, unrolled, none_stray, nothing, nothing, List.append_nil, List.append_nil]

/-! ## What is listed -/

/-- No failure is filed exactly if the names that are rolled back are those that are created or deleted. -/
theorem balanced_iff : said "created but not rolled back" (unrolledCreated facts).names
      ++ said "deleted but not rolled back" (unrolledDeleted facts).names
      ++ said "not created or deleted but are rolled back" (stray facts).names = []
    ↔ ∀ name, name ∈ facts.rolledBack ↔ name ∈ facts.created ∨ name ∈ facts.deleted := by
  have none_listed (s : NameSet) : s.names = [] ↔ ∀ name, name ∉ s := List.eq_nil_iff_forall_not_mem
  simp only [List.append_eq_nil_iff, said_eq_nil_iff, none_listed, unrolledCreated, unrolledDeleted, stray,
    NameSet.mem_diff, NameSet.mem_union]
  constructor
  · rintro ⟨⟨created, deleted⟩, stray⟩ name
    refine ⟨fun back => ?_, ?_⟩
    · by_contra untouched
      exact stray name ⟨back, untouched⟩
    · rintro (touched | touched)
      · by_contra unrolled
        exact created name ⟨touched, unrolled⟩
      · by_contra unrolled
        exact deleted name ⟨touched, unrolled⟩
  · intro same
    refine ⟨⟨?_, ?_⟩, ?_⟩
    · rintro name ⟨touched, unrolled⟩
      exact unrolled ((same name).mpr (Or.inl touched))
    · rintro name ⟨touched, unrolled⟩
      exact unrolled ((same name).mpr (Or.inr touched))
    · rintro name ⟨back, untouched⟩
      exact untouched ((same name).mp back)

/-- **What the comparison files**, whatever was filed before: under its identity, which it lists, the failures and the
information that it has to say come after those that are there, and there is no further warning; nothing changes under
any other identity. The messages list the names that are created and not rolled back, deleted and not rolled back, and
rolled back only, as failures, and those that are created and rolled back, and deleted and rolled back, as information;
each name once, in the order of the bytes, and no message is empty. So there is a further failure exactly if the names
that are rolled back are not those that are created or deleted, and each of the names is listed. -/
theorem check_filed (facts : Facts) (f : Findings) :
    ∃ unrolledCreated rolledCreated unrolledDeleted rolledDeleted stray : List String,
      Lists unrolledCreated (fun name => name ∈ facts.created ∧ name ∉ facts.rolledBack)
      ∧ Lists rolledCreated (fun name => name ∈ facts.created ∧ name ∈ facts.rolledBack)
      ∧ Lists unrolledDeleted (fun name => name ∈ facts.deleted ∧ name ∉ facts.rolledBack)
      ∧ Lists rolledDeleted (fun name => name ∈ facts.deleted ∧ name ∈ facts.rolledBack)
      ∧ Lists stray (fun name => name ∈ facts.rolledBack ∧ ¬(name ∈ facts.created ∨ name ∈ facts.deleted))
      ∧ (check facts f).messages ".Object Counts" .error = f.messages ".Object Counts" .error
          ++ (said "created but not rolled back" unrolledCreated ++ said "deleted but not rolled back" unrolledDeleted
            ++ said "not created or deleted but are rolled back" stray)
      ∧ (check facts f).messages ".Object Counts" .information = f.messages ".Object Counts" .information
          ++ (said "created and rolled back" rolledCreated ++ said "deleted and rolled back" rolledDeleted)
      ∧ (check facts f).messages ".Object Counts" .warning = f.messages ".Object Counts" .warning
      ∧ (∀ x, x ∈ (check facts f).identities ↔ x = ".Object Counts" ∨ x ∈ f.identities)
      ∧ (∀ x, x ≠ ".Object Counts" → (check facts f).get? x = f.get? x)
      ∧ ((check facts f).messages ".Object Counts" .error = f.messages ".Object Counts" .error
          ↔ ∀ name, name ∈ facts.rolledBack ↔ name ∈ facts.created ∨ name ∈ facts.deleted)
      ∧ ∀ name, name ∈ unrolledCreated ++ rolledCreated ++ unrolledDeleted ++ rolledDeleted ++ stray
          ↔ name ∈ facts.created ∨ name ∈ facts.deleted ∨ name ∈ facts.rolledBack := by
  refine ⟨(unrolledCreated facts).names, (rolledCreated facts).names, (unrolledDeleted facts).names,
    (rolledDeleted facts).names, (stray facts).names, (lists_names _).congr fun _ => NameSet.mem_diff,
    (lists_names _).congr fun _ => NameSet.mem_inter, (lists_names _).congr fun _ => NameSet.mem_diff,
    (lists_names _).congr fun _ => NameSet.mem_inter, (lists_names _).congr fun name => ?_, messages_check_error,
    messages_check_information, messages_check_warning, fun _ => mem_identities_objectCounts,
    fun _ => get?_check_of_ne, ?_, fun name => ?_⟩
  · rw [stray, NameSet.mem_diff, NameSet.mem_union]
  · rw [← balanced_iff]
    show (check facts f).messages identity .error = f.messages identity .error ↔ _
    rw [messages_check_error, List.append_right_eq_self]
  · simp only [List.mem_append, ← NameSet.mem_def, unrolledCreated, rolledCreated, unrolledDeleted, rolledDeleted,
      stray, NameSet.mem_diff, NameSet.mem_inter, NameSet.mem_union]
    tauto

end PackageAudit.Audit.ObjectCounts
