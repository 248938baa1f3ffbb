import Mathlib.Data.List.Forall2
import PackageAudit.Findings.Entry
import PackageAudit.Proofs.Ordered.Ascending

/-!
# Messages filed under an identity

`Findings.messages` is the view of findings that their operations are described by: what is filed under an identity
at a level, nothing for an identity that is not listed. Touching an identity lists it and files nothing
(`mem_identities_touch`, `messages_touch`); recording a message lists its identity and puts the message after those
of its identity and level, and nowhere else (`mem_identities_record`, `messages_record`).

The verdict on an identity is whether it is listed and what is filed under it (`get?_congr`), and the verdicts are all
that there is to findings (`ext_messages`).

What one step of a run files is enough to know what the run files (`mem_identities_foldl`, `messages_foldl`). There are
failures if a message is filed at the level of errors (`hasFailures_iff_messages`).

If messages only change their order (`Shuffled`), no number changes (`Shuffled.sameCounts`).

The entries present the verdicts in their order (`forall₂_presents`).
-/

namespace PackageAudit.Findings

variable {f : Findings} {identity x : String} {level l : Level} {message : String}

/-- The messages filed under an identity at a level, in the order in which they came. -/
def messages (f : Findings) (identity : String) (level : Level) : List String :=
  ((f.get? identity).getD {}).messages level

@[simp] theorem identities_empty : empty.identities = [] := rfl

@[simp] theorem messages_empty (identity : String) (level : Level) : empty.messages identity level = [] := by
  cases level <;> rfl

@[simp] theorem mem_identities_touch : x ∈ (f.touch identity).identities ↔ x = identity ∨ x ∈ f.identities :=
  Register.mem_keys_update

@[simp] theorem mem_identities_record :
    x ∈ (f.record identity level message).identities ↔ x = identity ∨ x ∈ f.identities :=
  Register.mem_keys_update

@[simp] theorem messages_touch : (f.touch identity).messages x l = f.messages x l := by
  unfold messages
  rw [get?_touch]
  split
  · next h => subst h; rfl
  · rfl

/-- A recorded message comes last under its identity and level and stands nowhere else. -/
theorem messages_record : (f.record identity level message).messages x l
    = f.messages x l ++ if x = identity ∧ l = level then [message] else [] := by
  unfold messages
  rw [get?_record]
  by_cases h : x = identity
  · subst h
    simp [Verdict.messages_add]
  · simp [h]

theorem ascending_identities (f : Findings) : f.identities.Pairwise (· < ·) :=
  f.verdicts.ascending

theorem isSome_get?_iff : (f.get? identity).isSome ↔ identity ∈ f.identities :=
  Register.isSome_get?_iff

/-- A verdict stands in the list of findings if it is the verdict on its identity. -/
theorem mem_toList_iff {v : Verdict} : (identity, v) ∈ f.toList ↔ f.get? identity = some v :=
  Register.mem_entries_iff

/-- The verdict on an identity is given by whether it is listed and what is filed under it. -/
theorem get?_congr {g : Findings} (listed : identity ∈ f.identities ↔ identity ∈ g.identities)
    (filed : ∀ l, f.messages identity l = g.messages identity l) : f.get? identity = g.get? identity := by
  rw [← isSome_get?_iff, ← isSome_get?_iff] at listed
  unfold messages at filed
  cases hf : f.get? identity with
  | none =>
    rw [hf] at listed
    exact (Option.not_isSome_iff_eq_none.mp fun h => by simpa using listed.mpr h).symm
  | some v =>
    obtain ⟨w, hw⟩ := Option.isSome_iff_exists.mp (listed.mp (by rw [hf]; rfl))
    rw [hf, hw] at filed
    rw [hw]
    exact congrArg some (Verdict.ext_messages filed)

/-- Findings are determined by the identities that are listed and the messages that are filed. -/
theorem ext_messages {g : Findings} (listed : f.identities = g.identities)
    (filed : ∀ x l, f.messages x l = g.messages x l) : f = g := by
  obtain ⟨v⟩ := f
  obtain ⟨w⟩ := g
  exact congrArg Findings.mk (Register.ext_get? fun x => get?_congr (by rw [listed]) (filed x))

/-- There are failures if a message is filed at the level of errors under some identity. -/
theorem hasFailures_iff_messages : f.hasFailures = true ↔ ∃ x, f.messages x .error ≠ [] := by
  have failing (v : Verdict) : v.isFailure = true ↔ v.messages .error ≠ [] := by
    simp [Verdict.isFailure, Verdict.messages]
  unfold hasFailures messages
  rw [List.any_eq_true]
  constructor
  · rintro ⟨⟨x, v⟩, hv, hf⟩
    refine ⟨x, ?_⟩
    rw [mem_toList_iff.mp hv]
    exact (failing v).mp hf
  · rintro ⟨x, hx⟩
    cases hv : f.get? x with
    | none => exact absurd (by rw [hv]; rfl) hx
    | some v =>
      rw [hv] at hx
      exact ⟨(x, v), mem_toList_iff.mpr hv, (failing v).mpr hx⟩

/-! ## Runs -/

section Runs

variable {α : Type} {step : Findings → α → Findings}

theorem mem_identities_foldl {named : α → Prop} {items : List α} {f : Findings}
    (h : ∀ a ∈ items, ∀ f, x ∈ (step f a).identities ↔ named a ∨ x ∈ f.identities) :
    x ∈ (items.foldl step f).identities ↔ (∃ a ∈ items, named a) ∨ x ∈ f.identities := by
  induction items generalizing f with
  | nil => simp
  | cons a items ih =>
    rw [List.foldl_cons, ih fun b hb => h b (List.mem_cons_of_mem _ hb), h a List.mem_cons_self]
    simp only [List.mem_cons, exists_eq_or_imp]
    rw [or_left_comm, or_assoc]

theorem messages_foldl {said : α → List String} (items : List α) {f : Findings}
    (h : ∀ a f, (step f a).messages x l = f.messages x l ++ said a) :
    (items.foldl step f).messages x l = f.messages x l ++ items.flatMap said := by
  induction items generalizing f with
  | nil => simp
  | cons a items ih => rw [List.foldl_cons, ih, h, List.flatMap_cons, List.append_assoc]

end Runs

/-! ## Numbers -/

theorem size_eq (f : Findings) : f.size = f.identities.length :=
  (List.length_map _).symm

/-- An identity has failures if a message is filed at the level of errors. -/
theorem failureCount_eq (f : Findings) :
    f.failureCount = f.identities.countP fun x => !(f.messages x .error).isEmpty := by
  unfold failureCount identities Register.keys
  rw [List.countP_map]
  refine List.countP_congr fun ⟨x, v⟩ hv => ?_
  simp [messages, mem_toList_iff.mp hv, Verdict.isFailure, Verdict.messages]

/-- An identity has warnings if a message is filed at the level of warnings. -/
theorem warningCount_eq (f : Findings) :
    f.warningCount = f.identities.countP fun x => !(f.messages x .warning).isEmpty := by
  unfold warningCount identities Register.keys
  rw [List.countP_map]
  refine List.countP_congr fun ⟨x, v⟩ hv => ?_
  simp [messages, mem_toList_iff.mp hv, Verdict.messages]

/-- Whether findings differ only in the order of the messages under each identity and level. -/
structure Shuffled (f g : Findings) : Prop where
  identities : g.identities = f.identities
  messages : ∀ x l, (g.messages x l).Perm (f.messages x l)

/-- Whether findings have the same numbers: of identities, of those with failures, and of those with warnings. -/
structure SameCounts (f g : Findings) : Prop where
  size : g.size = f.size
  failureCount : g.failureCount = f.failureCount
  warningCount : g.warningCount = f.warningCount
  hasFailures : g.hasFailures = f.hasFailures

theorem Shuffled.sameCounts {f g : Findings} (h : Shuffled f g) : SameCounts f g := by
  have failures : g.failureCount = f.failureCount := by
    rw [failureCount_eq, failureCount_eq, h.identities]
    exact List.countP_congr fun x _ => by rw [(h.messages x .error).isEmpty_eq]
  refine ⟨?_, failures, ?_, ?_⟩
  · rw [size_eq, size_eq, h.identities]
  · rw [warningCount_eq, warningCount_eq, h.identities]
    exact List.countP_congr fun x _ => by rw [(h.messages x .warning).isEmpty_eq]
  · rw [Bool.eq_iff_iff, hasFailures_iff, hasFailures_iff, failures]

/-! ## Entries -/

/-- An entry presents the verdict on an identity: a level has a text if there are messages of that level, and the text
joins them. -/
structure Entry.Presents (e : Entry) (identity : String) (v : Verdict) : Prop where
  name : e.name = identity
  failure : e.failure = if v.failures = [] then none else some (Text.join Verdict.separator v.failures)
  warning : e.warning = if v.warnings = [] then none else some (Text.join Verdict.separator v.warnings)
  information : e.information = if v.information = [] then none else some (Text.join Verdict.separator v.information)

theorem joined?_eq_ite (v : Verdict) (level : Level) :
    v.joined? level
      = if v.messages level = [] then none else some (Text.join Verdict.separator (v.messages level)) := by
  unfold Verdict.joined?
  split
  next h => rw [if_pos h]
  next h => rw [if_neg h]

/-- The entries present the verdicts, in the order of the identities. -/
theorem forall₂_presents (f : Findings) :
    List.Forall₂ (fun (e : Entry) (p : String × Verdict) => e.Presents p.1 p.2) f.entries f.toList := by
  rw [entries, List.forall₂_map_left_iff, List.forall₂_same]
  rintro ⟨identity, v⟩ -
  exact ⟨rfl, joined?_eq_ite v .error, joined?_eq_ite v .warning, joined?_eq_ite v .information⟩

def twoMessages : Findings :=
  (empty.record "view" .error "first").record "view" .error "second"

/-- A failure of one message that reads as two. -/
def oneMessage : Findings :=
  empty.record "view" .error "first _BR_ second"

theorem entries_twoMessages : twoMessages.entries = oneMessage.entries := by decide

end PackageAudit.Findings
