import PackageAudit.Catalog.Token
import PackageAudit.Ordered.Register
import PackageAudit.Text.Search

/-!
# Findings

What a check has to say is filed under the identities of artifacts. A `Verdict` holds the messages about one
artifact, those of each level in the order in which they came; `Findings` lists the verdicts in the ascending
order of the identities. An identity that was looked at without any message is listed too.
-/

namespace PackageAudit

/-- The messages about one artifact. -/
structure Verdict where
  failures : List String := []
  warnings : List String := []
  information : List String := []
  deriving DecidableEq, Repr

namespace Verdict

/-- The messages of one level. -/
def messages (v : Verdict) : Level → List String
  | .error => v.failures
  | .warning => v.warnings
  | .information => v.information

/-- A verdict with one more message, after those of its level. -/
def add (v : Verdict) (level : Level) (message : String) : Verdict :=
  match level with
  | .error => { v with failures := v.failures ++ [message] }
  | .warning => { v with warnings := v.warnings ++ [message] }
  | .information => { v with information := v.information ++ [message] }

def hasFindings (v : Verdict) : Bool :=
  !(v.failures.isEmpty && v.warnings.isEmpty && v.information.isEmpty)

/-- Whether there is a message that blocks the build. -/
def isFailure (v : Verdict) : Bool :=
  !v.failures.isEmpty

theorem messages_add (v : Verdict) (level : Level) (message : String) (l : Level) :
    (v.add level message).messages l = v.messages l ++ if l = level then [message] else [] := by
  cases level <;> cases l <;> simp [add, messages]

/-- A verdict is determined by its messages of each level. -/
theorem ext_messages {v w : Verdict} (h : ∀ l, v.messages l = w.messages l) : v = w := by
  obtain ⟨f, wa, i⟩ := v
  obtain ⟨f', wa', i'⟩ := w
  have hf := h .error
  have hw := h .warning
  have hi := h .information
  simp only [messages] at hf hw hi
  subst hf hw hi
  rfl

end Verdict

/-- Verdicts by identity. -/
structure Findings where
  verdicts : Register Verdict := .empty

namespace Findings

def empty : Findings := {}

/-- Lists an identity, with the verdict it has already or an empty one. -/
def touch (f : Findings) (identity : String) : Findings :=
  ⟨f.verdicts.update identity (·.getD {})⟩

/-- Adds a message to the verdict on an identity. -/
def record (f : Findings) (identity : String) (level : Level) (message : String) : Findings :=
  ⟨f.verdicts.update identity fun v => (v.getD {}).add level message⟩

/-- The verdict on an identity, if it is listed. -/
def get? (f : Findings) (identity : String) : Option Verdict :=
  f.verdicts.get? identity

/-- The identities with their verdicts, in ascending order. -/
def toList (f : Findings) : List (String × Verdict) :=
  f.verdicts.entries

/-- The identities, in ascending order. -/
def identities (f : Findings) : List String :=
  f.verdicts.keys

def size (f : Findings) : Nat :=
  f.verdicts.size

def isEmpty (f : Findings) : Bool :=
  f.verdicts.entries.isEmpty

/-- How many identities have failures. -/
def failureCount (f : Findings) : Nat :=
  f.toList.countP (·.2.isFailure)

/-- How many identities have warnings. -/
def warningCount (f : Findings) : Nat :=
  f.toList.countP (!·.2.warnings.isEmpty)

/-- Whether any identity has failures. -/
def hasFailures (f : Findings) : Bool :=
  f.toList.any (·.2.isFailure)

theorem get?_touch (f : Findings) (identity i : String) :
    (f.touch identity).get? i = if i = identity then some ((f.get? identity).getD {}) else f.get? i :=
  Register.get?_update ..

theorem get?_record (f : Findings) (identity : String) (level : Level) (message i : String) :
    (f.record identity level message).get? i
      = if i = identity then some (((f.get? identity).getD {}).add level message) else f.get? i :=
  Register.get?_update ..

theorem hasFailures_iff {f : Findings} : f.hasFailures = true ↔ 0 < f.failureCount := by
  simp [hasFailures, failureCount, List.countP_pos_iff]

end Findings
end PackageAudit
