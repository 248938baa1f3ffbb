import PackageAudit.Findings.Basic

/-!
# Entries for reports

A report has one entry for each identity, in their order. An entry holds the messages of each level joined to
one text; a level without messages has no text, which is not the same as an empty one.
-/

namespace PackageAudit

/-- What a report says about one identity. -/
structure Findings.Entry where
  name : String
  failure : Option String
  warning : Option String
  information : Option String
  deriving DecidableEq, Repr

namespace Verdict

/-- What stands between two messages that are joined. -/
def separator : String := " _BR_ "

/-- The messages of a level as one text, if there are any. -/
def joined? (v : Verdict) (level : Level) : Option String :=
  match v.messages level with
  | [] => none
  | messages => some (Text.join separator messages)

theorem joined?_eq_none_iff {v : Verdict} {level : Level} : v.joined? level = none ↔ v.messages level = [] := by
  unfold joined?
  split
  · next h => simp [h]
  · next h => simpa using h

end Verdict

namespace Findings

/-- The entry of an identity. -/
def Entry.of (identity : String) (v : Verdict) : Entry where
  name := identity
  failure := v.joined? .error
  warning := v.joined? .warning
  information := v.joined? .information

/-- The entries, in ascending order of the identities. -/
def entries (f : Findings) : List Entry :=
  f.toList.map fun (identity, v) => Entry.of identity v

@[simp] theorem length_entries (f : Findings) : f.entries.length = f.size := by
  simp [entries, toList, size, Register.size]

end Findings
end PackageAudit
