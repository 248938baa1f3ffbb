import PackageAudit.Ordered.NameSet

/-!
# Corpora

A corpus is what a check looks at: the paths of artifacts in a fixed order, what can be read at each path, and
a few facts about the package as a whole.
-/

namespace PackageAudit

/-- What is known about a package as a whole. -/
structure Facts where
  changeRequest : String := ""
  keywords : List String := []
  created : NameSet := .empty
  deleted : NameSet := .empty
  rolledBack : NameSet := .empty

/-- A package as a check sees it. -/
structure Corpus where
  paths : List String
  /-- The text of an artifact; none where it cannot be read. -/
  content : String → Option (List Char)
  facts : Facts := {}

namespace Corpus

/-- A corpus in which some paths cannot be read. -/
def withUnreadable (c : Corpus) (unreadable : List String) : Corpus :=
  { c with content := fun path => if unreadable.contains path then none else c.content path }

end Corpus
end PackageAudit
