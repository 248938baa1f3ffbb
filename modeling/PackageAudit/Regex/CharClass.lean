import PackageAudit.Unicode.CaseFold

/-!
# Character classes

A `CharClass` is a set of characters as a pattern writes it: ranges and properties, combined by the set
operations, and closed under case. `contains` is its meaning.
-/

namespace PackageAudit

/-- A set of characters. -/
inductive CharClass where
  | none
  | range (first last : Char)
  | satisfying (property : Char → Bool)
  | union (a b : CharClass)
  | inter (a b : CharClass)
  | diff (a b : CharClass)
  | symmDiff (a b : CharClass)
  | compl (a : CharClass)
  /-- All characters that differ only in case from a member. -/
  | anyCase (a : CharClass)
  /-- The same, where only the letters of ASCII have case. -/
  | anyCaseAscii (a : CharClass)

namespace CharClass

/-- The other case of an ASCII letter; any other character is its own. -/
def swapAsciiCase (c : Char) : Char :=
  if c.isLower then c.toUpper else c.toLower

/-- Whether a character belongs to a class. -/
def contains : CharClass → Char → Bool
  | .none, _ => false
  | .range first last, c => first ≤ c && c ≤ last
  | .satisfying property, c => property c
  | .union a b, c => a.contains c || b.contains c
  | .inter a b, c => a.contains c && b.contains c
  | .diff a b, c => a.contains c && !b.contains c
  | .symmDiff a b, c => a.contains c != b.contains c
  | .compl a, c => !a.contains c
  | .anyCase a, c => (Unicode.CaseFold.variants c).any a.contains
  | .anyCaseAscii a, c => a.contains c || a.contains (swapAsciiCase c)

def single (c : Char) : CharClass :=
  .range c c

/-- The union of the ranges of a list. -/
def ofRanges (ranges : List (Char × Char)) : CharClass :=
  ranges.foldr (fun (first, last) rest => .union (.range first last) rest) .none

@[simp] theorem contains_none (c : Char) : contains .none c = false := rfl

@[simp] theorem contains_union (a b : CharClass) (c : Char) :
    (union a b).contains c = (a.contains c || b.contains c) := rfl

@[simp] theorem contains_compl (a : CharClass) (c : Char) : (compl a).contains c = !a.contains c := rfl

/-- The class of one character holds that character and no other. -/
@[simp] theorem contains_single (a c : Char) : (single a).contains c = decide (c = a) := by
  by_cases h : c = a
  · subst h; simp [single, contains]
  · simp only [single, contains, h, decide_false, Bool.and_eq_false_iff, decide_eq_false_iff_not]
    exact Decidable.not_and_iff_not_or_not.mp fun hb => h (Char.le_antisymm hb.2 hb.1)

/-- A character is in the union of ranges exactly when it is in one of them. -/
theorem contains_ofRanges {ranges : List (Char × Char)} {c : Char} :
    (ofRanges ranges).contains c = ranges.any fun (first, last) => first ≤ c && c ≤ last := by
  induction ranges with
  | nil => rfl
  | cons r rest ih => simp [ofRanges, contains] at ih ⊢; rw [ih]

end CharClass
end PackageAudit
