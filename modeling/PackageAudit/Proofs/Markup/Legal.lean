import Mathlib.Data.List.Basic
import PackageAudit.Markup.Writer
import PackageAudit.Text.Search

/-!
# Texts that a document may hold

A document may hold every character but most of the controls and two that stand for none (`IsChar`). Writing neither
takes a character out nor lets one in: entities are made of characters that are allowed, and all but the five special
ones are written as they are, so a written text is legal exactly if the text is (`legal_escape`), and a tag if its name
and its attributes are (`legal_startTag`, `legal_emptyTag`, `legal_endTag`).
-/

namespace PackageAudit.Markup

/-- Whether a document may hold a character. -/
def IsChar (c : Char) : Prop :=
  c.toNat = 0x9 ∨ c.toNat = 0xA ∨ c.toNat = 0xD ∨ (0x20 ≤ c.toNat ∧ c.toNat ≤ 0xD7FF)
    ∨ (0xE000 ≤ c.toNat ∧ c.toNat ≤ 0xFFFD) ∨ (0x10000 ≤ c.toNat ∧ c.toNat ≤ 0x10FFFF)

instance : DecidablePred IsChar := fun _ => inferInstanceAs (Decidable (_ ∨ _))

/-- Whether a document may hold a text. -/
def Legal (text : List Char) : Prop := ∀ c ∈ text, IsChar c

instance : DecidablePred Legal := List.decidableBAll IsChar

variable {α : Type} {name : String} {attributes : List (String × String)}

@[simp] theorem legal_nil : Legal [] := List.forall_mem_nil _

@[simp] theorem legal_cons {c : Char} {text : List Char} : Legal (c :: text) ↔ IsChar c ∧ Legal text :=
  List.forall_mem_cons

@[simp] theorem legal_append {a b : List Char} : Legal (a ++ b) ↔ Legal a ∧ Legal b :=
  List.forall_mem_append

@[simp] theorem legal_flatMap {items : List α} {text : α → List Char} :
    Legal (items.flatMap text) ↔ ∀ a ∈ items, Legal (text a) :=
  List.forall_mem_flatMap

theorem legal_replicate {c : Char} (h : IsChar c) (n : Nat) : Legal (List.replicate n c) :=
  fun _ hc => List.eq_of_mem_replicate hc ▸ h

theorem legal_join {separator : String} (legal : Legal separator.toList) :
    ∀ {texts : List String}, Legal (Text.join separator texts).toList ↔ ∀ text ∈ texts, Legal text.toList
  | [] => by simp [Text.join]
  | [text] => by simp [Text.join]
  | text :: next :: rest => by simp [Text.join, legal, @legal_join _ legal (next :: rest)]

theorem legal_toString (n : Nat) : Legal (toString n).toList := by
  intro c hc
  rw [Nat.toString_eq_ofList_toDigits, String.toList_ofList] at hc
  have digit : c.isDigit = true := Nat.isDigit_of_mem_toDigits (by decide) (by decide) hc
  rw [Char.isDigit, Bool.and_eq_true, decide_eq_true_iff, decide_eq_true_iff] at digit
  have low : 0x30 ≤ c.toNat := digit.1
  have high : c.toNat ≤ 0x39 := digit.2
  unfold IsChar
  omega

/-! ## Written texts -/

/-- An entity is legal, and any other character stands for itself. -/
theorem legal_escapeChar {c : Char} : Legal (escapeChar c) ↔ IsChar c := by
  unfold escapeChar
  split
  case h_6 => simp
  all_goals decide

/-- **A written text** is legal exactly if the text is. -/
@[simp] theorem legal_escape {text : List Char} : Legal (escape text) ↔ Legal text := by
  rw [escape, legal_flatMap]
  exact forall₂_congr fun _ _ => legal_escapeChar

theorem legal_tagContent : Legal (tagContent name attributes)
    ↔ Legal name.toList ∧ ∀ attr ∈ attributes, Legal attr.1.toList ∧ Legal attr.2.toList := by
  have quoted : IsChar ' ' ∧ IsChar '=' ∧ IsChar '"' := by decide
  simp [tagContent, writeAttribute, quoted]

theorem legal_startTag : Legal (startTag name attributes)
    ↔ Legal name.toList ∧ ∀ attr ∈ attributes, Legal attr.1.toList ∧ Legal attr.2.toList := by
  have marks : IsChar '<' ∧ IsChar '>' := by decide
  simp [startTag, marks, legal_tagContent]

theorem legal_emptyTag : Legal (emptyTag name attributes)
    ↔ Legal name.toList ∧ ∀ attr ∈ attributes, Legal attr.1.toList ∧ Legal attr.2.toList := by
  have marks : IsChar '<' ∧ IsChar '/' ∧ IsChar '>' := by decide
  simp [emptyTag, marks, legal_tagContent]

theorem legal_endTag : Legal (endTag name) ↔ Legal name.toList := by
  have marks : IsChar '<' ∧ IsChar '/' ∧ IsChar '>' := by decide
  simp [endTag, marks]

end PackageAudit.Markup
