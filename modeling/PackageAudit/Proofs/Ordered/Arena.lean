import PackageAudit.Ordered.Register
import PackageAudit.Proofs.Ordered.Roster

/-!
# Rosters kept in two parts

An arena keeps definitions one after the other and, apart from them, a table with the number of each name. A
definition is replaced at the number that the table gives, which fails if there is no definition with that number.

The table is in step with the definitions (`Arena.Holds`) as long as definitions are only put in: then the arena
holds what a roster holds, no replacement fails, and the number that is answered is the number that the name has
(`Holds.put`). The table of such an arena gives the numbers of the definitions with a name and no others
(`Holds.coupled`).
-/

namespace PackageAudit

/-- Definitions, and the number of each name. -/
structure Arena (α : Type) where
  items : List α := []
  numbers : Register Nat := Register.empty

namespace Arena

variable {α : Type} {name : α → String}

/-- Adds a definition and answers its number: it replaces the definition with the number that the table has for its
name, or comes last. -/
def put (name : α → String) (s : Arena α) (a : α) : Option (Nat × Arena α) :=
  match s.numbers.get? (name a) with
  | some id => if id < s.items.length then some (id, { s with items := s.items.set id a }) else none
  | none =>
    some (s.items.length,
      { items := s.items ++ [a], numbers := s.numbers.update (name a) fun _ => s.items.length })

/-- The definitions are those of a roster, and the table has the numbers of their names. -/
structure Holds (s : Arena α) (r : Roster α name) : Prop where
  items : s.items = r.items
  numbers : ∀ n, s.numbers.get? n = r.id? n

/-- The table gives a number for a name exactly if the definition with that number has that name. -/
def Coupled (name : α → String) (s : Arena α) : Prop :=
  ∀ n id, s.numbers.get? n = some id ↔ ∃ a, s.items[id]? = some a ∧ name a = n

theorem Holds.coupled {s : Arena α} {r : Roster α name} (h : s.Holds r) : s.Coupled name := by
  intro n id
  rw [h.numbers, h.items]
  exact Roster.id?_eq_some_iff

theorem holds_empty : Holds ({} : Arena α) ({} : Roster α name) :=
  ⟨rfl, fun _ => rfl⟩

/-- **Table and definitions stay in step**: a definition is put in without failure, and the number that is answered
is the number of its name. -/
theorem Holds.put {s : Arena α} {r : Roster α name} (h : s.Holds r) (a : α) :
    ∃ id s', s.put name a = some (id, s') ∧ s'.Holds (r.put a) ∧ (r.put a).id? (name a) = some id := by
  have put_items : (r.put a).items = Roster.putItems name r.items a := rfl
  unfold Arena.put
  rw [h.numbers]
  cases hn : r.id? (name a) with
  -- the table stays as it is, and so do the numbers of a roster when a definition is replaced
  | some id =>
    have inside : id < s.items.length := h.items ▸ Roster.lt_size_of_id? hn
    have known : r.items.findIdx? (name · == name a) = some id := hn
    refine ⟨id, _, if_pos inside, ⟨?_, fun n => ?_⟩, Roster.id?_put_of_id? a hn⟩
    · rw [put_items, Roster.putItems, known, h.items]
    · rw [h.numbers, Roster.id?_put, if_neg]
      rintro ⟨rfl, hnone⟩
      simp [hn] at hnone
  | none =>
    have fresh : r.items.findIdx? (name · == name a) = none := hn
    refine ⟨_, _, rfl, ⟨?_, fun n => ?_⟩, ?_⟩
    · rw [put_items, Roster.putItems, fresh, h.items]
    · rw [Register.get?_update, h.numbers, h.items, Roster.id?_put]
      by_cases hname : n = name a
      · subst hname
        rw [if_pos rfl, if_pos ⟨rfl, hn⟩]
        rfl
      · rw [if_neg hname, if_neg fun hk => hname hk.1.symm]
    · rw [Roster.id?_put, if_pos ⟨rfl, hn⟩, h.items]
      rfl

end Arena
end PackageAudit
