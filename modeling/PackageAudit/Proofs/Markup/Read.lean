import PackageAudit.Proofs.Failure
import PackageAudit.Proofs.Markup.Stable

/-!
# What reading leaves and what it gives

Markup is read as a token for markup, and what is left behind it is an end of the text (`isMarkup_of_readMarkup`), so
reading goes on with a shorter text. Attributes that were read have distinct names (`nodup_of_readAttributes`): a name
that stands twice is a fault.
-/

namespace PackageAudit.Markup

/-! ## What is left -/

section Left

variable {text rest before after : List Char}

theorem suffix_of_cutIn {σ : Type} [DecidableEq σ] {final state : σ} {next : σ → Char → σ}
    (h : cutIn final next state text = some (before, after)) : after <:+ text := by
  induction text generalizing before state with
  | nil => cases h
  | cons c rest ih =>
    unfold cutIn at h
    split at h
    next => cases h; exact List.suffix_cons c _
    next =>
      obtain ⟨⟨front, tail⟩, hc, he⟩ := Option.map_eq_some_iff.mp h
      cases he
      exact (ih hc).trans (List.suffix_cons c rest)

theorem suffix_of_cutFirst {needle : List Char} (h : Text.cutFirst needle text = some (before, after)) :
    after <:+ text :=
  ⟨before ++ needle, (Text.eq_of_cutFirst h).symm⟩

/-- What is left behind a document type that was read is an end of the text. -/
theorem suffix_of_readDoctype (h : readDoctype text = .ok rest) : rest <:+ text := by
  unfold readDoctype at h
  split at h
  next => cases h
  next content after hc =>
    split at h
    next =>
      split at h
      next => cases h
      next => cases h; exact suffix_of_cutIn hc
    next => cases h

/-- Whether a token stands for a piece of markup. -/
def Token.isMarkup : Token → Bool
  | .start _ | .empty _ | .close _ | .other => true
  | .text _ | .finish | .broken _ => false

/-- **Markup is read as markup**, and what is left behind it is an end of the text. -/
theorem isMarkup_of_readMarkup {token : Token} (h : readMarkup text = .ok (token, rest)) :
    token.isMarkup = true ∧ rest <:+ text := by
  have behind (c : Char) {text : List Char} (h : rest <:+ text) : rest <:+ c :: text :=
    h.trans (List.suffix_cons c text)
  unfold readMarkup at h
  split at h
  next => cases h
  next =>
    split at h
    next hc => cases h; exact ⟨rfl, behind _ (suffix_of_cutFirst hc)⟩
    next => cases h
  next =>
    split at h
    next =>
      split at h
      next hc => cases h; exact ⟨rfl, behind _ (behind _ (behind _ (suffix_of_cutFirst hc)))⟩
      next => cases h
    next => cases h
  next text =>
    split at h
    next =>
      split at h
      next hc =>
        cases h
        exact ⟨rfl, behind _ (behind _ ((suffix_of_cutFirst hc).trans (List.drop_suffix 6 text)))⟩
      next => cases h
    next => cases h
  next =>
    split at h
    next =>
      obtain ⟨after, hd, he⟩ := exists_of_map_eq_ok h
      cases he
      exact ⟨rfl, behind _ (suffix_of_readDoctype hd)⟩
    next => cases h
  next =>
    split at h
    next hc => cases h; exact ⟨rfl, behind _ (suffix_of_cutIn hc)⟩
    next => cases h
  next =>
    split at h
    next hc => split at h <;> cases h <;> exact ⟨rfl, suffix_of_cutIn hc⟩
    next => cases h

end Left

/-! ## Attributes -/

/-- An attribute that was read has a name that was not seen before. -/
theorem fresh_of_readAttribute {size offset : Nat} {seen : List (List Char × Nat)} {text : List Char}
    {a : RawAttribute} (h : readAttribute size seen offset text = .ok (some a)) : ∀ entry ∈ seen, entry.1 ≠ a.key := by
  unfold readAttribute at h
  split at h
  next => cases h
  next =>
    dsimp only at h
    split at h
    next => cases h
    next =>
      split at h
      next => cases h
      next unseen =>
        split at h
        next => cases h
        next =>
          split at h
          next =>
            split at h
            next => cases h
            next =>
              cases h
              simpa using List.find?_eq_none.mp unseen
          next => cases h
    next => cases h

/-- Attributes that were read have distinct names, none of them seen before. -/
theorem nodup_of_readAttributesFrom {size : Nat} : ∀ {fuel offset : Nat} {seen : List (List Char × Nat)}
    {text : List Char} {attributes : List (String × String)},
    readAttributesFrom size fuel seen offset text = .ok attributes →
      (attributes.map (·.1)).Nodup ∧ ∀ entry ∈ seen, String.ofList entry.1 ∉ attributes.map (·.1) := by
  intro fuel
  induction fuel with
  | zero =>
    intro offset seen text attributes h
    cases h
    simp
  | succ fuel ih =>
    intro offset seen text attributes h
    obtain ⟨found, ha, h⟩ := exists_of_bind_eq_ok h
    cases found with
    | none => cases h; simp
    | some a =>
      obtain ⟨value, -, h⟩ := exists_of_bind_eq_ok h
      obtain ⟨more, hm, h⟩ := exists_of_bind_eq_ok h
      cases h
      obtain ⟨distinct, unseen⟩ := ih hm
      have own := unseen (a.key, a.keyOffset) (List.mem_append_right _ List.mem_cons_self)
      refine ⟨List.nodup_cons.mpr ⟨own, distinct⟩, fun entry he => ?_⟩
      rw [List.map_cons, List.mem_cons, not_or]
      refine ⟨fun same => ?_, unseen entry (List.mem_append_left _ he)⟩
      exact fresh_of_readAttribute ha entry he (String.ofList_injective same)

/-- **Attributes that were read have distinct names.** -/
theorem nodup_of_readAttributes {content : List Char} {attributes : List (String × String)}
    (h : readAttributes content = .ok attributes) : (attributes.map (·.1)).Nodup :=
  (nodup_of_readAttributesFrom h).1

end PackageAudit.Markup
