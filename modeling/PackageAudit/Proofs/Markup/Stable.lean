import PackageAudit.Proofs.Markup.Tag

/-!
# Reading markup from a longer text

What was read from the front of a text is read in the same way when more text follows (`readMarkup_append`). So a
piece of markup that is cut short cannot be read at all (`exists_readMarkup_error`): if it could, the whole piece would
be read in the same way and leave what was cut off, but it leaves nothing.
-/

namespace PackageAudit.Markup

/-- What was cut is cut at the same place when more text follows. -/
theorem cutIn_append {σ : Type} [DecidableEq σ] {final : σ} {next : σ → Char → σ} (more : List Char) :
    ∀ {text before after : List Char} {state : σ}, cutIn final next state text = some (before, after) →
      cutIn final next state (text ++ more) = some (before, after ++ more) := by
  intro text
  induction text with
  | nil => intro before after state h; cases h
  | cons c rest ih =>
    intro before after state h
    rw [List.cons_append]
    unfold cutIn at h ⊢
    split at h
    next stop =>
      rw [if_pos stop]
      cases h
      rfl
    next go =>
      rw [if_neg go]
      obtain ⟨⟨b, a⟩, hc, he⟩ := Option.map_eq_some_iff.mp h
      cases he
      simp only [ih hc, Option.map_some]

theorem cutTag_append {text before after : List Char} {quote : Option Char} (more : List Char)
    (h : cutTag quote text = some (before, after)) : cutTag quote (text ++ more) = some (before, after ++ more) :=
  cutIn_append more h

theorem readMarkup_doctype {text : List Char} (h : text.head? = some 'D' ∨ text.head? = some 'd') :
    readMarkup ('!' :: text) = (readDoctype text).map fun rest => (.other, rest) := by
  cases text with
  | nil => simp at h
  | cons c text =>
    rcases h with h | h <;> cases h <;> rfl

/-- A document type that was read is read when more text follows. -/
theorem readDoctype_append {text rest : List Char} (more : List Char) (h : readDoctype text = .ok rest) :
    readDoctype (text ++ more) = .ok (rest ++ more) := by
  unfold readDoctype at h ⊢
  split at h
  next => cases h
  next content after hc =>
    simp only [cutBalanced, cutIn_append more hc]
    split at h
    next word =>
      rw [if_pos word]
      split at h
      next => cases h
      next named =>
        rw [if_neg named]
        cases h
        rfl
    next => cases h

/-- **Markup that was read is read when more text follows.** -/
theorem readMarkup_append {text rest : List Char} {token : Token} (more : List Char)
    (h : readMarkup text = .ok (token, rest)) : readMarkup (text ++ more) = .ok (token, rest ++ more) := by
  unfold readMarkup at h
  split at h
  next => cases h
  next text notEnded =>
    split at h
    next body after hc =>
      cases h
      refine readMarkup_instruction (Text.cutFirst_append_right more hc) ?_
      cases text with
      | nil => cases hc
      | cons c text =>
        rintro ⟨⟩
        exact notEnded text rfl
    next => cases h
  next =>
    split at h
    next text =>
      split at h
      next body after hc =>
        cases h
        exact readMarkup_comment (Text.cutFirst_append_right more hc)
      next => cases h
    next => cases h
  next text =>
    split at h
    next opened =>
      obtain ⟨text, rfl⟩ := List.isPrefixOf_iff_prefix.mp opened
      split at h
      next body after hc =>
        cases h
        rw [List.cons_append, List.cons_append, List.append_assoc]
        exact readMarkup_characterData (Text.cutFirst_append_right more hc)
      next => cases h
    next => cases h
  next text notDash notSquare =>
    split at h
    next word =>
      have word' : (text ++ more).head? = some 'D' ∨ (text ++ more).head? = some 'd' := by
        rw [List.head?_append]
        rcases word with hw | hw <;> simp [hw]
      rw [List.cons_append, readMarkup_doctype word']
      cases hd : readDoctype text with
      | error => rw [hd] at h; cases h
      | ok after =>
        rw [hd] at h
        cases h
        rw [readDoctype_append more hd]
        rfl
    next => cases h
  next text =>
    split at h
    next content after hc =>
      cases h
      simp only [List.cons_append, readMarkup, cutTag_append more hc]
    next => cases h
  next _ _ notQuest _ _ notBang notSlash =>
    cases text with
    | nil => cases h
    | cons c text =>
      have head : c ≠ '?' ∧ c ≠ '!' ∧ c ≠ '/' := by
        refine ⟨?_, ?_, ?_⟩ <;> rintro rfl
        · exact notQuest text rfl
        · exact notBang text rfl
        · exact notSlash text rfl
      split at h
      next content after hc =>
        have hr : after = rest
            ∧ token = if content.getLast? = some '/' then .empty content.dropLast else .start content := by
          split at h <;> cases h <;> simp_all
        obtain ⟨rfl, rfl⟩ := hr
        exact readMarkup_of_head head (cutTag_append more hc)
      next => cases h

/-- **A piece of markup that is cut short cannot be read.** -/
theorem exists_readMarkup_error {piece part : List Char} {token : Token} (whole : readMarkup piece = .ok (token, []))
    (short : part <+: piece) (proper : part ≠ piece) : ∃ fault, readMarkup part = .error fault := by
  obtain ⟨more, rfl⟩ := short
  cases h : readMarkup part with
  | error fault => exact ⟨fault, rfl⟩
  | ok read =>
    have longer := readMarkup_append more h
    rw [whole, Except.ok.injEq, Prod.mk.injEq] at longer
    obtain ⟨-, rfl⟩ := List.append_eq_nil_iff.mp longer.2.symm
    exact absurd (List.append_nil part).symm proper

end PackageAudit.Markup
