import PackageAudit.Proofs.Catalog.Lookup
import PackageAudit.Proofs.Markup.Read

/-!
# Edited documents

The reader goes through a document piece by piece: it reads a piece of markup, collects the entry that it may be, and
goes on with other open elements, or stops at a fault (`readPiece`, `ofTokens_readPiece`). Two texts on which it goes
through the same pieces, but for the attributes of entries, are edits of one another (`Edited`): the attributes of an
entry may stand in any order, and there may be more that the entry ignores.

By induction on an edit, reading both texts ends in the same way (`Edited.agree`): with documents whose entries agree,
or with the same fault. So they have the same catalog or the same error, where only the position of a fault in the
markup is moved by the bytes that were added in front of it (`parse_edited`). It is moved even where just one attribute
was added that nobody looks up (`parse_unclosed_ne`).
-/

namespace PackageAudit

open Markup

namespace Document

variable {sectionName : String} {opened : List String}

/-! ## Piece by piece -/

/-- What the tag of an element adds, given the open elements: an entry of a group, or nothing. -/
def entryOf (sectionName : String) (opened : List String) (content : List Char) :
    Except Fault (Option (Group × Entry)) :=
  match groupOf? sectionName opened with
  | none => .ok none
  | some group => (fun entry => some (group, entry)) <$> readEntry content

/-- What a token does, given the open elements: the entry that it adds, and the elements that are open behind it; or the
fault at which reading stops. -/
def step (sectionName : String) (opened : List String) :
    Token → Except Fault (Option (Group × Entry) × List String)
  | .text _ => .ok (none, opened)
  | .start content =>
    (fun found => (found, String.ofList (tagName content) :: opened)) <$> entryOf sectionName opened content
  | .empty content => (fun found => (found, opened)) <$> entryOf sectionName opened content
  | .close name =>
    match opened with
    | [] => .error (.unmatchedEnd (String.ofList name))
    | expected :: outer =>
      if expected = String.ofList name then .ok (none, outer)
      else .error (.mismatchedEnd expected (String.ofList name))
  | .other => .ok (none, opened)
  | .broken fault => .error fault
  | .finish =>
    match opened with
    | [] => .ok (none, [])
    | name :: _ => .error (.unclosedElement name)

/-- A document with one more entry in front of its group, if there is one. -/
def add (found : Option (Group × Entry)) (d : Document) : Document :=
  match found with
  | none => d
  | some (group, entry) => d.cons group entry

/-- The place that counts for the token behind this one, if it is not its own. -/
def placeBehind (offset : Nat) : Token → Option Nat
  | .text chars => if chars.all isSpace then some offset else none
  | _ => none

/-- A tag adds its entry in front of those behind it. -/
theorem collect_eq (content : List Char) (position : Nat) (rest : Except Malformed Document) :
    (match groupOf? sectionName opened with
      | none => rest
      | some group => do
        let entry ← (readEntry content).mapError (⟨position, ·⟩)
        rest.map (cons group entry))
      = match entryOf sectionName opened content with
        | .error fault => .error ⟨position, fault⟩
        | .ok found => rest.map (add found) := by
  unfold entryOf
  cases groupOf? sectionName opened with
  | none => cases rest <;> rfl
  | some group => cases readEntry content <;> rfl

/-- Reading goes on as the first token says. -/
theorem ofTokens_cons {token : Token} (unfinished : token ≠ .finish) (position : Option Nat) (offset : Nat)
    (rest : List (Nat × Token)) :
    ofTokens sectionName opened position ((offset, token) :: rest)
      = match step sectionName opened token with
        | .error fault => .error ⟨position.getD offset, fault⟩
        | .ok (found, opened') =>
          (ofTokens sectionName opened' (placeBehind offset token) rest).map (add found) := by
  have passed (result : Except Malformed Document) : result.map (add none) = result := by
    cases result <;> rfl
  cases token with
  | text chars => exact (passed _).symm
  | other => exact (passed _).symm
  | broken fault => rfl
  | finish => exact absurd rfl unfinished
  | start content =>
    refine (collect_eq content _ _).trans ?_
    simp only [step]
    cases entryOf sectionName opened content <;> rfl
  | empty content =>
    refine (collect_eq content _ _).trans ?_
    simp only [step]
    cases entryOf sectionName opened content <;> rfl
  | close name =>
    cases opened with
    | nil => rfl
    | cons expected outer =>
      simp only [ofTokens, step]
      split
      · exact (passed _).symm
      · rfl

/-- Reads a piece of markup behind its `<`, given the open elements: the entry that it adds, the elements that are open
behind it, and what is left; or the fault at which reading stops. -/
def readPiece (sectionName : String) (opened : List String) (text : List Char) :
    Except Fault (Option (Group × Entry) × List String × List Char) := do
  let (token, rest) ← readMarkup text
  let (found, opened') ← step sectionName opened token
  .ok (found, opened', rest)

/-- What was read as a piece was read as markup, and the reader accepted it. -/
theorem exists_token_of_readPiece {text rest : List Char} {found : Option (Group × Entry)} {opened' : List String}
    (h : readPiece sectionName opened text = .ok (found, opened', rest)) :
    ∃ token, readMarkup text = .ok (token, rest) ∧ step sectionName opened token = .ok (found, opened') := by
  obtain ⟨⟨token, left⟩, hr, h⟩ := exists_of_bind_eq_ok h
  obtain ⟨⟨f, o⟩, hs, h⟩ := exists_of_bind_eq_ok h
  cases h
  exact ⟨token, hr, hs⟩

/-- What is left behind a piece is no longer than the piece with it, in characters and in bytes. -/
theorem rest_le_of_readPiece {text rest : List Char} {found : Option (Group × Entry)} {opened' : List String}
    (h : readPiece sectionName opened text = .ok (found, opened', rest)) :
    rest.length ≤ text.length ∧ Text.Utf8.size rest ≤ Text.Utf8.size text := by
  obtain ⟨token, hr, -⟩ := exists_token_of_readPiece h
  obtain ⟨piece, rfl⟩ := (isMarkup_of_readMarkup hr).2
  rw [List.length_append, Text.Utf8.size_append]
  exact ⟨Nat.le_add_left _ _, Nat.le_add_left _ _⟩

/-- **Reading goes on piece by piece.** -/
theorem ofTokens_readPiece (position : Option Nat) (offset fuel : Nat) (text : List Char) :
    ofTokens sectionName opened position (tokensFrom (fuel + 1) offset ('<' :: text))
      = match readPiece sectionName opened text with
        | .error fault => .error ⟨position.getD offset, fault⟩
        | .ok (found, opened', rest) =>
          (ofTokens sectionName opened' none
            (tokensFrom fuel (offset + (1 + (Text.Utf8.size text - Text.Utf8.size rest))) rest)).map (add found) := by
  unfold readPiece
  cases hr : readMarkup text with
  | error fault =>
    rw [tokensFrom, if_pos rfl, hr]
    rfl
  | ok read =>
    obtain ⟨token, rest⟩ := read
    have markup := (isMarkup_of_readMarkup hr).1
    have unfinished : token ≠ .finish := by
      rintro rfl
      cases markup
    have own : placeBehind offset token = none := by
      cases token with
      | text chars => cases markup
      | _ => rfl
    rw [tokensFrom_markup hr, ofTokens_cons unfinished, own]
    show _ = match (step sectionName opened token >>= fun (found, opened') => .ok (found, opened', rest)) with
      | .error fault => _
      | .ok (found, opened', rest) => _
    cases step sectionName opened token <;> rfl

/-- Reading passes over a text in front of markup, or at the end. A text of blanks is where the next token counts. -/
theorem ofTokens_run {chars text : List Char} (hc : '<' ∉ chars) (ht : ∀ c ∈ text.head?, c = '<')
    (position : Option Nat) (offset : Nat) {fuel : Nat} (hf : (chars ++ text).length < fuel) :
    ∃ fuel', text.length < fuel' ∧ ofTokens sectionName opened position (tokensFrom fuel offset (chars ++ text))
      = ofTokens sectionName opened (if chars = [] then position else placeBehind offset (.text chars))
          (tokensFrom fuel' (offset + Text.Utf8.size chars) text) := by
  cases chars with
  | nil => exact ⟨fuel, hf, rfl⟩
  | cons c chars =>
    obtain ⟨fuel, rfl⟩ : ∃ n, fuel = n + 1 := ⟨fuel - 1, by omega⟩
    refine ⟨fuel, by simp at hf; omega, ?_⟩
    rw [tokensFrom_text hc ht, if_neg (List.cons_ne_nil c chars)]
    rfl

/-! ## Entries have distinct names -/

theorem distinct_of_entryOf {content : List Char} {group : Group} {e : Entry}
    (h : entryOf sectionName opened content = .ok (some (group, e))) : e.keys.Nodup := by
  unfold entryOf at h
  split at h
  next => cases h
  next =>
    obtain ⟨entry, hr, he⟩ := exists_of_map_eq_ok h
    cases he
    obtain ⟨attributes, ha, rfl⟩ := exists_of_map_eq_ok hr
    exact nodup_of_readAttributes ha

/-- An entry that a token adds has distinct names. -/
theorem distinct_of_step {token : Token} {group : Group} {e : Entry} {opened' : List String}
    (h : step sectionName opened token = .ok (some (group, e), opened')) : e.keys.Nodup := by
  cases token with
  | start content | empty content =>
    obtain ⟨found, hf, he⟩ := exists_of_map_eq_ok h
    cases he
    exact distinct_of_entryOf hf
  | close name =>
    cases opened with
    | nil => cases h
    | cons expected outer =>
      simp only [step] at h
      split at h <;> cases h
  | finish => cases opened <;> cases h
  | text | other | broken => cases h

/-- Whether all entries of a document have distinct names. -/
def Distinct (d : Document) : Prop :=
  ∀ e, e ∈ d.whens ∨ e ∈ d.actions ∨ e ∈ d.rules → e.keys.Nodup

/-- One more entry with distinct names leaves the names distinct. -/
theorem Distinct.add {d : Document} (hd : d.Distinct) {found : Option (Group × Entry)}
    (hf : ∀ group e, found = some (group, e) → e.keys.Nodup) : (d.add found).Distinct := by
  cases found with
  | none => exact hd
  | some p =>
    obtain ⟨group, entry⟩ := p
    have own := hf group entry rfl
    intro e he
    have cases : e = entry ∨ e ∈ d.whens ∨ e ∈ d.actions ∨ e ∈ d.rules := by
      cases group <;> simp only [Document.add, cons, List.mem_cons] at he <;> tauto
    rcases cases with rfl | he
    · exact own
    · exact hd e he

/-- **The entries of a document have distinct names.** -/
theorem distinct_of_ofTokens : ∀ {tokens : List (Nat × Token)} {opened : List String} {position : Option Nat}
    {d : Document}, ofTokens sectionName opened position tokens = .ok d → d.Distinct
  | [], opened, position, d, h => by
    cases h
    simp [Distinct]
  | (offset, token) :: rest, opened, position, d, h => by
    by_cases unfinished : token = .finish
    · subst unfinished
      cases opened with
      | nil => cases h; simp [Distinct]
      | cons => cases h
    · rw [ofTokens_cons unfinished] at h
      split at h
      next => cases h
      next found opened' hs =>
        obtain ⟨d', hr, rfl⟩ := exists_of_map_eq_ok h
        exact (distinct_of_ofTokens hr).add fun group e he => distinct_of_step (he ▸ hs)

/-! ## Edits -/

/-- Whether what one tag adds is an edit of what another one adds: nothing for both, or an entry of the same group and
an edit of it. -/
inductive EditedEntry : Option (Group × Entry) → Option (Group × Entry) → Prop
  | none : EditedEntry none none
  | some (group : Group) {e e' : Entry} (h : e.IsEdit e') : EditedEntry (some (group, e)) (some (group, e'))

/-- The bytes that stand in a text in front of the rest. -/
def taken (text rest : List Char) : Int :=
  Text.Utf8.size text - Text.Utf8.size rest

/-- Whether one text is an edit of another, where some elements are open: the reader goes through the same pieces in
both, but for attributes of entries, up to the end or to a fault. The number is that of the bytes that the edit adds in
front of the place where reading ends. -/
inductive Edited (sectionName : String) : List String → Int → List Char → List Char → Prop
  /-- Both texts end. -/
  | nil (opened : List String) : Edited sectionName opened 0 [] []
  /-- A character outside markup is the same. -/
  | char {opened : List String} {gain : Int} {text text' : List Char} {c : Char} (outside : c ≠ '<')
    (h : Edited sectionName opened gain text text') : Edited sectionName opened gain (c :: text) (c :: text')
  /-- The reader accepts a piece of markup and goes on with the same open elements. -/
  | markup {opened opened' : List String} {gain : Int} {text text' rest rest' : List Char}
    {found found' : Option (Group × Entry)} (read : readPiece sectionName opened text = .ok (found, opened', rest))
    (read' : readPiece sectionName opened text' = .ok (found', opened', rest')) (edited : EditedEntry found found')
    (h : Edited sectionName opened' gain rest rest') :
    Edited sectionName opened (taken text' rest' - taken text rest + gain) ('<' :: text) ('<' :: text')
  /-- The reader stops with the same fault, so what stands behind it makes no difference. -/
  | fault {opened : List String} {text text' : List Char} {fault : Fault}
    (stops : readPiece sectionName opened text = .error fault)
    (stops' : readPiece sectionName opened text' = .error fault) :
    Edited sectionName opened 0 ('<' :: text) ('<' :: text')

theorem EditedEntry.refl : ∀ found, EditedEntry found found
  | .none => .none
  | .some (group, e) => .some group (.refl e)

/-- A text is an edit of itself. -/
theorem Edited.refl (opened : List String) (text : List Char) : Edited sectionName opened 0 text text := by
  induction hn : text.length using Nat.strongRecOn generalizing opened text with
  | _ n ih =>
    subst hn
    cases text with
    | nil => exact .nil opened
    | cons c text =>
      by_cases hc : c = '<'
      · subst hc
        cases hr : readPiece sectionName opened text with
        | error fault => exact .fault hr hr
        | ok piece =>
          obtain ⟨found, opened', rest⟩ := piece
          have shorter : rest.length < ('<' :: text).length := Nat.lt_succ_of_le (rest_le_of_readPiece hr).1
          have whole := Edited.markup hr hr (.refl found) (ih _ shorter opened' rest rfl)
          rwa [Int.sub_self, Int.add_zero] at whole
      · exact .char hc (ih _ (Nat.lt_succ_self _) opened text rfl)

theorem readPiece_append {text rest : List Char} {found : Option (Group × Entry)} {opened' : List String}
    (more : List Char) (h : readPiece sectionName opened text = .ok (found, opened', rest)) :
    readPiece sectionName opened (text ++ more) = .ok (found, opened', rest ++ more) := by
  obtain ⟨token, hr, hs⟩ := exists_token_of_readPiece h
  rw [readPiece, readMarkup_append more hr]
  show (step sectionName opened token >>= fun (found, opened') => .ok (found, opened', rest ++ more)) = _
  rw [hs]
  rfl

/-- A piece may be kept, or replaced by one that adds an edit of its entry, in front of texts that are edits. -/
theorem Edited.piece {piece piece' text text' : List Char} {found found' : Option (Group × Entry)}
    {opened' : List String} {gain : Int} (read : readPiece sectionName opened piece = .ok (found, opened', []))
    (read' : readPiece sectionName opened piece' = .ok (found', opened', [])) (edited : EditedEntry found found')
    (h : Edited sectionName opened' gain text text') :
    Edited sectionName opened (Text.Utf8.size piece' - Text.Utf8.size piece + gain) ('<' :: (piece ++ text))
      ('<' :: (piece' ++ text')) := by
  have whole := Edited.markup (readPiece_append text read) (readPiece_append text' read') edited h
  simp only [taken, Text.Utf8.size_append, List.nil_append, Int.natCast_add, Int.add_sub_cancel] at whole
  exact whole

/-- A piece without an entry may stand in front of texts that are edits. -/
theorem Edited.kept {piece text text' : List Char} {opened' : List String} {gain : Int}
    (read : readPiece sectionName opened piece = .ok (none, opened', []))
    (h : Edited sectionName opened' gain text text') :
    Edited sectionName opened gain ('<' :: (piece ++ text)) ('<' :: (piece ++ text')) := by
  have whole := Edited.piece read read .none h
  rwa [Int.sub_self, Int.zero_add] at whole

/-! ## Reading both texts -/

/-- Whether two places are the same but for the bytes that were added in front. -/
def Later (gain : Int) : Option Nat → Option Nat → Prop :=
  Option.Rel fun p p' => (p' : Int) = p + gain

/-- Whether two results of reading are the same but for an edit: documents whose entries agree, or the same fault at a
place that is moved by the bytes that were added in front. -/
inductive Agree (gain : Int) : Except Malformed Document → Except Malformed Document → Prop
  | ok {d d' : Document} (h : d.SameLookups d') : Agree gain (.ok d) (.ok d')
  | error {p p' : Nat} (fault : Fault) (h : (p' : Int) = p + gain) : Agree gain (.error ⟨p, fault⟩) (.error ⟨p', fault⟩)

theorem Agree.of_ok {gain : Int} {d : Document} {result : Except Malformed Document} (h : Agree gain (.ok d) result) :
    ∃ d', result = .ok d' ∧ d.SameLookups d' := by
  cases h with
  | @ok _ d' same => exact ⟨d', rfl, same⟩

theorem Agree.of_error {gain : Int} {m : Malformed} {result : Except Malformed Document}
    (h : Agree gain (.error m) result) :
    ∃ position : Nat, (position : Int) = m.position + gain ∧ result = .error ⟨position, m.fault⟩ := by
  cases h with
  | @error _ position fault moved => exact ⟨position, moved, rfl⟩

theorem Later.getD {gain : Int} {position position' : Option Nat} {offset offset' : Nat}
    (h : Later gain position position') (ho : (offset' : Int) = offset + gain) :
    ((position'.getD offset' : Nat) : Int) = (position.getD offset : Nat) + gain := by
  cases h with
  | some h => exact h
  | none => exact ho

theorem Later.behind {before : Int} {position position' : Option Nat} {offset offset' : Nat} (chars : List Char)
    (h : Later before position position') (ho : (offset' : Int) = offset + before) :
    Later before (if chars = [] then position else placeBehind offset (.text chars))
      (if chars = [] then position' else placeBehind offset' (.text chars)) := by
  split
  next => exact h
  next =>
    by_cases blank : chars.all isSpace
    · simp only [placeBehind, if_pos blank]
      exact .some ho
    · simp only [placeBehind, if_neg blank]
      exact .none

/-- Documents whose entries agree do so with one more entry and an edit of it. -/
theorem sameLookups_add {d d' : Document} (h : d.SameLookups d') {found found' : Option (Group × Entry)}
    (edited : EditedEntry found found') (distinct : ∀ group e, found' = some (group, e) → e.keys.Nodup) :
    (d.add found).SameLookups (d'.add found') := by
  cases edited with
  | none => exact h
  | some group edit =>
    have own := edit.sameLookups (distinct group _ rfl)
    cases group with
    | whens => exact ⟨.cons own h.whens, h.actions, h.rules⟩
    | actions => exact ⟨h.whens, .cons own h.actions, h.rules⟩
    | rules => exact ⟨h.whens, h.actions, .cons own h.rules⟩

/-- Results that agree do so with one more entry and an edit of it. -/
theorem Agree.add {gain : Int} {result result' : Except Malformed Document} (h : Agree gain result result')
    {found found' : Option (Group × Entry)} (edited : EditedEntry found found')
    (distinct : ∀ group e, found' = some (group, e) → e.keys.Nodup) :
    Agree gain (result.map (Document.add found)) (result'.map (Document.add found')) := by
  cases h with
  | ok h => exact .ok (sameLookups_add h edited distinct)
  | error fault h => exact .error fault h

/-- **Reading a text and an edit of it** ends in the same way. The characters in `chars` are those between the last tag
and the texts, and `before` is the number of the bytes that were added in front of them. -/
theorem Edited.agree {gain : Int} {text text' : List Char} (h : Edited sectionName opened gain text text') :
    ∀ {chars : List Char} {fuel fuel' offset offset' : Nat} {position position' : Option Nat} {before : Int},
      '<' ∉ chars → (chars ++ text).length < fuel → (chars ++ text').length < fuel' →
      (offset' : Int) = offset + before → Later before position position' →
      Agree (before + gain) (ofTokens sectionName opened position (tokensFrom fuel offset (chars ++ text)))
        (ofTokens sectionName opened position' (tokensFrom fuel' offset' (chars ++ text'))) := by
  induction h with
  | nil opened =>
    intro chars fuel fuel' offset offset' position position' before hc hf hf' ho hp
    obtain ⟨fuel, hf, run⟩ := ofTokens_run hc (by simp) position offset hf
    obtain ⟨fuel', hf', run'⟩ := ofTokens_run hc (by simp) position' offset' hf'
    obtain ⟨fuel, rfl⟩ : ∃ n, fuel = n + 1 := ⟨fuel - 1, by simp at hf; omega⟩
    obtain ⟨fuel', rfl⟩ : ∃ n, fuel' = n + 1 := ⟨fuel' - 1, by simp at hf'; omega⟩
    rw [run, run']
    cases opened with
    | nil => exact .ok ⟨.nil, .nil, .nil⟩
    | cons name outer =>
      refine .error _ ?_
      rw [Int.add_zero]
      exact (hp.behind chars ho).getD (by omega)
  | @char opened gain text text' c outside h ih =>
    intro chars fuel fuel' offset offset' position position' before hc hf hf' ho hp
    rw [List.append_cons chars c text] at hf ⊢
    rw [List.append_cons chars c text'] at hf' ⊢
    refine ih ?_ hf hf' ho hp
    rw [List.mem_append, List.mem_singleton, not_or]
    exact ⟨hc, Ne.symm outside⟩
  | @markup opened opened' gain text text' rest rest' found found' read read' edited h ih =>
    intro chars fuel fuel' offset offset' position position' before hc hf hf' ho hp
    obtain ⟨fuel, hf, run⟩ := ofTokens_run hc (by simp) position offset hf
    obtain ⟨fuel', hf', run'⟩ := ofTokens_run hc (by simp) position' offset' hf'
    obtain ⟨fuel, rfl⟩ : ∃ n, fuel = n + 1 := ⟨fuel - 1, by omega⟩
    obtain ⟨fuel', rfl⟩ : ∃ n, fuel' = n + 1 := ⟨fuel' - 1, by omega⟩
    have distinct : ∀ group e, found' = some (group, e) → e.keys.Nodup := by
      rintro group e rfl
      obtain ⟨token, -, hs⟩ := exists_token_of_readPiece read'
      exact distinct_of_step hs
    obtain ⟨shorter, smaller⟩ := rest_le_of_readPiece read
    obtain ⟨shorter', smaller'⟩ := rest_le_of_readPiece read'
    rw [run, run', ofTokens_readPiece, ofTokens_readPiece, read, read', ← Int.add_assoc]
    refine Agree.add (ih List.not_mem_nil ?_ ?_ ?_ .none) edited distinct
    · simp only [List.nil_append, List.length_cons] at hf ⊢
      omega
    · simp only [List.nil_append, List.length_cons] at hf' ⊢
      omega
    · unfold taken
      omega
  | @fault opened text text' fault stops stops' =>
    intro chars fuel fuel' offset offset' position position' before hc hf hf' ho hp
    obtain ⟨fuel, hf, run⟩ := ofTokens_run hc (by simp) position offset hf
    obtain ⟨fuel', hf', run'⟩ := ofTokens_run hc (by simp) position' offset' hf'
    obtain ⟨fuel, rfl⟩ : ∃ n, fuel = n + 1 := ⟨fuel - 1, by omega⟩
    obtain ⟨fuel', rfl⟩ : ∃ n, fuel' = n + 1 := ⟨fuel' - 1, by omega⟩
    rw [run, run', ofTokens_readPiece, ofTokens_readPiece, stops, stops', Int.add_zero]
    exact .error fault ((hp.behind chars ho).getD (by omega))

/-- A text that no byte order mark begins is read from its first character. -/
theorem tokens_cons {c : Char} (h : c ≠ '\uFEFF') (text : List Char) :
    tokens (c :: text) = tokensFrom ((c :: text).length + 1) 0 (c :: text) := by
  unfold tokens
  split
  next he => exact absurd (List.cons.inj he).1 h
  next => rfl

/-- Reading a whole document and an edit of it ends in the same way. -/
theorem agree_read {text text' : String} {gain : Int} (h : Edited sectionName [] gain text.toList text'.toList) :
    Agree gain (read text sectionName) (read text' sectionName) := by
  have whole {text text' : List Char} (h : Edited sectionName [] gain text text') :
      Agree gain (ofTokens sectionName [] none (tokensFrom (text.length + 1) 0 text))
        (ofTokens sectionName [] none (tokensFrom (text'.length + 1) 0 text')) := by
    rw [← Int.zero_add gain]
    exact h.agree List.not_mem_nil (Nat.lt_succ_self _) (Nat.lt_succ_self _) (Int.add_zero 0).symm .none
  unfold read
  generalize text.toList = text at h ⊢
  generalize text'.toList = text' at h ⊢
  -- a byte order mark in front is the same character in both texts
  cases h with
  | nil => exact whole (.nil [])
  | @char _ _ text text' c outside h =>
    by_cases mark : c = '\uFEFF'
    · subst mark
      exact whole h
    · rw [tokens_cons mark, tokens_cons mark]
      exact whole (.char outside h)
  | markup read read' edited h => exact whole (.markup read read' edited h)
  | fault stops stops' => exact whole (.fault stops stops')

end Document

namespace Catalog

/-- **Edited documents have the same catalog.** If a text is a document, every edit of it has the same catalog or the
same error; if it is not, every edit of it has the same fault at a position that is moved by the bytes that are added in
front of it. In an edit the attributes of entries may stand in any order, and there may be more of them that are never
looked up, or that name a kind behind one that is named.

Each action of a catalog stands for the last entry with its name, and has its kind and its data from the first key that
the entry has. -/
theorem parse_edited (text sectionName : String) :
    (∀ (text' : String) (gain : Int), Document.Edited sectionName [] gain text.toList text'.toList →
      (∀ d, Document.read text sectionName = .ok d → parse text' sectionName = parse text sectionName)
      ∧ ∀ m, Document.read text sectionName = .error m →
        parse text sectionName = .error (.malformed m.position m.fault)
        ∧ ∃ position : Nat, (position : Int) = m.position + gain
          ∧ parse text' sectionName = .error (.malformed position m.fault))
    ∧ ∀ c, parse text sectionName = .ok c → ∃ d, Document.read text sectionName = .ok d
      ∧ ∀ a ∈ c.actions.items, ∃ front e back, d.actions = front ++ e :: back
        ∧ (∀ later ∈ back, later.get? "name" ≠ some a.name) ∧ e.Defines a := by
  refine ⟨fun text' gain edited => ⟨fun d hr => ?_, fun m hr => ⟨parse_of_malformed hr, ?_⟩⟩, fun c h => ?_⟩
  · have agree := Document.agree_read edited
    rw [hr] at agree
    obtain ⟨d', hr', same⟩ := agree.of_ok
    rw [parse_of_document hr, parse_of_document hr', ofDocument_congr same]
  · have agree := Document.agree_read edited
    rw [hr] at agree
    obtain ⟨position, moved, hr'⟩ := agree.of_error
    exact ⟨position, moved, parse_of_malformed hr'⟩
  · obtain ⟨d, hr, -⟩ := exists_parse_eq_ok_iff.mp ⟨c, h⟩
    rw [parse_of_document hr] at h
    refine ⟨d, hr, fun a ha => ?_⟩
    obtain ⟨front, e, back, whole, he, last⟩ := lastOf_of_ofDocument h a ha
    have distinct : e.keys.Nodup := Document.distinct_of_ofTokens hr e (.inr (.inl (by simp [whole])))
    exact ⟨front, e, back, whole, last, Entry.defines_of_action distinct he⟩

/-- A document with one action, given what stands in its tag, and given how the document ends. -/
def oneAction (content ending : String) : String :=
  String.ofList ('<' :: ("c>".toList ++ '<' :: ("s>".toList ++ '<' :: ("actions>".toList
    ++ '<' :: (content.toList ++ "/>".toList ++ ("</actions></s>".toList ++ ending.toList))))))

/-- With an edit of its action the document is an edit. -/
theorem edited_oneAction {content content' : String} {e e' : Entry}
    (read : Document.readPiece "s" ["actions", "s", "c"] (content.toList ++ "/>".toList)
      = .ok (some (.actions, e), ["actions", "s", "c"], []))
    (read' : Document.readPiece "s" ["actions", "s", "c"] (content'.toList ++ "/>".toList)
      = .ok (some (.actions, e'), ["actions", "s", "c"], [])) (edit : e.IsEdit e') (ending : String) :
    ∃ gain, Document.Edited "s" [] gain (oneAction content ending).toList (oneAction content' ending).toList := by
  have root : Document.readPiece "s" [] "c>".toList = .ok (none, ["c"], []) := rfl
  have part : Document.readPiece "s" ["c"] "s>".toList = .ok (none, ["s", "c"], []) := rfl
  have group : Document.readPiece "s" ["s", "c"] "actions>".toList = .ok (none, ["actions", "s", "c"], []) := rfl
  have tag := Document.Edited.piece read read' (.some .actions edit)
    (.refl _ ("</actions></s>".toList ++ ending.toList))
  have whole := Document.Edited.kept root (.kept part (.kept group tag))
  have texts (content : String) : (oneAction content ending).toList = _ := String.toList_ofList
  rw [texts, texts]
  exact ⟨_, whole⟩

theorem ignores_note (e : Entry) : e.Ignores "note" :=
  .unread (by rintro ⟨⟩ <;> decide) (by rintro ⟨⟩ <;> decide)

/-- An attribute that nobody looks up moves the fault behind it. -/
theorem parse_unclosed_ne : (∃ gain, Document.Edited "s" [] gain (oneAction "action name='a'" "").toList
      (oneAction "action name='a' note='1'" "").toList)
    ∧ parse (oneAction "action name='a' note='1'" "") "s" ≠ parse (oneAction "action name='a'" "") "s" := by
  have edit : Entry.IsEdit ⟨[("name", "a")]⟩ ⟨[("name", "a"), ("note", "1")]⟩ :=
    ⟨[("note", "1")], .refl _, by simpa using ignores_note _⟩
  have fault : Document.read (oneAction "action name='a'" "") "s" = .error ⟨47, .unclosedElement "c"⟩ := by
    decide +kernel
  have moved : Document.read (oneAction "action name='a' note='1'" "") "s" = .error ⟨56, .unclosedElement "c"⟩ := by
    decide +kernel
  refine ⟨edited_oneAction (by decide +kernel) (by decide +kernel) edit "", ?_⟩
  rw [parse_of_malformed fault, parse_of_malformed moved]
  simp

/-- An action has its kind from the first key: a pattern that cannot be compiled stands under a later one. -/
theorem parse_edited_oneAction : ∃ c, parse (oneAction "action name='a' textMatch='x'" "</c>") "s" = .ok c
    ∧ parse (oneAction "action patternMatch='(' note='1' textMatch='x' name='a'" "</c>") "s" = .ok c
    ∧ ∀ a ∈ c.actions.items, ActionKind.ofKey .textMatch "x" = .ok a.kind ∧ a.data = "x" := by
  have late : Entry.Ignores ⟨[("name", "a"), ("textMatch", "x")]⟩ "patternMatch" :=
    @Entry.Ignores.late _ _ .textMatch .patternMatch (by decide) (by decide) rfl
  have edit : Entry.IsEdit ⟨[("name", "a"), ("textMatch", "x")]⟩
      ⟨[("patternMatch", "("), ("note", "1"), ("textMatch", "x"), ("name", "a")]⟩ :=
    ⟨[("note", "1"), ("patternMatch", "(")], by decide, by simpa using ⟨ignores_note _, late⟩⟩
  have document : Document.read (oneAction "action name='a' textMatch='x'" "</c>") "s"
      = .ok { actions := [⟨[("name", "a"), ("textMatch", "x")]⟩] } := by
    decide +kernel
  obtain ⟨c, hc⟩ : ∃ c, parse (oneAction "action name='a' textMatch='x'" "</c>") "s" = .ok c :=
    exists_parse_eq_ok_iff.mpr ⟨_, document, by decide +kernel⟩
  obtain ⟨gain, edited⟩ : ∃ gain, Document.Edited "s" [] gain (oneAction "action name='a' textMatch='x'" "</c>").toList
      (oneAction "action patternMatch='(' note='1' textMatch='x' name='a'" "</c>").toList :=
    edited_oneAction (by decide +kernel) (by decide +kernel) edit "</c>"
  obtain ⟨edits, actions⟩ := parse_edited (oneAction "action name='a' textMatch='x'" "</c>") "s"
  refine ⟨c, hc, ((edits _ gain edited).1 _ document).trans hc, fun a ha => ?_⟩
  obtain ⟨d, hd, stands⟩ := actions c hc
  rw [document] at hd
  cases hd
  obtain ⟨front, e, back, whole, -, defines⟩ := stands a ha
  obtain rfl : e = ⟨[("name", "a"), ("textMatch", "x")]⟩ := by
    have member : e ∈ front ++ e :: back := by simp
    rw [← whole] at member
    exact List.mem_singleton.mp member
  exact defines.first [] .textMatch _ "x" rfl (List.forall_mem_nil _) (by decide)

end Catalog
end PackageAudit
