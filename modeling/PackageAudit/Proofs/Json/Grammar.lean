import PackageAudit.Proofs.Json.Skip
import PackageAudit.Proofs.Json.Spelling

/-!
# The grammar of JSON

What a text may begin with, and what is left of it then: a value, with any blanks between its parts (`Grammar`).

What has the form of a value is passed over, up to what is left of it (`Grammar.skipValue`), by induction on the
grammar: one lemma for each part in terms of `Skips` and `SkipsOn`. A value of natural numbers is written in that form
(`Value.Fits.grammar`), however deep its brackets are.
-/

namespace PackageAudit.Json

variable {text rest : List Char}

/-! ## Values -/

/-- The parts of the grammar: a value, a member behind the quote of its key, and what stands between brackets from its
first item or from behind its first quote on, with the bracket that closes. -/
inductive Part where
  | value
  | member
  | items
  | members

/-- A text begins with a part of the grammar. -/
inductive Grammar : Part → List Char → List Char → Prop
  | null (rest : List Char) : Grammar .value ('n' :: 'u' :: 'l' :: 'l' :: rest) rest
  | yes (rest : List Char) : Grammar .value ('t' :: 'r' :: 'u' :: 'e' :: rest) rest
  | no (rest : List Char) : Grammar .value ('f' :: 'a' :: 'l' :: 's' :: 'e' :: rest) rest
  | number {text rest : List Char} (h : Number text rest) (closed : Closed rest) : Grammar .value text rest
  | string {text rest : List Char} (h : Units text rest) : Grammar .value ('"' :: text) rest
  | emptyArray {text rest : List Char} (h : Blanks text (']' :: rest)) : Grammar .value ('[' :: text) rest
  | array {text first rest : List Char} (before : Blanks text first) (items : Grammar .items first rest) :
    Grammar .value ('[' :: text) rest
  | emptyObject {text rest : List Char} (h : Blanks text ('\x7d' :: rest)) : Grammar .value ('\x7b' :: text) rest
  | object {text first rest : List Char} (before : Blanks text ('"' :: first)) (members : Grammar .members first rest) :
    Grammar .value ('\x7b' :: text) rest
  | member {text afterKey afterColon value rest : List Char} (key : Units text afterKey)
    (colon : Blanks afterKey (':' :: afterColon)) (before : Blanks afterColon value) (h : Grammar .value value rest) :
    Grammar .member text rest
  | lastItem {text after rest : List Char} (item : Grammar .value text after) (behind : Blanks after (']' :: rest)) :
    Grammar .items text rest
  | nextItem {text after afterComma next rest : List Char} (item : Grammar .value text after)
    (behind : Blanks after (',' :: afterComma)) (before : Blanks afterComma next) (more : Grammar .items next rest) :
    Grammar .items text rest
  | lastMember {text after rest : List Char} (member : Grammar .member text after)
    (behind : Blanks after ('\x7d' :: rest)) : Grammar .members text rest
  | nextMember {text after afterComma next rest : List Char} (member : Grammar .member text after)
    (behind : Blanks after (',' :: afterComma)) (before : Blanks afterComma ('"' :: next))
    (more : Grammar .members next rest) : Grammar .members text rest

/-- From behind the quote of a key on, the text is passed over up to its rest. -/
def SkipsMember (opened : List Bracket) (text rest : List Char) : Prop :=
  ∀ fuel, text.length < fuel → (skipKey ('"' :: text) >>= skipOpen fuel (.curly :: opened)) = .ok rest

/-- Whether a part of the grammar is passed over, if what follows it is. -/
def Part.Passes (text rest : List Char) : Part → Prop
  | .value => ∀ opened final, SkipsOn true opened rest final → Skips opened text final
  | .member => ∀ opened final, SkipsOn true (.curly :: opened) rest final → SkipsMember opened text final
  | .items => ∀ opened final, SkipsOn true opened rest final → Skips (.square :: opened) text final
  | .members => ∀ opened final, SkipsOn true opened rest final → SkipsMember opened text final

theorem Number.begun (h : Number text rest) : ∃ c tail, text = c :: tail ∧ (c = '-' ∨ c.isDigit = true) := by
  cases h with
  | positive h =>
    obtain ⟨d, tail, rfl, hd⟩ := h.begun
    exact ⟨d, tail, rfl, .inr hd⟩
  | negative => exact ⟨'-', _, rfl, .inl rfl⟩

/-- A part of the grammar that is not behind a quote begins as a value. -/
theorem Grammar.begun {part : Part} (h : Grammar part text rest) : part = .value ∨ part = .items → Begun text := by
  induction h with
  | number h _ =>
    obtain ⟨c, tail, rfl, rfl | hc⟩ := h.begun
    · exact fun _ => ⟨'-', tail, rfl, by decide, by decide, by decide, by decide⟩
    · exact fun _ => begun_digit hc tail
  | lastItem _ _ ih | nextItem _ _ _ _ ih _ => exact fun _ => ih (.inl rfl)
  | member | lastMember | nextMember => rintro (h | h) <;> cases h
  | _ => exact fun _ => ⟨_, _, rfl, by decide, by decide, by decide, by decide⟩

theorem Grammar.length_lt {part : Part} (h : Grammar part text rest) : rest.length < text.length := by
  induction h with
  | null | yes | no => simp only [List.length_cons]; omega
  | number h _ => exact h.length_lt
  | string h => exact Nat.lt_succ_of_lt h.length_lt
  | emptyArray h | emptyObject h =>
    have := h.length_le
    simp only [List.length_cons] at *
    omega
  | array before _ ih | object before _ ih =>
    have := before.length_le
    simp only [List.length_cons] at *
    omega
  | member key colon before _ ih =>
    have := key.length_lt
    have := colon.length_le
    have := before.length_le
    simp only [List.length_cons] at *
    omega
  | lastItem _ behind ih | lastMember _ behind ih =>
    have := behind.length_le
    simp only [List.length_cons] at *
    omega
  | nextItem _ behind before _ ih later | nextMember _ behind before _ ih later =>
    have := behind.length_le
    have := before.length_le
    simp only [List.length_cons] at *
    omega

theorem skipsOn_blanks {more : Bool} {bracket : Bracket} {opened : List Bracket} {text' final : List Char}
    (h : Blanks text' text) (next : SkipsOn more (bracket :: opened) text final) :
    SkipsOn more (bracket :: opened) text' final := by
  intro fuel hf
  have same : skipClosing more (bracket :: opened) text' = skipClosing more (bracket :: opened) text := by
    rw [skipClosing, skipClosing, h.skipSpace_eq]
  rw [skipOn, same]
  exact next fuel (Nat.lt_of_le_of_lt h.length_le hf)

theorem skipsOn_first {opened : List Bracket} {final : List Char} (next : SkipsMember opened text final) :
    SkipsOn false (.curly :: opened) ('"' :: text) final := by
  intro fuel hf
  rw [skipOn, skipClosing_begun ⟨'"', _, rfl, by decide, by decide, by decide, by decide⟩]
  exact next fuel (Nat.lt_of_succ_lt hf)

theorem skipsOn_next {opened : List Bracket} {afterComma final : List Char} (blanks : Blanks afterComma ('"' :: text))
    (next : SkipsMember opened text final) : SkipsOn true (.curly :: opened) (',' :: afterComma) final := by
  intro fuel hf
  have same : skipKey afterComma = skipKey ('"' :: text) := by rw [skipKey, skipKey, blanks.skipSpace_eq]
  have := blanks.length_le
  rw [skipOn, skipClosing_comma]
  show (skipKey afterComma >>= _) = _
  rw [same]
  exact next fuel (by simp only [List.length_cons] at hf this; omega)

theorem Number.skipPiece (h : Number text rest) (closed : Closed rest) :
    Json.skipPiece text = .ok (.scalar rest) := by
  have passed := h.skip closed
  obtain ⟨c, tail, rfl, first⟩ := h.begun
  exact skipPiece_number first passed

/-- **A part of the grammar is passed over**, by induction on the grammar. -/
theorem Grammar.passes {part : Part} (h : Grammar part text rest) : part.Passes text rest := by
  induction h with
  | null | yes | no => exact fun _ _ next => skips_scalar rfl (by simp; omega) next
  | number h closed => exact fun _ _ next => skips_scalar (h.skipPiece closed) h.length_lt next
  | string h =>
    have piece : skipPiece ('"' :: _) = .ok (.scalar _) := congrArg (Piece.scalar <$> ·) h.skip
    exact fun _ _ next => skips_scalar piece (Nat.lt_succ_of_lt h.length_lt) next
  | emptyArray h => exact fun _ _ next => skips_opening rfl (by simp) (skipsOn_blanks h (skipsOn_close .square next))
  | array before items ih =>
    intro opened final next
    have first := skipsOn_firstItem (items.begun (.inr rfl)) (ih opened final next)
    exact skips_opening rfl (by simp) (skipsOn_blanks before first)
  | emptyObject h => exact fun _ _ next => skips_opening rfl (by simp) (skipsOn_blanks h (skipsOn_close .curly next))
  | object before _ ih =>
    intro opened final next
    have first := skipsOn_first (ih opened final next)
    exact skips_opening rfl (by simp) (skipsOn_blanks before first)
  | member key colon before _ ih =>
    intro opened final next fuel hf
    have value := skips_blanks before.skipSpace_eq before.length_le (ih _ final next)
    have := key.length_lt
    have := colon.length_le
    show ((skipQuoted _ >>= readColon) >>= _) = _
    rw [key.skip]
    show (readColon _ >>= _) = _
    rw [colon.readColon]
    exact value fuel (by simp only [List.length_cons] at this; omega)
  | lastItem _ behind ih => exact fun _ _ next => ih _ _ (skipsOn_blanks behind (skipsOn_close .square next))
  | nextItem _ behind before _ ih later =>
    intro opened final next
    have others := skips_blanks before.skipSpace_eq before.length_le (later opened final next)
    exact ih _ final (skipsOn_blanks behind (skipsOn_nextItem others))
  | lastMember _ behind ih => exact fun _ _ next => ih _ _ (skipsOn_blanks behind (skipsOn_close .curly next))
  | nextMember _ behind before _ ih later =>
    intro opened final next
    have others := skipsOn_next before (later opened final next)
    exact ih opened final (skipsOn_blanks behind others)

/-- **A value is passed over**, with the blanks in front of it. -/
theorem Grammar.skipValue {value : List Char} (h : Grammar .value value rest) (before : Blanks text value) :
    Json.skipValue text = .ok rest := by
  have done : SkipsOn true [] rest rest := fun _ _ => rfl
  exact skips_blanks before.skipSpace_eq before.length_le (h.passes [] rest done) _ (Nat.lt_succ_self _)

/-! ## Written values -/

theorem grammar_prettyItems (depth outer : Nat) {items : List Value} {value : List Char}
    (each : ∀ item ∈ items, ∀ {rest}, Ended rest → Grammar .value (item.prettyAt depth ++ rest) rest)
    (h : Grammar .value value (Value.prettyItems depth items ++ (newLine outer ++ ']' :: rest))) :
    Grammar .items value rest := by
  induction items generalizing value with
  | nil => exact .lastItem h (blanks_newLine outer _)
  | cons item items ih =>
    rw [prettyItems_cons] at h
    have ended := ended_prettyItems depth items (ended_newLine outer (']' :: rest))
    have later := ih (fun i hi => each i (List.mem_cons_of_mem _ hi)) (each item List.mem_cons_self ended)
    exact .nextItem h (.none _) (blanks_newLine depth _) later

theorem grammar_member (key : List Char) (h : Grammar .value text rest) :
    Grammar .member (key.flatMap escapeChar ++ '"' :: ':' :: ' ' :: text) rest :=
  .member (quoted_quote key _).units (.none _) (.blank (by decide) (.none _)) h

/-- The members after the first follow a member. -/
theorem grammar_prettyMembers (depth outer : Nat) {members : List (List Char × Value)} {value : List Char}
    (each : ∀ member ∈ members, ∀ {rest}, Ended rest → Grammar .value (member.2.prettyAt depth ++ rest) rest)
    (h : Grammar .member value (Value.prettyMembers depth members ++ (newLine outer ++ '\x7d' :: rest))) :
    Grammar .members value rest := by
  induction members generalizing value with
  | nil => exact .lastMember h (blanks_newLine outer _)
  | cons member members ih =>
    obtain ⟨key, v⟩ := member
    rw [prettyMembers_cons, quote_append] at h
    have ended := ended_prettyMembers depth members (ended_newLine outer ('\x7d' :: rest))
    have this := grammar_member key (each (key, v) List.mem_cons_self ended)
    have later := ih (fun m hm => each m (List.mem_cons_of_mem _ hm)) this
    exact .nextMember h (.none _) (blanks_newLine depth _) later

/-- **A written value has the form of a value**, by induction on the nesting of its brackets. -/
theorem Value.Fits.grammar {v : Value} {levels : Nat} (h : v.Fits levels) (depth : Nat) (ended : Ended rest) :
    Grammar .value (v.prettyAt depth ++ rest) rest := by
  induction h generalizing depth rest with
  | null => exact .null rest
  | bool b =>
    cases b
    · exact .no rest
    · exact .yes rest
  | number n => exact .number (number_toString n rest) ended.closed
  | string text =>
    rw [Value.prettyAt, quote_append]
    exact .string (quoted_quote text rest).units
  | @array _ items _ each =>
    cases items with
    | nil => exact .emptyArray (.none _)
    | cons item items =>
      rw [prettyAt_array]
      have ended := ended_prettyItems (depth + 1) items (ended_newLine depth (']' :: rest))
      have first := each item List.mem_cons_self (depth + 1) ended
      exact .array (blanks_newLine _ _) (grammar_prettyItems (depth + 1) depth
        (fun i hi => each i (List.mem_cons_of_mem _ hi) (depth + 1)) first)
  | @object _ members _ each =>
    cases members with
    | nil => exact .emptyObject (.none _)
    | cons member members =>
      obtain ⟨key, v⟩ := member
      rw [prettyAt_object, quote_append]
      have ended := ended_prettyMembers (depth + 1) members (ended_newLine depth ('\x7d' :: rest))
      have first := grammar_member key (each (key, v) List.mem_cons_self (depth + 1) ended)
      exact .object (blanks_newLine _ _) (grammar_prettyMembers (depth + 1) depth
        (fun m hm => each m (List.mem_cons_of_mem _ hm) (depth + 1)) first)

end PackageAudit.Json
