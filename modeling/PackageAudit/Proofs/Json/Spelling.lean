import PackageAudit.Proofs.Failure
import PackageAudit.Proofs.Json.Written

/-!
# Spelling

What the parts of a JSON text may begin with, and what is left of it then: blanks (`Blanks`), a quoted text (`Quoted`)
and a number (`Number`). A quoted text is spelled with characters and escapes in any mixture; where nobody asks for it,
units need not be paired (`Units`).

A quoted text is read as what it spells, and nothing else is read (`Quoted.read`, `quoted_of_readQuoted`). Where nobody
asks for them, quoted texts and numbers are passed over (`Units.skip`, `Number.skip`). What is written is spelled, be it
a text or a natural number (`quoted_quote`, `number_toString`).
-/

namespace PackageAudit.Json

variable {text rest : List Char}

/-! ## Blanks -/

/-- A text begins with blanks. -/
inductive Blanks : List Char → List Char → Prop
  | none (rest : List Char) : Blanks rest rest
  | blank {c : Char} {text rest : List Char} (h : isSpace c = true) (more : Blanks text rest) : Blanks (c :: text) rest

theorem Blanks.skipSpace_eq (h : Blanks text rest) : skipSpace text = skipSpace rest := by
  induction h with
  | none => rfl
  | blank hc _ ih => rw [← ih]; exact List.dropWhile_cons_of_pos hc

theorem Blanks.skipSpace {c : Char} (h : Blanks text (c :: rest)) (hc : isSpace c = false) :
    Json.skipSpace text = c :: rest := by
  rw [h.skipSpace_eq]
  exact List.dropWhile_cons_of_neg (by simp [hc])

theorem Blanks.length_le (h : Blanks text rest) : rest.length ≤ text.length := by
  induction h with
  | none => exact Nat.le_refl _
  | blank _ _ ih => exact Nat.le_succ_of_le ih

theorem Blanks.trans {middle : List Char} (h : Blanks text middle) (more : Blanks middle rest) : Blanks text rest := by
  induction h with
  | none => exact more
  | blank hc _ ih => exact .blank hc (ih more)

theorem blanks_skipSpace (text : List Char) : Blanks text (Json.skipSpace text) := by
  induction text with
  | nil => exact .none _
  | cons c text ih =>
    rw [Json.skipSpace, List.dropWhile_cons]
    split
    next blank => exact .blank blank ih
    next => exact .none _

theorem blanks_of_skipSpace (h : Json.skipSpace text = rest) : Blanks text rest :=
  h ▸ blanks_skipSpace text

theorem Blanks.readColon {afterColon : List Char} (h : Blanks text (':' :: afterColon)) :
    Json.readColon text = .ok afterColon := by
  rw [Json.readColon, h.skipSpace (by decide)]
  rfl

theorem blanks_of_readColon {afterColon : List Char} (h : readColon text = .ok afterColon) :
    Blanks text (':' :: afterColon) := by
  unfold readColon at h
  split at h
  next before => cases h; exact blanks_of_skipSpace before
  next => cases h
  next => cases h

theorem eq_of_readWord : ∀ {word text : List Char}, readWord word text = .ok rest → text = word ++ rest
  | [], _, h => Except.ok.inj h
  | _ :: _, [], h => by cases h
  | w :: word, c :: text, h => by
    rw [readWord] at h
    split at h
    next same => rw [same, eq_of_readWord h, List.cons_append]
    next => cases h

theorem blanks_newLine (depth : Nat) (text : List Char) : Blanks (newLine depth ++ text) text := by
  have indented : ∀ n, Blanks (List.replicate n ' ' ++ text) text := by
    intro n
    induction n with
    | zero => exact .none _
    | succ n ih => exact .blank rfl ih
  exact .blank rfl (indented _)

/-- Where a value may end: at the end of the text, at a blank, or at what goes on or closes. -/
def Closed (rest : List Char) : Prop :=
  ∀ c ∈ rest.head?, isSpace c = true ∨ c = ',' ∨ c = ']' ∨ c = '\x7d'

theorem Ended.closed (h : Ended rest) : Closed rest := by
  intro c hc
  rcases h c hc with rfl | rfl
  · exact .inr (.inl rfl)
  · exact .inl rfl

/-- A character that is neither a blank nor a comma nor a bracket that closes does not end a value. -/
theorem Closed.head?_ne (h : Closed rest) {c : Char} (hc : isSpace c = false ∧ c ≠ ',' ∧ c ≠ ']' ∧ c ≠ '\x7d') :
    rest.head? ≠ some c := by
  intro he
  rcases h c he with hb | rfl | rfl | rfl
  · simp [hc.1] at hb
  · exact hc.2.1 rfl
  · exact hc.2.2.1 rfl
  · exact hc.2.2.2 rfl

/-! ## Quoted texts -/

/-- A text begins with the four digits of a unit. -/
inductive UnitDigits : Nat → List Char → List Char → Prop
  | mk {a b c d : Char} {w x y z : Nat} (ha : hexValue? a = some w) (hb : hexValue? b = some x)
    (hc : hexValue? c = some y) (hd : hexValue? d = some z) (rest : List Char) :
    UnitDigits (((w * 16 + x) * 16 + y) * 16 + z) (a :: b :: c :: d :: rest) rest

theorem UnitDigits.read {unit : Nat} (h : UnitDigits unit text rest) : readUnit text = .ok (unit, rest) := by
  cases h with
  | mk ha hb hc hd => simp only [readUnit, ha, hb, hc, hd]

/-- A text begins with a spelling of some characters and with the quote behind it. -/
inductive Quoted : List Char → List Char → List Char → Prop
  | close (rest : List Char) : Quoted [] ('"' :: rest) rest
  | plain {c : Char} {chars text rest : List Char} (h : c ≠ '"' ∧ c ≠ '\\' ∧ 0x20 ≤ c.toNat)
    (more : Quoted chars text rest) : Quoted (c :: chars) (c :: text) rest
  | letter {l c : Char} {chars text rest : List Char} (h : simpleEscape? l = some c) (more : Quoted chars text rest) :
    Quoted (c :: chars) ('\\' :: l :: text) rest
  | unit {unit : Nat} {chars text text' rest : List Char} (digits : UnitDigits unit text text')
    (whole : ¬(0xD800 ≤ unit ∧ unit ≤ 0xDFFF)) (more : Quoted chars text' rest) :
    Quoted (Char.ofNat unit :: chars) ('\\' :: 'u' :: text) rest
  | pair {high low : Nat} {chars text text' text'' rest : List Char}
    (first : UnitDigits high text ('\\' :: 'u' :: text')) (isHigh : 0xD800 ≤ high ∧ high ≤ 0xDBFF)
    (second : UnitDigits low text' text'') (isLow : 0xDC00 ≤ low ∧ low ≤ 0xDFFF) (more : Quoted chars text'' rest) :
    Quoted (Char.ofNat (0x10000 + (high - 0xD800) * 0x400 + (low - 0xDC00)) :: chars) ('\\' :: 'u' :: text) rest

/-- A text begins with a quoted text whose units need not be paired, and with the quote behind it. -/
inductive Units : List Char → List Char → Prop
  | close (rest : List Char) : Units ('"' :: rest) rest
  | plain {c : Char} {text rest : List Char} (h : c ≠ '"' ∧ c ≠ '\\' ∧ 0x20 ≤ c.toNat) (more : Units text rest) :
    Units (c :: text) rest
  | letter {l c : Char} {text rest : List Char} (h : simpleEscape? l = some c) (more : Units text rest) :
    Units ('\\' :: l :: text) rest
  | unit {unit : Nat} {text text' rest : List Char} (digits : UnitDigits unit text text') (more : Units text' rest) :
    Units ('\\' :: 'u' :: text) rest

theorem readQuoted_escape {text rest : List Char} {c : Char} (h : readEscape text = .ok (c, rest)) :
    readQuoted ('\\' :: text) = (readQuoted rest).map fun p => (c :: p.1, p.2) := by
  rw [readQuoted]
  split
  next e he => rw [h] at he; cases he
  next d after he => rw [h] at he; cases he; rfl

theorem skipQuoted_escape {text rest : List Char} (h : skipEscape text = .ok rest) :
    skipQuoted ('\\' :: text) = skipQuoted rest := by
  rw [skipQuoted]
  split
  next e he => rw [h] at he; cases he
  next after he => rw [h] at he; cases he; rfl

theorem readEscape_letter {l c : Char} (h : simpleEscape? l = some c) (text : List Char) :
    readEscape (l :: text) = .ok (c, text) := by
  unfold readEscape
  split
  next none => cases none
  next same => cases same; cases h
  next same => cases same; rw [h]

theorem skipEscape_letter {l c : Char} (h : simpleEscape? l = some c) (text : List Char) :
    skipEscape (l :: text) = .ok text := by
  unfold skipEscape
  split
  next none => cases none
  next same => cases same; cases h
  next same => cases same; simp [h]

theorem skipQuoted_unit {unit : Nat} (h : readUnit text = .ok (unit, rest)) :
    skipQuoted ('\\' :: 'u' :: text) = skipQuoted rest := by
  refine skipQuoted_escape ?_
  show (readUnit text).map _ = _
  rw [h]
  rfl

theorem readQuoted_plain {c : Char} (h : c ≠ '"' ∧ c ≠ '\\' ∧ 0x20 ≤ c.toNat) (text : List Char) :
    readQuoted (c :: text) = (readQuoted text).map fun p => (c :: p.1, p.2) := by
  rw [readQuoted, if_neg (Nat.not_lt.mpr h.2.2)]
  · exact h.1
  · exact h.2.1

theorem skipQuoted_plain {c : Char} (h : c ≠ '"' ∧ c ≠ '\\' ∧ 0x20 ≤ c.toNat) (text : List Char) :
    skipQuoted (c :: text) = skipQuoted text := by
  rw [skipQuoted, if_neg (Nat.not_lt.mpr h.2.2)]
  · exact h.1
  · exact h.2.1

/-- **A quoted text is read as what it spells.** -/
theorem Quoted.read {chars : List Char} (h : Quoted chars text rest) : readQuoted text = .ok (chars, rest) := by
  induction h with
  | close rest => simp [readQuoted]
  | plain hc _ ih => rw [readQuoted_plain hc, ih]; rfl
  | letter hl _ ih => rw [readQuoted_escape (readEscape_letter hl _), ih]; rfl
  | @unit unit chars text text' rest digits whole _ ih =>
    have escape : readEscape ('u' :: text) = .ok (Char.ofNat unit, text') := by
      show (readUnit text >>= _) = _
      rw [digits.read]
      show ite _ _ _ = _
      rw [if_neg (by omega), if_neg (by omega)]
    rw [readQuoted_escape escape, ih]
    rfl
  | @pair high low chars text text' text'' rest first isHigh second isLow _ ih =>
    have escape : readEscape ('u' :: text)
        = .ok (Char.ofNat (0x10000 + (high - 0xD800) * 0x400 + (low - 0xDC00)), text'') := by
      show (readUnit text >>= _) = _
      rw [first.read]
      show ite _ _ _ = _
      rw [if_neg (by omega), if_pos isHigh]
      show (readUnit text' >>= _) = _
      rw [second.read]
      exact if_pos isLow
    rw [readQuoted_escape escape, ih]
    rfl

theorem Units.skip (h : Units text rest) : skipQuoted text = .ok rest := by
  induction h with
  | close rest => simp [skipQuoted]
  | plain hc _ ih => rw [skipQuoted_plain hc, ih]
  | letter hl _ ih => rw [skipQuoted_escape (skipEscape_letter hl _), ih]
  | unit digits _ ih => rw [skipQuoted_unit digits.read, ih]

theorem UnitDigits.length_lt {unit : Nat} (h : UnitDigits unit text rest) : rest.length < text.length := by
  cases h with
  | mk => simp only [List.length_cons]; omega

theorem Quoted.length_lt {chars : List Char} (h : Quoted chars text rest) : rest.length < text.length := by
  induction h with
  | close => exact Nat.lt_succ_self _
  | plain _ _ ih => exact Nat.lt_succ_of_lt ih
  | letter _ _ ih => simp only [List.length_cons]; omega
  | unit digits _ _ ih =>
    have := digits.length_lt
    simp only [List.length_cons]
    omega
  | pair first _ second _ _ ih =>
    have := first.length_lt
    have := second.length_lt
    simp only [List.length_cons] at *
    omega

theorem Units.length_lt (h : Units text rest) : rest.length < text.length := by
  induction h with
  | close => exact Nat.lt_succ_self _
  | plain _ _ ih => exact Nat.lt_succ_of_lt ih
  | letter _ _ ih => simp only [List.length_cons]; omega
  | unit digits _ ih =>
    have := digits.length_lt
    simp only [List.length_cons]
    omega

theorem unitDigits_of_readUnit {unit : Nat} (h : readUnit text = .ok (unit, rest)) : UnitDigits unit text rest := by
  unfold readUnit at h
  split at h
  next =>
    split at h
    next ha hb hc hd =>
      obtain ⟨rfl, rfl⟩ := Prod.mk.inj (Except.ok.inj h)
      exact .mk ha hb hc hd _
    next => cases h
  next => cases h

/-- What is read as a character behind a backslash spells that character. -/
theorem quoted_of_readEscape {c : Char} {chars after : List Char} (h : readEscape text = .ok (c, after))
    (more : Quoted chars after rest) : Quoted (c :: chars) ('\\' :: text) rest := by
  unfold readEscape at h
  split at h
  next => cases h
  next =>
    obtain ⟨⟨unit, behind⟩, read, h⟩ := exists_of_bind_eq_ok h
    have digits := unitDigits_of_readUnit read
    dsimp only at h
    split at h
    next => cases h
    next noLow =>
      split at h
      next isHigh =>
        unfold readLowUnit at h
        split at h
        next => cases h
        next => cases h
        next =>
          obtain ⟨⟨low, behind⟩, read, h⟩ := exists_of_bind_eq_ok h
          dsimp only at h
          split at h
          next isLow =>
            obtain ⟨rfl, rfl⟩ := Prod.mk.inj (Except.ok.inj h)
            exact .pair digits isHigh (unitDigits_of_readUnit read) isLow more
          next => cases h
        next => cases h
      next noHigh =>
        obtain ⟨rfl, rfl⟩ := Prod.mk.inj (Except.ok.inj h)
        exact .unit digits (by omega) more
  next l text _ =>
    split at h
    next hl =>
      obtain ⟨rfl, rfl⟩ := Prod.mk.inj (Except.ok.inj h)
      exact .letter hl more
    next => cases h

/-- **What is read as a quoted text** spells it. -/
theorem quoted_of_readQuoted {chars : List Char} (h : readQuoted text = .ok (chars, rest)) :
    Quoted chars text rest := by
  induction text using readQuoted.induct generalizing chars with
  | case1 => simp [readQuoted] at h
  | case2 text =>
    obtain ⟨rfl, rfl⟩ : chars = [] ∧ text = rest := by simpa [readQuoted, eq_comm] using h
    exact .close _
  | case3 text fault escape =>
    rw [readQuoted] at h
    split at h
    next => cases h
    next escape' => rw [escape] at escape'; cases escape'
  | case4 text c after escape _ ih =>
    rw [readQuoted_escape escape] at h
    obtain ⟨read, hr, he⟩ := exists_of_map_eq_ok h
    cases he
    exact quoted_of_readEscape escape (ih hr)
  | case5 c text quoted escaped small =>
    rw [readQuoted, if_pos small] at h
    · cases h
    · exact quoted
    · exact escaped
  | case6 c text quoted escaped large ih =>
    have plain : c ≠ '"' ∧ c ≠ '\\' ∧ 0x20 ≤ c.toNat := ⟨quoted, escaped, Nat.not_lt.mp large⟩
    rw [readQuoted_plain plain] at h
    obtain ⟨read, hr, he⟩ := exists_of_map_eq_ok h
    cases he
    exact .plain plain (ih hr)

theorem Quoted.units {chars : List Char} (h : Quoted chars text rest) : Units text rest := by
  induction h with
  | close rest => exact .close rest
  | plain hc _ ih => exact .plain hc ih
  | letter hl _ ih => exact .letter hl ih
  | unit digits _ _ ih => exact .unit digits ih
  | pair first _ second _ _ ih => exact .unit first (.unit second ih)

theorem hexValue?_hexDigit : ∀ n < 16, hexValue? (hexDigit n) = some n := by decide

/-- A written character is spelled. -/
theorem quoted_escapeChar (c : Char) {chars : List Char} (more : Quoted chars text rest) :
    Quoted (c :: chars) (escapeChar c ++ text) rest := by
  unfold escapeChar
  split
  case h_8 hquot hback _ _ _ _ _ =>
    split
    next small =>
      have digits : UnitDigits (((0 * 16 + 0) * 16 + c.toNat / 16) * 16 + c.toNat % 16)
          ('0' :: '0' :: hexDigit (c.toNat / 16) :: hexDigit (c.toNat % 16) :: text) text :=
        .mk rfl rfl (hexValue?_hexDigit (c.toNat / 16) (by omega)) (hexValue?_hexDigit (c.toNat % 16) (by omega)) text
      have number : ((0 * 16 + 0) * 16 + c.toNat / 16) * 16 + c.toNat % 16 = c.toNat := by omega
      rw [number] at digits
      have unit := Quoted.unit digits (by omega) more
      rwa [Char.ofNat_toNat] at unit
    next large => exact .plain ⟨hquot, hback, Nat.not_lt.mp large⟩ more
  all_goals exact .letter rfl more

/-- **A written text is spelled**, whatever its characters are. -/
theorem quoted_quote (chars rest : List Char) : Quoted chars (chars.flatMap escapeChar ++ '"' :: rest) rest := by
  induction chars with
  | nil => exact .close rest
  | cons c chars ih =>
    rw [List.flatMap_cons, List.append_assoc]
    exact quoted_escapeChar c ih

/-! ## Numbers -/

/-- A text begins with digits, at least one. -/
inductive Digits : List Char → List Char → Prop
  | one {c : Char} (h : c.isDigit = true) (rest : List Char) : Digits (c :: rest) rest
  | more {c : Char} {text rest : List Char} (h : c.isDigit = true) (more : Digits text rest) : Digits (c :: text) rest

/-- A text begins with the whole part of a number: no other digit follows a zero in front. -/
inductive Whole : List Char → List Char → Prop
  | zero (rest : List Char) : Whole ('0' :: rest) rest
  | digits {text rest : List Char} (h : text.head? ≠ some '0') (digits : Digits text rest) : Whole text rest

/-- A text begins with a fraction, if it has one. -/
inductive Fraction : List Char → List Char → Prop
  | none (rest : List Char) : Fraction rest rest
  | point {text rest : List Char} (digits : Digits text rest) : Fraction ('.' :: text) rest

/-- A text begins with an exponent, if it has one. -/
inductive Exponent : List Char → List Char → Prop
  | none (rest : List Char) : Exponent rest rest
  | plain {e : Char} {text rest : List Char} (h : e = 'e' ∨ e = 'E') (digits : Digits text rest) :
    Exponent (e :: text) rest
  | signed {e sign : Char} {text rest : List Char} (h : e = 'e' ∨ e = 'E') (hs : sign = '+' ∨ sign = '-')
    (digits : Digits text rest) : Exponent (e :: sign :: text) rest

/-- A text begins with a number that has no sign. -/
def Unsigned (text rest : List Char) : Prop :=
  ∃ afterWhole afterFraction, Whole text afterWhole ∧ Fraction afterWhole afterFraction ∧ Exponent afterFraction rest

/-- A text begins with a number. -/
inductive Number : List Char → List Char → Prop
  | positive {text rest : List Char} (h : Unsigned text rest) : Number text rest
  | negative {text rest : List Char} (h : Unsigned text rest) : Number ('-' :: text) rest

theorem Closed.isDigit_eq_false (h : Closed rest) : ∀ c ∈ rest.head?, c ≠ '.' ∧ c.isDigit = false := by
  intro c hc
  rcases h c hc with hb | rfl | rfl | rfl
  · have : c = ' ' ∨ c = '\n' ∨ c = '\t' ∨ c = '\r' := by simpa [isSpace, or_assoc] using hb
    rcases this with rfl | rfl | rfl | rfl <;> decide
  all_goals decide

theorem Exponent.isDigit_eq_false (h : Exponent text rest) (closed : Closed rest) :
    ∀ c ∈ text.head?, c ≠ '.' ∧ c.isDigit = false := by
  cases h with
  | none => exact closed.isDigit_eq_false
  | plain he _ | signed he _ _ =>
    intro c hc
    obtain rfl := Option.some.inj hc
    rcases he with rfl | rfl <;> decide

theorem Fraction.isDigit_eq_false {afterFraction : List Char} (h : Fraction text afterFraction)
    (exponent : Exponent afterFraction rest) (closed : Closed rest) : ∀ c ∈ text.head?, c.isDigit = false := by
  cases h with
  | none => exact fun c hc => (exponent.isDigit_eq_false closed c hc).2
  | point =>
    intro c hc
    obtain rfl := Option.some.inj hc
    decide

theorem Digits.begun (h : Digits text rest) : ∃ c tail, text = c :: tail ∧ c.isDigit = true := by
  cases h with
  | one hc | more hc => exact ⟨_, _, rfl, hc⟩

/-- Digits are passed over. -/
theorem Digits.skip (h : Digits text rest) (stop : ∀ c ∈ rest.head?, c.isDigit = false) :
    skipDigits text = .ok rest := by
  have begun : text.head?.any Char.isDigit = true := by
    obtain ⟨c, tail, rfl, hc⟩ := h.begun
    exact hc
  have behind : text.dropWhile Char.isDigit = rest := by
    clear begun
    induction h with
    | @one c hc rest =>
      rw [List.dropWhile_cons_of_pos hc]
      cases rest with
      | nil => rfl
      | cons d rest => exact List.dropWhile_cons_of_neg (by simp [stop d rfl])
    | more hc _ ih =>
      rw [List.dropWhile_cons_of_pos hc]
      exact ih stop
  rw [skipDigits, if_pos begun, spanDigits, behind]

/-- An exponent is passed over. -/
theorem Exponent.skip (h : Exponent text rest) (closed : Closed rest) : skipExponent text = .ok rest := by
  have stop : ∀ c ∈ rest.head?, c.isDigit = false := fun c hc => (closed.isDigit_eq_false c hc).2
  cases h with
  | none =>
    unfold skipExponent
    split
    next => exact absurd rfl (closed.head?_ne (c := 'e') (by decide))
    next => exact absurd rfl (closed.head?_ne (c := 'E') (by decide))
    next => rfl
  | @plain e text _ he digits =>
    obtain ⟨d, tail, rfl, hd⟩ := digits.begun
    have unsigned : skipExponent (e :: d :: tail) = skipDigits (d :: tail) := by
      rcases he with rfl | rfl
      all_goals
        rw [skipExponent]
        all_goals intro _ same; cases same; exact absurd hd (by decide)
    rw [unsigned, digits.skip stop]
  | signed he hs digits => rcases he with rfl | rfl <;> rcases hs with rfl | rfl <;> exact digits.skip stop

/-- What follows the whole part of a number is passed over. -/
theorem Fraction.skip {afterFraction : List Char} (h : Fraction text afterFraction)
    (exponent : Exponent afterFraction rest) (closed : Closed rest) : (match text with
      | '.' :: rest => do skipExponent (← skipDigits rest)
      | rest => skipExponent rest) = .ok rest := by
  cases h with
  | none =>
    split
    next => exact absurd rfl (exponent.isDigit_eq_false closed '.' rfl).1
    next => exact exponent.skip closed
  | point digits =>
    show (skipDigits _ >>= skipExponent) = _
    rw [digits.skip fun c hc => (exponent.isDigit_eq_false closed c hc).2]
    exact exponent.skip closed

theorem Unsigned.begun (h : Unsigned text rest) : ∃ c tail, text = c :: tail ∧ c.isDigit = true := by
  obtain ⟨_, _, whole, -, -⟩ := h
  cases whole with
  | zero => exact ⟨'0', _, rfl, by decide⟩
  | digits _ digits => exact digits.begun

theorem skipNumber_minus {d : Char} (hd : d.isDigit = true) (tail : List Char) :
    skipNumber ('-' :: d :: tail) = skipNumber (d :: tail) := by
  rw [skipNumber.eq_def (d :: tail)]
  split
  next same => cases same; exact absurd hd (by decide)
  next => rfl

/-- A number without a sign is passed over, if it has ended. -/
theorem Unsigned.skip (h : Unsigned text rest) (closed : Closed rest) : skipNumber text = .ok rest := by
  obtain ⟨d, tail, begun, hd⟩ := h.begun
  obtain ⟨afterWhole, _, whole, fraction, exponent⟩ := h
  have stop := fraction.isDigit_eq_false exponent closed
  unfold skipNumber
  split
  next => cases begun; exact absurd hd (by decide)
  next =>
    dsimp only
    cases whole with
    | zero =>
      have none : ¬afterWhole.head?.any Char.isDigit = true := by
        cases afterWhole with
        | nil => exact Bool.false_ne_true
        | cons c _ => simp [stop c rfl]
      split
      next same => cases same; rw [if_neg none]; exact fraction.skip exponent closed
      next other => exact absurd rfl (other _)
    | digits leading digits =>
      split
      next => exact absurd rfl leading
      next =>
        rw [digits.skip stop]
        exact fraction.skip exponent closed

/-- **A number is passed over**, if it has ended. -/
theorem Number.skip (h : Number text rest) (closed : Closed rest) : skipNumber text = .ok rest := by
  cases h with
  | positive h => exact h.skip closed
  | negative h =>
    obtain ⟨d, tail, rfl, hd⟩ := h.begun
    rw [skipNumber_minus hd, h.skip closed]

theorem Digits.length_lt (h : Digits text rest) : rest.length < text.length := by
  induction h with
  | one => exact Nat.lt_succ_self _
  | more _ _ ih => exact Nat.lt_succ_of_lt ih

theorem Unsigned.length_lt (h : Unsigned text rest) : rest.length < text.length := by
  obtain ⟨afterWhole, afterFraction, whole, fraction, exponent⟩ := h
  have behindWhole : afterWhole.length < text.length := by
    cases whole with
    | zero => exact Nat.lt_succ_self _
    | digits _ digits => exact digits.length_lt
  have behindFraction : afterFraction.length ≤ afterWhole.length := by
    cases fraction with
    | none => exact Nat.le_refl _
    | point digits => exact Nat.le_succ_of_le (Nat.le_of_lt digits.length_lt)
  have behindExponent : rest.length ≤ afterFraction.length := by
    cases exponent with
    | none => exact Nat.le_refl _
    | plain _ digits | signed _ _ digits =>
      have := digits.length_lt
      simp only [List.length_cons]
      omega
  omega

theorem Number.length_lt (h : Number text rest) : rest.length < text.length := by
  cases h with
  | positive h => exact h.length_lt
  | negative h => exact Nat.lt_succ_of_lt h.length_lt

theorem digits_append {digits : List Char} (h : ∀ c ∈ digits, c.isDigit = true) (nonempty : digits ≠ [])
    (rest : List Char) : Digits (digits ++ rest) rest := by
  induction digits with
  | nil => exact absurd rfl nonempty
  | cons c digits ih =>
    have digit := h c List.mem_cons_self
    cases digits with
    | nil => exact .one digit rest
    | cons d digits => exact .more digit (ih (fun d hd => h d (List.mem_cons_of_mem _ hd)) (List.cons_ne_nil _ _))

theorem number_toString (n : Nat) (rest : List Char) : Number ((toString n).toList ++ rest) rest := by
  obtain ⟨d, ds, hn, digits, leading⟩ := exists_digits n
  have whole : Whole (d :: ds ++ rest) rest := by
    by_cases zero : d = '0'
    · obtain ⟨-, rfl⟩ := leading zero
      exact zero ▸ .zero rest
    · exact .digits (fun same => zero (Option.some.inj same)) (digits_append digits (List.cons_ne_nil _ _) rest)
  rw [hn]
  exact .positive ⟨rest, rest, whole, .none rest, .none rest⟩

end PackageAudit.Json
