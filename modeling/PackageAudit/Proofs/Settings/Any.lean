import PackageAudit.Proofs.Settings.Layout

/-!
# Reading any value

`readAny` reads a value of any kind with the steps that settings are read with; a number keeps its literal. A value is
read back from how it was written (`readDocument_pretty`).
-/

namespace PackageAudit.Settings

open Json

/-! ## The reader -/

/-- Reads the items of an array after its bracket, each with `read`. Every item takes a character, so fuel above the
length of the text never runs out. -/
def readSequence (read : Reader Value) : Nat → Bool → Reader (List Value)
  | 0, _, _ => .error (.fault .syntactic)
  | fuel + 1, first, text => do
    match ← nextItem first text with
    | (false, rest) => .ok ([], rest)
    | (true, rest) =>
      let (item, rest) ← read rest
      let (items, rest) ← readSequence read fuel false rest
      .ok (item :: items, rest)

/-- Reads the members of an object after its brace, each value with `read`. -/
def readMap (read : Reader Value) : Nat → Bool → Reader (List (List Char × Value))
  | 0, _, _ => .error (.fault .syntactic)
  | fuel + 1, first, text => do
    match ← nextKey first text with
    | (false, rest) => .ok ([], rest)
    | (true, rest) =>
      let (key, rest) ← lift (readQuoted rest)
      let (value, rest) ← read (← lift (readColon rest))
      let (members, rest) ← readMap read fuel false rest
      .ok ((key, value) :: members, rest)

/-- Reads a number, of which the literal is kept. -/
def readLiteral (text : List Char) : Except Fault (Value × List Char) :=
  (fun rest => (.number (text.take (text.length - rest.length)), rest)) <$> skipNumber text

/-- Reads a value in which fewer than `levels` brackets are open at once. -/
def readAny : Nat → Reader Value
  | 0, _ => .error (.fault .syntactic)
  | levels + 1, text =>
    match skipSpace text with
    | [] => .error (.fault .unfinished)
    | 'n' :: rest => lift ((fun rest => (.null, rest)) <$> readWord ['u', 'l', 'l'] rest)
    | 't' :: rest => lift ((fun rest => (.bool true, rest)) <$> readWord ['r', 'u', 'e'] rest)
    | 'f' :: rest => lift ((fun rest => (.bool false, rest)) <$> readWord ['a', 'l', 's', 'e'] rest)
    | '"' :: rest => lift ((fun p => (.string p.1, p.2)) <$> readQuoted rest)
    | '[' :: rest =>
      if levels = 0 then .error (.fault .syntactic)
      else (fun p => (.array p.1, p.2)) <$> readSequence (readAny levels) (rest.length + 1) true rest
    | '\x7b' :: rest =>
      if levels = 0 then .error (.fault .syntactic)
      else (fun p => (.object p.1, p.2)) <$> readMap (readAny levels) (rest.length + 1) true rest
    | c :: rest => if c = '-' ∨ c.isDigit then lift (readLiteral (c :: rest)) else .error (.fault .syntactic)

/-- Reads a document, with at most 127 brackets open at once. -/
def readDocument (text : List Char) : Except DecodeError Value := do
  let (v, rest) ← readAny 128 text
  match skipSpace rest with
  | [] => .ok v
  | _ => .error (.fault .syntactic)

variable {text rest : List Char} {levels : Nat}

/-! ## Reading what was written -/

/-- A written value that something may follow is read back. -/
def Reads (levels : Nat) (v : Value) : Prop :=
  ∀ (depth : Nat) {rest : List Char}, Ended rest → readAny levels (v.prettyAt depth ++ rest) = .ok (v, rest)

/-- The items after the first are read back. -/
theorem readSequence_prettyItems (depth outer : Nat) (rest : List Char) : ∀ {items : List Value} {fuel : Nat},
    (∀ item ∈ items, Begun (item.prettyAt depth) ∧ Reads levels item) → items.length < fuel →
    readSequence (readAny levels) fuel false (Value.prettyItems depth items ++ (newLine outer ++ ']' :: rest))
      = .ok (items, rest)
  | [], fuel, _, hf => by
    obtain ⟨fuel, rfl⟩ : ∃ n, fuel = n + 1 := ⟨fuel - 1, by simp at hf; omega⟩
    rw [readSequence, Value.prettyItems, List.nil_append, nextItem_close false (blanks_newLine outer _)]
    rfl
  | item :: items, fuel, each, hf => by
    obtain ⟨fuel, rfl⟩ : ∃ n, fuel = n + 1 := ⟨fuel - 1, by simp at hf; omega⟩
    obtain ⟨begun, reads⟩ := each item List.mem_cons_self
    let after := Value.prettyItems depth items ++ (newLine outer ++ ']' :: rest)
    have this : readAny levels (item.prettyAt depth ++ after) = .ok (item, after) :=
      reads depth (ended_prettyItems depth items (ended_newLine outer (']' :: rest)))
    have later : readSequence (readAny levels) fuel false after = .ok (items, rest) :=
      readSequence_prettyItems depth outer rest (fun i hi => each i (List.mem_cons_of_mem _ hi)) (by simp at hf; omega)
    rw [prettyItems_cons, readSequence, nextItem_next (.none _) (blanks_newLine depth _) (begun.append after)]
    simp only [bind, Except.bind, this, later]

theorem readAny_blank (levels : Nat) (text : List Char) : readAny levels (' ' :: text) = readAny levels text := by
  cases levels <;> rfl

theorem readKey (key after : List Char) : lift (readQuoted (key.flatMap escapeChar ++ '"' :: ':' :: ' ' :: after))
    = .ok (key, ':' :: ' ' :: after) := by
  rw [(quoted_quote key _).read]
  rfl

theorem readColon_cons (text : List Char) : lift (readColon (':' :: text)) = .ok text :=
  rfl

/-- The members after the first are read back. -/
theorem readMap_prettyMembers (depth outer : Nat) (rest : List Char) : ∀ {members : List (List Char × Value)}
    {fuel : Nat}, (∀ member ∈ members, Reads levels member.2) → members.length < fuel →
    readMap (readAny levels) fuel false (Value.prettyMembers depth members ++ (newLine outer ++ '\x7d' :: rest))
      = .ok (members, rest)
  | [], fuel, _, hf => by
    obtain ⟨fuel, rfl⟩ : ∃ n, fuel = n + 1 := ⟨fuel - 1, by simp at hf; omega⟩
    rw [readMap, Value.prettyMembers, List.nil_append, nextKey_close false (blanks_newLine outer _)]
    rfl
  | (key, v) :: members, fuel, each, hf => by
    obtain ⟨fuel, rfl⟩ : ∃ n, fuel = n + 1 := ⟨fuel - 1, by simp at hf; omega⟩
    let after := Value.prettyMembers depth members ++ (newLine outer ++ '\x7d' :: rest)
    have this : readAny levels (v.prettyAt depth ++ after) = .ok (v, after) :=
      each _ List.mem_cons_self depth (ended_prettyMembers depth members (ended_newLine outer ('\x7d' :: rest)))
    have later : readMap (readAny levels) fuel false after = .ok (members, rest) :=
      readMap_prettyMembers depth outer rest (fun m hm => each m (List.mem_cons_of_mem _ hm)) (by simp at hf; omega)
    rw [prettyMembers_cons, quote_append]
    show readMap _ _ _ (',' :: (newLine depth ++ '"' :: (_ ++ '"' :: ':' :: ' ' :: (_ ++ after)))) = _
    rw [readMap, nextKey_next (.none _) (blanks_newLine depth _)]
    simp only [bind, Except.bind, readKey, readColon_cons, readAny_blank, this, later]

/-- An array is read back if its items are. -/
theorem reads_array {items : List Value}
    (each : ∀ item ∈ items, (∀ depth, Begun (item.prettyAt depth)) ∧ Reads (levels + 1) item) :
    Reads (levels + 2) (.array items) := by
  intro depth rest _
  have opening (text : List Char) : readAny (levels + 2) ('[' :: text)
      = (fun p => (.array p.1, p.2)) <$> readSequence (readAny (levels + 1)) (text.length + 1) true text := rfl
  cases items with
  | nil => rfl
  | cons item items =>
    obtain ⟨begun, reads⟩ := each item List.mem_cons_self
    let after := Value.prettyItems (depth + 1) items ++ (newLine depth ++ ']' :: rest)
    let inside := newLine (depth + 1) ++ (item.prettyAt (depth + 1) ++ after)
    have this : readAny (levels + 1) (item.prettyAt (depth + 1) ++ after) = .ok (item, after) :=
      reads (depth + 1) (ended_prettyItems (depth + 1) items (ended_newLine depth (']' :: rest)))
    have enough : items.length < inside.length := by
      have := length_le_prettyItems (depth + 1) items
      simp only [inside, after, newLine, List.length_append, List.length_cons]
      omega
    have later : readSequence (readAny (levels + 1)) inside.length false after = .ok (items, rest) :=
      readSequence_prettyItems (depth + 1) depth rest
        (fun i hi => ⟨(each i (List.mem_cons_of_mem _ hi)).1 _, (each i (List.mem_cons_of_mem _ hi)).2⟩) enough
    rw [prettyAt_array]
    show readAny _ ('[' :: inside) = _
    rw [opening, readSequence, nextItem_first (blanks_newLine (depth + 1) _) ((begun (depth + 1)).append after)]
    simp only [bind, Except.bind, this, later]
    rfl

/-- An object is read back if its values are. -/
theorem reads_object {members : List (List Char × Value)} (each : ∀ member ∈ members, Reads (levels + 1) member.2) :
    Reads (levels + 2) (.object members) := by
  intro depth rest _
  have opening (text : List Char) : readAny (levels + 2) ('\x7b' :: text)
      = (fun p => (.object p.1, p.2)) <$> readMap (readAny (levels + 1)) (text.length + 1) true text := rfl
  cases members with
  | nil => rfl
  | cons member members =>
    obtain ⟨key, v⟩ := member
    let after := Value.prettyMembers (depth + 1) members ++ (newLine depth ++ '\x7d' :: rest)
    let inside := newLine (depth + 1)
      ++ '"' :: (key.flatMap escapeChar ++ '"' :: ':' :: ' ' :: (v.prettyAt (depth + 1) ++ after))
    have ended : Ended after := ended_prettyMembers (depth + 1) members (ended_newLine depth ('\x7d' :: rest))
    have this : readAny (levels + 1) (v.prettyAt (depth + 1) ++ after) = .ok (v, after) :=
      each _ List.mem_cons_self (depth + 1) ended
    have enough : members.length < inside.length := by
      have := length_le_prettyMembers (depth + 1) members
      simp only [inside, after, newLine, List.length_append, List.length_cons]
      omega
    have later : readMap (readAny (levels + 1)) inside.length false after = .ok (members, rest) :=
      readMap_prettyMembers (depth + 1) depth rest (fun m hm => each m (List.mem_cons_of_mem _ hm)) enough
    rw [prettyAt_object, quote_append]
    show readAny _ ('\x7b' :: inside) = _
    rw [opening, readMap, nextKey_first (blanks_newLine (depth + 1) _)]
    simp only [bind, Except.bind, readKey, readColon_cons, readAny_blank, this, later]
    rfl

/-- A number is read back as its literal. -/
theorem readAny_toString (n : Nat) (ended : Ended rest) :
    readAny (levels + 1) ((toString n).toList ++ rest) = .ok (.number (toString n).toList, rest) := by
  have blanks := ((begun_toString n).append rest).skipSpace
  have literal : readLiteral ((toString n).toList ++ rest) = .ok (.number (toString n).toList, rest) := by
    rw [readLiteral, (number_toString n rest).skip ended.closed]
    show Except.ok (Value.number _, rest) = _
    rw [List.length_append, Nat.add_sub_cancel, List.take_left]
  obtain ⟨d, ds, hn, digits, -⟩ := exists_digits n
  have first : d.isDigit = true := digits d List.mem_cons_self
  rw [hn] at blanks literal ⊢
  unfold readAny
  rw [blanks]
  split
  case h_8 same => cases same; rw [if_pos (.inr first)]; exact congrArg lift literal
  case h_1 none => cases none
  all_goals next same => cases same; exact absurd first (by decide)

/-- **A written value is read back**, if its brackets are nested less deeply than is allowed. -/
theorem reads_of_fits {v : Value} (h : v.Fits levels) : Reads (levels + 1) v := by
  induction h with
  | null => intro depth rest _; rfl
  | bool b => intro depth rest _; cases b <;> rfl
  | number n => exact fun _ _ ended => readAny_toString n ended
  | @string levels text =>
    intro depth rest _
    have step (after : List Char) : readAny (levels + 1) ('"' :: after)
        = lift ((fun p => (.string p.1, p.2)) <$> readQuoted after) := rfl
    rw [Value.prettyAt, quote_append, step, (quoted_quote text rest).read]
    rfl
  | array fits each => exact reads_array fun item hi => ⟨(fits item hi).begun, each item hi⟩
  | object _ each => exact reads_object each

/-- **A written document is read back.** -/
theorem readDocument_pretty {v : Value} (h : v.Fits 127) : readDocument v.pretty.toList = .ok v := by
  have whole := reads_of_fits h 0 ended_nil
  rw [List.append_nil] at whole
  rw [Value.pretty, String.toList_ofList, readDocument, whole]
  rfl

end PackageAudit.Settings
