import PackageAudit.Proofs.Catalog.Edited
import PackageAudit.Proofs.Markup.Reader

/-!
# Documents are read to an end

A document is read turn by turn: a reader gives the next event, a start tag opens an element, an end tag closes the
innermost one, and each entry is put behind those found before (`Reading.turn`). The reader keeps names of its own to
check end tags, apart from the names of the elements that are open (`Reading.InStep`).

One turn takes at least one byte of the text (`takes_of_turn`), keeps both lists of names in step (`InStep.turn`) and
does what the tokens of the text say (`rest_turn`). By induction on a run, its turns are at places that ascend, they are
no more than there are bytes and one for the end, and the run ends with what reading the document gives
(`Turns.eq_rest`).

Main statement: `read_ends`.
-/

namespace PackageAudit

open Markup

namespace Document

/-! ## Entries in the order in which they are found -/

/-- A document with one more entry behind those of its group, if there is one. -/
def push (found : Option (Group × Entry)) (d : Document) : Document :=
  match found with
  | none => d
  | some (.whens, entry) => { d with whens := d.whens ++ [entry] }
  | some (.actions, entry) => { d with actions := d.actions ++ [entry] }
  | some (.rules, entry) => { d with rules := d.rules ++ [entry] }

/-- The entries of a document and behind them those of another one. -/
def append (d e : Document) : Document where
  whens := d.whens ++ e.whens
  actions := d.actions ++ e.actions
  rules := d.rules ++ e.rules

theorem append_empty (d : Document) : d.append {} = d := by simp [append]

/-- An entry behind what was found stands in front of what is found later. -/
theorem append_push (found : Option (Group × Entry)) (d e : Document) :
    (d.push found).append e = d.append (e.add found) := by
  cases found with
  | none => rfl
  | some p =>
    obtain ⟨group, entry⟩ := p
    cases group <;> simp [push, append, add, cons]

/-! ## One turn -/

/-- A document while it is read: the reader, the names of the open elements, innermost first, and the entries that were
found. -/
structure Reading where
  reader : Reader
  opened : List String := []
  found : Document := {}

/-- What a turn leads to. -/
inductive Turn where
  | goesOn (s : Reading)
  | ends (result : Except Malformed Document)

namespace Reading

/-- A document that is about to be read. A byte order mark in front is not part of it. -/
def start (text : String) : Reading where
  reader.left := match text.toList with
    | '\uFEFF' :: rest => rest
    | text => text

/-- One turn: the place is noted, and the next event is dealt with. -/
def turn (sectionName : String) (s : Reading) : Turn :=
  let position := s.reader.offset
  match s.reader.next with
  | .error fault => .ends (.error ⟨position, fault⟩)
  | .ok (.start content, reader) =>
    match entryOf sectionName s.opened content with
    | .error fault => .ends (.error ⟨position, fault⟩)
    | .ok entry => .goesOn ⟨reader, String.ofList (tagName content) :: s.opened, s.found.push entry⟩
  | .ok (.empty content, reader) =>
    match entryOf sectionName s.opened content with
    | .error fault => .ends (.error ⟨position, fault⟩)
    | .ok entry => .goesOn ⟨reader, s.opened, s.found.push entry⟩
  | .ok (.close, reader) => .goesOn ⟨reader, s.opened.tail, s.found⟩
  | .ok (.other, reader) => .goesOn ⟨reader, s.opened, s.found⟩
  | .ok (.finish, _) =>
    match s.opened with
    | [] => .ends (.ok s.found)
    | name :: _ => .ends (.error ⟨position, .unclosedElement name⟩)

variable {sectionName : String} {s s' : Reading} {event : Event} {reader : Reader}

/-- The names of the elements that are open behind an event, given those in front of it. -/
def openedBehind (opened : List String) : Event → List String
  | .start content => String.ofList (tagName content) :: opened
  | .close => opened.tail
  | _ => opened

/-- **A turn after which reading goes on** had an event that was not the end, and opened and closed what that says. -/
theorem exists_event_of_turn (h : s.turn sectionName = .goesOn s') :
    ∃ event, s.reader.next = .ok (event, s'.reader) ∧ event ≠ .finish ∧ s'.opened = openedBehind s.opened event := by
  unfold turn at h
  split at h
  next => cases h
  next content reader hn =>
    split at h
    next => cases h
    next => cases h; exact ⟨_, hn, nofun, rfl⟩
  next content reader hn =>
    split at h
    next => cases h
    next => cases h; exact ⟨_, hn, nofun, rfl⟩
  next hn => cases h; exact ⟨_, hn, nofun, rfl⟩
  next hn => cases h; exact ⟨_, hn, nofun, rfl⟩
  next => split at h <;> cases h

/-- **A turn after which reading goes on takes at least one byte** from the front of what was left. -/
theorem takes_of_turn (h : s.turn sectionName = .goesOn s') : s.reader.offset < s'.reader.offset
    ∧ s'.reader.offset + Text.Utf8.size s'.reader.left = s.reader.offset + Text.Utf8.size s.reader.left := by
  obtain ⟨event, hn, unfinished, -⟩ := exists_event_of_turn h
  obtain ⟨taken, takes, some_taken⟩ := Reader.exists_takes_of_next hn
  exact ⟨takes.offset_lt (some_taken unfinished), takes.bytes⟩

/-- A turn that ends with a fault reports its own place. -/
theorem position_of_turn {m : Malformed} (h : s.turn sectionName = .ends (.error m)) :
    m.position = s.reader.offset := by
  unfold turn at h
  split at h
  next => cases h; rfl
  next => split at h <;> cases h; rfl
  next => split at h <;> cases h; rfl
  next => cases h
  next => cases h
  next => split at h <;> cases h; rfl

/-- Whether the names that the reader keeps are those of the open elements. -/
def InStep (s : Reading) : Prop :=
  s.opened = s.reader.opened.map String.ofList

/-- **Where an end tag is an event an element is open.** -/
theorem InStep.opened_ne_nil (h : s.InStep) (hn : s.reader.next = .ok (.close, reader)) : s.opened ≠ [] := by
  obtain ⟨name, hopened⟩ := Reader.opened_of_next hn
  rw [h, hopened]
  exact List.cons_ne_nil _ _

/-- **A turn keeps the names in step.** -/
theorem InStep.turn (h : s.InStep) (ht : s.turn sectionName = .goesOn s') : s'.InStep := by
  obtain ⟨event, hn, -, hopened⟩ := exists_event_of_turn ht
  have kept := Reader.opened_of_next hn
  unfold InStep at h ⊢
  rw [hopened, h]
  cases event with
  | start content =>
    have names : s'.reader.opened = tagName content :: s.reader.opened := kept
    rw [names]
    rfl
  | close =>
    obtain ⟨name, names⟩ := kept
    rw [names]
    rfl
  | empty | other | finish =>
    have names : s'.reader.opened = s.reader.opened := kept
    rw [names]
    rfl

/-! ## What the tokens say -/

/-- What the tokens of the text that is left say, put behind what was found. -/
def rest (sectionName : String) (s : Reading) (fuel : Nat) : Except Malformed Document :=
  (ofTokens sectionName s.opened none (tokensFrom fuel s.reader.offset s.reader.left)).map s.found.append

variable {chars text : List Char} {fuel : Nat}

theorem placeBehind_blanks (blank : ∀ c ∈ chars, isSpace c = true) (offset : Nat) :
    (if chars = [] then none else placeBehind offset (.text chars)).getD (offset + Text.Utf8.size chars) = offset := by
  cases chars with
  | nil => rfl
  | cons c chars =>
    have all : (c :: chars).all isSpace = true := List.all_eq_true.mpr blank
    rw [if_neg (List.cons_ne_nil c chars), placeBehind, if_pos all]
    rfl

theorem plain_of_blanks (blank : ∀ c ∈ chars, isSpace c = true) : '<' ∉ chars := by
  intro hm
  exact absurd (blank _ hm) (by decide)

/-- The tokens pass over a text in front of markup, or at the end. -/
theorem rest_of_text (sectionName : String) (whole : s.reader.left = chars ++ text) (plain : '<' ∉ chars)
    (ht : ∀ c ∈ text.head?, c = '<') (hf : s.reader.left.length < fuel) :
    ∃ fuel', text.length < fuel' ∧ s.rest sectionName fuel
      = (ofTokens sectionName s.opened (if chars = [] then none else placeBehind s.reader.offset (.text chars))
          (tokensFrom fuel' (s.reader.offset + Text.Utf8.size chars) text)).map s.found.append := by
  rw [whole] at hf
  obtain ⟨fuel', hf', passed⟩ := ofTokens_run plain ht none s.reader.offset hf
  refine ⟨fuel', hf', ?_⟩
  rw [rest, whole, passed]

/-- Where only blanks are left, the tokens say that the text ends. -/
theorem rest_of_blanks (sectionName : String) (blank : ∀ c ∈ s.reader.left, isSpace c = true)
    (hf : s.reader.left.length < fuel) : s.rest sectionName fuel = match s.opened with
      | [] => .ok s.found
      | name :: _ => .error ⟨s.reader.offset, .unclosedElement name⟩ := by
  obtain ⟨fuel', hf', passed⟩ :=
    rest_of_text sectionName (List.append_nil _).symm (plain_of_blanks blank) (by simp) hf
  obtain ⟨fuel', rfl⟩ : ∃ n, fuel' = n + 1 := ⟨fuel' - 1, by simp at hf'; omega⟩
  rw [passed, tokensFrom]
  cases s.opened with
  | nil => exact congrArg Except.ok s.found.append_empty
  | cons name outer =>
    rw [ofTokens]
    simp only [placeBehind_blanks blank]
    rfl

/-- Behind blanks the tokens say what the piece of markup is. -/
theorem rest_of_markup (sectionName : String) (whole : s.reader.left = chars ++ '<' :: text)
    (blank : ∀ c ∈ chars, isSpace c = true) (hf : s.reader.left.length < fuel) :
    ∃ fuel', text.length < fuel' ∧ s.rest sectionName fuel
      = match readPiece sectionName s.opened text with
        | .error fault => .error ⟨s.reader.offset, fault⟩
        | .ok (found, opened', left) =>
          (ofTokens sectionName opened' none (tokensFrom fuel' (s.reader.goTo left).offset left)).map
            (s.found.push found).append := by
  obtain ⟨fuel', hf', passed⟩ := rest_of_text sectionName whole (plain_of_blanks blank) (by simp) hf
  obtain ⟨fuel', rfl⟩ : ∃ n, fuel' = n + 1 := ⟨fuel' - 1, by omega⟩
  refine ⟨fuel', by simpa using hf', ?_⟩
  rw [passed, ofTokens_readPiece, placeBehind_blanks blank]
  cases hp : readPiece sectionName s.opened text with
  | error fault => rfl
  | ok read =>
    obtain ⟨found, opened', left⟩ := read
    have smaller := (rest_le_of_readPiece hp).2
    have place : s.reader.offset + Text.Utf8.size chars + (1 + (Text.Utf8.size text - Text.Utf8.size left))
        = (s.reader.goTo left).offset := by
      show _ = s.reader.offset + (Text.Utf8.size s.reader.left - Text.Utf8.size left)
      have bracket : Text.Utf8.size ('<' :: text) = 1 + Text.Utf8.size text := rfl
      rw [whole, Text.Utf8.size_append, bracket]
      omega
    simp only [place]
    cases ofTokens sectionName opened' none (tokensFrom fuel' (s.reader.goTo left).offset left) with
    | error m => rfl
    | ok d => exact congrArg Except.ok (append_push found s.found d).symm

/-- Other characters are passed over by the tokens, too. -/
theorem rest_of_characters (sectionName : String) (whole : s.reader.left = chars ++ text) (plain : '<' ∉ chars)
    (shown : ∃ c ∈ chars, isSpace c = false) (ht : ∀ c ∈ text.head?, c = '<') (hf : s.reader.left.length < fuel) :
    ∃ fuel', text.length < fuel'
      ∧ s.rest sectionName fuel = rest sectionName ⟨s.reader.goTo text, s.opened, s.found⟩ fuel' := by
  have place : s.reader.offset + Text.Utf8.size chars = (s.reader.goTo text).offset :=
    (Reader.takes_goTo whole).offset.symm
  obtain ⟨fuel', hf', passed⟩ := rest_of_text sectionName whole plain ht hf
  refine ⟨fuel', hf', ?_⟩
  have own : (if chars = [] then none else placeBehind s.reader.offset (.text chars)) = none := by
    obtain ⟨c, hc, seen⟩ := shown
    have not_all : chars.all isSpace = false := List.all_eq_false.mpr ⟨c, hc, by simp [seen]⟩
    rw [placeBehind, not_all]
    simp
  rw [passed, own, place]
  rfl

theorem readPiece_of_readMarkup {opened : List String} {token : Token} {left : List Char}
    (hr : readMarkup text = .ok (token, left)) : readPiece sectionName opened text
      = match step sectionName opened token with
        | .error fault => .error fault
        | .ok (found, opened') => .ok (found, opened', left) := by
  rw [readPiece, hr]
  show Except.bind (step sectionName opened token) _ = _
  cases step sectionName opened token <;> rfl

/-- A piece of markup makes the turn that the tokens say. -/
theorem turn_of_markup (sectionName : String) (h : s.InStep) (whole : s.reader.left = chars ++ '<' :: text)
    (blank : ∀ c ∈ chars, isSpace c = true) :
    match readPiece sectionName s.opened text with
    | .error fault => s.turn sectionName = .ends (.error ⟨s.reader.offset, fault⟩)
    | .ok (found, opened', left) => ∃ names,
      s.turn sectionName = .goesOn ⟨{ s.reader.goTo left with opened := names }, opened', s.found.push found⟩ := by
  rw [turn, Reader.next_of_markup whole blank]
  cases hr : readMarkup text with
  | error fault => rw [readPiece, hr]; rfl
  | ok read =>
    obtain ⟨token, left⟩ := read
    have markup := (isMarkup_of_readMarkup hr).1
    rw [readPiece_of_readMarkup hr]
    cases token with
    | text | finish | broken => cases markup
    | other => exact ⟨_, rfl⟩
    | start content =>
      simp only [Reader.accept, step]
      cases entryOf sectionName s.opened content with
      | error fault => rfl
      | ok found => exact ⟨_, rfl⟩
    | empty content =>
      simp only [Reader.accept, step]
      cases entryOf sectionName s.opened content with
      | error fault => rfl
      | ok found => exact ⟨_, rfl⟩
    | close name =>
      have kept : (s.reader.goTo left).opened = s.reader.opened := rfl
      rw [h]
      simp only [Reader.accept, step, kept]
      cases s.reader.opened with
      | nil => rfl
      | cons expected outer =>
        by_cases same : expected = name
        · subst same
          simp only [List.map_cons, if_true]
          exact ⟨outer, rfl⟩
        · have other : String.ofList expected ≠ String.ofList name := fun he => same (String.ofList_injective he)
          simp only [List.map_cons, if_neg same, if_neg other]

/-- **A turn does what the tokens say**: it ends with it, or leaves it to be said. -/
theorem rest_turn (sectionName : String) (h : s.InStep) (hf : s.reader.left.length < fuel) :
    match s.turn sectionName with
    | .ends result => s.rest sectionName fuel = result
    | .goesOn s' => ∃ fuel', s'.reader.left.length < fuel' ∧ s.rest sectionName fuel = s'.rest sectionName fuel' := by
  -- Blanks in front of markup are a token of their own but no event of their own, so the cases are those of what
  -- stands in front and not those of the tokens.
  have begun := front s.reader.left
  generalize hleft : s.reader.left = left at begun
  cases begun with
  | blanks blank =>
    rw [← hleft] at blank
    have said := rest_of_blanks sectionName blank hf
    rw [turn, Reader.next_of_blanks blank]
    cases ho : s.opened with
    | nil => rw [said, ho]
    | cons name outer => rw [said, ho]
  | @markup chars blank text =>
    obtain ⟨fuel', hf', said⟩ := rest_of_markup sectionName hleft blank hf
    have made := turn_of_markup sectionName h hleft blank
    cases hp : readPiece sectionName s.opened text with
    | error fault =>
      rw [hp] at said made
      rw [made]
      exact said
    | ok read =>
      obtain ⟨found, opened', left⟩ := read
      rw [hp] at said made
      obtain ⟨names, made⟩ := made
      rw [made]
      exact ⟨fuel', Nat.lt_of_le_of_lt (rest_le_of_readPiece hp).1 hf', said⟩
  | characters plain shown ht =>
    rw [turn, Reader.next_of_characters hleft plain shown ht]
    exact rest_of_characters sectionName hleft plain shown ht hf

end Reading

/-! ## Runs -/

/-- A run: the turns from where it begins, up to the one that ends it, and the result. -/
inductive Turns (sectionName : String) : Reading → List Reading → Except Malformed Document → Prop
  | last {s : Reading} {result : Except Malformed Document} (h : s.turn sectionName = .ends result) :
      Turns sectionName s [s] result
  | next {s s' : Reading} {turns : List Reading} {result : Except Malformed Document}
      (h : s.turn sectionName = .goesOn s') (later : Turns sectionName s' turns result) :
      Turns sectionName s (s :: turns) result

section Runs

variable {sectionName : String} {s : Reading} {turns turns' : List Reading} {result result' : Except Malformed Document}

/-- **Every run ends**, since there are fewer bytes left at every turn. -/
theorem exists_turns (sectionName : String) : ∀ (n : Nat) (s : Reading), Text.Utf8.size s.reader.left = n →
    ∃ turns result, Turns sectionName s turns result := by
  -- A turn can take a whole comment at once, so the induction is on bytes and does not go down one by one.
  intro n
  induction n using Nat.strongRecOn with
  | ind n ih =>
    intro s hn
    cases h : s.turn sectionName with
    | ends result => exact ⟨[s], result, .last h⟩
    | goesOn s' =>
      obtain ⟨farther, bytes⟩ := Reading.takes_of_turn h
      obtain ⟨turns, result, later⟩ := ih _ (by omega) s' rfl
      exact ⟨s :: turns, result, .next h later⟩

namespace Turns

/-- Where a run begins says all of it. -/
theorem unique (h : Turns sectionName s turns result) (h' : Turns sectionName s turns' result') :
    turns' = turns ∧ result' = result := by
  induction h generalizing turns' with
  | last h =>
    cases h' with
    | last h' => rw [h] at h'; cases h'; exact ⟨rfl, rfl⟩
    | next h' => rw [h] at h'; cases h'
  | next h _ ih =>
    cases h' with
    | last h' => rw [h] at h'; cases h'
    | next h' later' =>
      rw [h] at h'
      cases h'
      obtain ⟨rfl, rfl⟩ := ih later'
      exact ⟨rfl, rfl⟩

/-- What was taken and what is left are the whole text, at every turn. -/
theorem bytes (h : Turns sectionName s turns result) : ∀ t ∈ turns,
    t.reader.offset + Text.Utf8.size t.reader.left = s.reader.offset + Text.Utf8.size s.reader.left := by
  induction h with
  | last => simp
  | next h _ ih =>
    rw [(Reading.takes_of_turn h).2] at ih
    exact List.forall_mem_cons.mpr ⟨rfl, ih⟩

theorem offset_le (h : Turns sectionName s turns result) : ∀ t ∈ turns, s.reader.offset ≤ t.reader.offset := by
  induction h with
  | last => simp
  | next h _ ih =>
    have farther := (Reading.takes_of_turn h).1
    exact List.forall_mem_cons.mpr ⟨Nat.le_refl _, fun t ht => (Nat.le_of_lt farther).trans (ih t ht)⟩

/-- **The turns are at places that ascend.** -/
theorem ascending (h : Turns sectionName s turns result) : (turns.map (·.reader.offset)).Pairwise (· < ·) := by
  induction h with
  | last => simp
  | next h later ih =>
    refine List.pairwise_cons.mpr ⟨fun offset ho => ?_, ih⟩
    obtain ⟨t, ht, rfl⟩ := List.mem_map.mp ho
    exact Nat.lt_of_lt_of_le (Reading.takes_of_turn h).1 (later.offset_le t ht)

/-- **There are no more turns than bytes**, and one for the end. -/
theorem length_le (h : Turns sectionName s turns result) : turns.length ≤ Text.Utf8.size s.reader.left + 1 := by
  induction h with
  | last => simp
  | next h _ ih =>
    obtain ⟨farther, bytes⟩ := Reading.takes_of_turn h
    rw [List.length_cons]
    omega

theorem inStep (h : Turns sectionName s turns result) (begun : s.InStep) : ∀ t ∈ turns, t.InStep := by
  induction h with
  | last => simpa using begun
  | next h _ ih => exact List.forall_mem_cons.mpr ⟨begun, ih (begun.turn h)⟩

/-- **A run ends with what the tokens of the text say.** -/
theorem eq_rest (h : Turns sectionName s turns result) (begun : s.InStep) : ∀ {fuel : Nat},
    s.reader.left.length < fuel → s.rest sectionName fuel = result := by
  -- The fuel is what the tokens have left after each turn, so the induction is for every fuel that is enough.
  induction h with
  | last h =>
    intro fuel hf
    have said := Reading.rest_turn sectionName begun hf
    rw [h] at said
    exact said
  | next h _ ih =>
    intro fuel hf
    have said := Reading.rest_turn sectionName begun hf
    rw [h] at said
    obtain ⟨fuel', hf', said⟩ := said
    rw [said]
    exact ih (begun.turn h) hf'

theorem exists_position (h : Turns sectionName s turns result) {m : Malformed} (hm : result = .error m) :
    ∃ t ∈ turns, m.position = t.reader.offset := by
  induction h with
  | last h =>
    subst hm
    exact ⟨_, List.mem_singleton.mpr rfl, Reading.position_of_turn h⟩
  | next _ _ ih =>
    obtain ⟨t, ht, place⟩ := ih hm
    exact ⟨t, List.mem_cons_of_mem _ ht, place⟩

end Turns

end Runs

/-! ## Whole texts -/

/-- A document that is about to be read holds no more bytes than its text. -/
theorem size_start_le (text : String) :
    Text.Utf8.size (Reading.start text).reader.left ≤ Text.Utf8.size text.toList := by
  show Text.Utf8.size (match text.toList with
    | '\uFEFF' :: rest => rest
    | text => text) ≤ _
  split
  next rest hm => rw [hm]; exact Nat.le_add_left _ _
  next => exact Nat.le_refl _

theorem rest_start (text sectionName : String) :
    (Reading.start text).rest sectionName ((Reading.start text).reader.left.length + 1) = read text sectionName := by
  show (read text sectionName).map (({} : Document).append) = _
  cases read text sectionName <;> rfl

/-- **Documents are read to an end**, whatever the text is and whatever the section is called. There is one run from the
start, and it ends with what reading the document gives, after no more turns than there are bytes and one for the end.
The places of its turns ascend. At each turn an event takes at least one byte from the front of what is left, unless it
is the end; and where an end tag is an event an element is open. A fault is reported at a place within the text. The
attributes of a tag are read to its end as well. -/
theorem read_ends (text sectionName : String) : ∃ turns,
    Turns sectionName (.start text) turns (read text sectionName)
      ∧ (∀ turns' result, Turns sectionName (.start text) turns' result →
          turns' = turns ∧ result = read text sectionName)
      ∧ turns.length ≤ Text.Utf8.size text.toList + 1
      ∧ (turns.map (·.reader.offset)).Pairwise (· < ·)
      ∧ (∀ s ∈ turns, ∀ event reader, s.reader.next = .ok (event, reader) →
          (event ≠ .finish → s.reader.offset < reader.offset)
            ∧ (∃ taken, s.reader.Takes taken reader)
            ∧ (event = .close → s.opened ≠ []))
      ∧ (∀ m, read text sectionName = .error m → m.position ≤ Text.Utf8.size text.toList)
      ∧ ∀ content fuel, content.length < fuel →
        readAttributesFrom (Text.Utf8.size content) fuel [] (Text.Utf8.size (tagName content))
          (content.drop (tagName content).length) = readAttributes content := by
  have bound := size_start_le text
  have begun : (Reading.start text).InStep := rfl
  obtain ⟨turns, result, run⟩ := exists_turns sectionName _ (Reading.start text) rfl
  obtain rfl : read text sectionName = result := by
    rw [← rest_start, run.eq_rest begun (Nat.lt_succ_self _)]
  refine ⟨turns, run, fun _ _ h => run.unique h, ?_, run.ascending, ?_, ?_, fun _ _ => readAttributes_enough⟩
  · exact run.length_le.trans (Nat.succ_le_succ bound)
  · intro s hs event reader hn
    obtain ⟨taken, takes, some_taken⟩ := Reader.exists_takes_of_next hn
    refine ⟨fun unfinished => ?_, ⟨taken, takes⟩, ?_⟩
    · exact takes.offset_lt (some_taken unfinished)
    · rintro rfl
      exact (run.inStep begun s hs).opened_ne_nil hn
  · intro m hm
    obtain ⟨s, hs, place⟩ := run.exists_position hm
    have whole : s.reader.offset + Text.Utf8.size s.reader.left
        = 0 + Text.Utf8.size (Reading.start text).reader.left := run.bytes s hs
    omega

end Document
end PackageAudit
