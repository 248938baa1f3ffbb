import Mathlib.Data.List.TakeWhile
import PackageAudit.Proofs.Lists
import PackageAudit.Proofs.Markup.Read

/-!
# Reading event by event

A reader goes through a text from one event to the next one. It passes over blanks, takes a piece of markup or the
characters in front of the next one, and checks each end tag against the names of the elements that are open
(`Reader.next`).

Whatever the text is, what a reader takes for an event is a front of what was left, and it is not empty unless the text
has ended (`Reader.exists_takes_of_next`). An end tag is an event only if an element is open
(`Reader.opened_of_next`). The attributes of a tag are read to the end of the tag, however long it is
(`readAttributes_enough`).
-/

namespace PackageAudit.Markup

/-- What a reader comes to in a text. -/
inductive Event where
  /-- A start tag, given what stands between its angle brackets. -/
  | start (content : List Char)
  /-- A tag of an element without content, less its final slash. -/
  | empty (content : List Char)
  /-- The end tag of the innermost open element. -/
  | close
  /-- Characters that are not all blank, or markup that opens and closes no element. -/
  | other
  /-- The end of the text. -/
  | finish

/-- A reader: what is left of its text, how many bytes it has taken, and the names of the open elements, innermost
first. -/
structure Reader where
  left : List Char
  offset : Nat := 0
  opened : List (List Char) := []

namespace Reader

/-- The reader after it went on to where `left` is left. -/
def goTo (r : Reader) (left : List Char) : Reader :=
  { r with left, offset := r.offset + (Text.Utf8.size r.left - Text.Utf8.size left) }

/-- Makes an event of a piece of markup. The name of a start tag is kept until its end tag, which has to have it. -/
def accept (r : Reader) : Token → Except Fault (Event × Reader)
  | .start content => .ok (.start content, { r with opened := tagName content :: r.opened })
  | .empty content => .ok (.empty content, r)
  | .close name =>
    match r.opened with
    | [] => .error (.unmatchedEnd (String.ofList name))
    | expected :: outer =>
      if expected = name then .ok (.close, { r with opened := outer })
      else .error (.mismatchedEnd (String.ofList expected) (String.ofList name))
  | _ => .ok (.other, r)

/-- Reads the next event, or stops at a fault. -/
def next (r : Reader) : Except Fault (Event × Reader) :=
  match r.left.dropWhile isSpace with
  | [] => .ok (.finish, r.goTo [])
  | c :: text =>
    if c = '<' then
      match readMarkup text with
      | .error fault => .error fault
      | .ok (token, rest) => (r.goTo rest).accept token
    else .ok (.other, r.goTo ((c :: text).dropWhile (· ≠ '<')))

end Reader

/-! ## What stands in front -/

/-- What a text begins with: blanks up to its end, blanks and a tag, or other characters up to a tag or to the end. -/
inductive Front : List Char → Prop
  | blanks {chars : List Char} (blank : ∀ c ∈ chars, isSpace c = true) : Front chars
  | markup {chars : List Char} (blank : ∀ c ∈ chars, isSpace c = true) (text : List Char) : Front (chars ++ '<' :: text)
  | characters {chars text : List Char} (plain : '<' ∉ chars) (shown : ∃ c ∈ chars, isSpace c = false)
      (ht : ∀ c ∈ text.head?, c = '<') : Front (chars ++ text)

/-- Every text begins in one of these ways. -/
theorem front (text : List Char) : Front text := by
  have blank : ∀ c ∈ text.takeWhile isSpace, isSpace c = true := fun c hc => List.mem_takeWhile_imp hc
  have whole : text.takeWhile isSpace ++ text.dropWhile isSpace = text := List.takeWhile_append_dropWhile
  cases hr : text.dropWhile isSpace with
  | nil =>
    rw [hr, List.append_nil] at whole
    exact .blanks (whole ▸ blank)
  | cons c rest =>
    rw [hr] at whole
    by_cases tag : c = '<'
    · subst tag
      exact whole ▸ .markup blank rest
    · have shown : isSpace c = false := by
        have := List.head?_dropWhile_not isSpace text
        rw [hr] at this
        simpa using this
      have split : text = (text.takeWhile isSpace ++ (c :: rest).takeWhile (· ≠ '<'))
          ++ (c :: rest).dropWhile (· ≠ '<') := by
        rw [List.append_assoc, List.takeWhile_append_dropWhile, whole]
      rw [split]
      refine .characters ?_ ⟨c, ?_, shown⟩ (head?_dropWhile_ne '<' _)
      · intro hm
        rcases List.mem_append.mp hm with hm | hm
        · exact absurd (blank _ hm) (by decide)
        · have := List.mem_takeWhile_imp hm
          simp at this
      · refine List.mem_append_right _ ?_
        rw [List.takeWhile_cons_of_pos (by simpa using tag)]
        exact List.mem_cons_self

/-! ## One event -/

namespace Reader

variable {r r' : Reader} {event : Event} {chars text : List Char}

theorem next_of_blanks (blank : ∀ c ∈ r.left, isSpace c = true) : r.next = .ok (.finish, r.goTo []) := by
  rw [next, List.dropWhile_eq_nil_iff.mpr blank]

theorem next_of_markup (whole : r.left = chars ++ '<' :: text) (blank : ∀ c ∈ chars, isSpace c = true) : r.next
    = match readMarkup text with
      | .error fault => .error fault
      | .ok (token, rest) => (r.goTo rest).accept token := by
  have dropped : r.left.dropWhile isSpace = '<' :: text := by
    rw [whole, List.dropWhile_append_of_pos blank]
    rfl
  simp only [next, dropped, if_true]

/-- Other characters are passed over. -/
theorem next_of_characters (whole : r.left = chars ++ text) (plain : '<' ∉ chars)
    (shown : ∃ c ∈ chars, isSpace c = false) (ht : ∀ c ∈ text.head?, c = '<') :
    r.next = .ok (.other, r.goTo text) := by
  obtain ⟨d, hd, seen⟩ := shown
  have some_left : chars.dropWhile isSpace ≠ [] := by
    intro none
    have := List.dropWhile_eq_nil_iff.mp none d hd
    rw [seen] at this
    cases this
  obtain ⟨c, more, hc⟩ := List.exists_cons_of_ne_nil some_left
  have inside : c :: more <:+ chars := hc ▸ List.dropWhile_suffix isSpace
  have dropped : r.left.dropWhile isSpace = c :: (more ++ text) := by
    rw [whole, List.dropWhile_append, hc]
    rfl
  have first : c ≠ '<' := by
    rintro rfl
    exact plain (inside.subset List.mem_cons_self)
  have behind : (c :: (more ++ text)).dropWhile (· ≠ '<') = text := by
    rw [← List.cons_append, List.dropWhile_append_of_pos]
    · cases text with
      | nil => rfl
      | cons a text =>
        obtain rfl := ht a rfl
        rfl
    · intro a ha
      refine decide_eq_true ?_
      rintro rfl
      exact plain (inside.subset ha)
  simp only [next, dropped, if_neg first, behind]

/-- Whether a reader took some characters from the front of what was left. -/
structure Takes (r : Reader) (taken : List Char) (r' : Reader) : Prop where
  whole : r.left = taken ++ r'.left
  offset : r'.offset = r.offset + Text.Utf8.size taken

theorem takes_goTo {taken left : List Char} (h : r.left = taken ++ left) : r.Takes taken (r.goTo left) := by
  refine ⟨h, ?_⟩
  show r.offset + (Text.Utf8.size r.left - Text.Utf8.size left) = _
  rw [h, Text.Utf8.size_append, Nat.add_sub_cancel]

theorem Takes.bytes {taken : List Char} (h : r.Takes taken r') :
    r'.offset + Text.Utf8.size r'.left = r.offset + Text.Utf8.size r.left := by
  rw [h.offset, h.whole, Text.Utf8.size_append, Nat.add_assoc]

theorem Takes.offset_lt {taken : List Char} (h : r.Takes taken r') (some_taken : taken ≠ []) :
    r.offset < r'.offset := by
  obtain ⟨c, rest, rfl⟩ := List.exists_cons_of_ne_nil some_taken
  have := c.utf8Size_pos
  rw [h.offset, Text.Utf8.size]
  omega

/-- To make an event of markup takes nothing more, and is not the end. -/
theorem left_of_accept {token : Token} (h : r.accept token = .ok (event, r')) :
    r'.left = r.left ∧ r'.offset = r.offset ∧ event ≠ .finish := by
  unfold accept at h
  split at h
  next => cases h; exact ⟨rfl, rfl, nofun⟩
  next => cases h; exact ⟨rfl, rfl, nofun⟩
  next =>
    split at h
    next => cases h
    next =>
      split at h
      next => cases h; exact ⟨rfl, rfl, nofun⟩
      next => cases h
  next => cases h; exact ⟨rfl, rfl, nofun⟩

/-- **Every event takes a front of what was left**, and one that is not the end takes at least one character. -/
theorem exists_takes_of_next (h : r.next = .ok (event, r')) :
    ∃ taken, r.Takes taken r' ∧ (event ≠ .finish → taken ≠ []) := by
  obtain ⟨left, offset, opened⟩ := r
  cases front left with
  | blanks blank =>
    rw [next_of_blanks blank] at h
    cases h
    exact ⟨left, takes_goTo (List.append_nil left).symm, fun unfinished => absurd rfl unfinished⟩
  | @markup chars blank text =>
    rw [next_of_markup rfl blank] at h
    split at h
    next => cases h
    next token rest hr =>
      obtain ⟨piece, rfl⟩ := (isMarkup_of_readMarkup hr).2
      obtain ⟨hleft, hoffset, -⟩ := left_of_accept h
      have gone : Takes ⟨chars ++ '<' :: (piece ++ rest), offset, opened⟩ (chars ++ '<' :: piece)
          (goTo ⟨chars ++ '<' :: (piece ++ rest), offset, opened⟩ rest) := takes_goTo (by simp)
      refine ⟨chars ++ '<' :: piece, ⟨?_, hoffset.trans gone.offset⟩, fun _ => by simp⟩
      rw [hleft]
      exact gone.whole
  | @characters chars text plain shown ht =>
    rw [next_of_characters rfl plain shown ht] at h
    cases h
    refine ⟨chars, takes_goTo rfl, fun _ none => ?_⟩
    obtain ⟨c, hc, -⟩ := shown
    rw [none] at hc
    cases hc

end Reader

/-- Whether these are the names of the open elements behind an event, where those in front of it are given. -/
def Event.Leaves (before : List (List Char)) : Event → List (List Char) → Prop
  | .start content, after => after = tagName content :: before
  | .close, after => ∃ name, before = name :: after
  | _, after => after = before

namespace Reader

variable {r r' : Reader} {event : Event}

/-- Markup is an event that goes with the names of the open elements. -/
theorem leaves_of_accept {token : Token} (h : r.accept token = .ok (event, r')) : event.Leaves r.opened r'.opened := by
  unfold accept at h
  split at h
  next => cases h; rfl
  next => cases h; rfl
  next =>
    split at h
    next => cases h
    next hopened =>
      split at h
      next => cases h; exact ⟨_, hopened⟩
      next => cases h
  next => cases h; rfl

/-- **An end tag is an event only if an element is open**, and then it closes the innermost one. -/
theorem opened_of_next (h : r.next = .ok (event, r')) : event.Leaves r.opened r'.opened := by
  unfold next at h
  split at h
  next => cases h; rfl
  next =>
    split at h
    next =>
      split at h
      next => cases h
      next token rest _ => exact leaves_of_accept (r := r.goTo rest) h
    next => cases h; rfl

end Reader

/-! ## Attributes -/

/-- An attribute that was read is not empty, so there is less left. -/
theorem length_of_readAttribute {size offset : Nat} {seen : List (List Char × Nat)} {text : List Char}
    {a : RawAttribute} (h : readAttribute size seen offset text = .ok (some a)) : a.rest.length < text.length := by
  have dropped (p : Char → Bool) (text : List Char) : (text.dropWhile p).length ≤ text.length :=
    (List.dropWhile_suffix p).length_le
  unfold readAttribute at h
  split at h
  next => cases h
  next c rest hc =>
    have first := dropped isSpace text
    rw [hc] at first
    dsimp only at h
    split at h
    next => cases h
    next afterEquals he =>
      have second := (dropped isSpace _).trans (dropped (fun c => c != '=' && !isSpace c) rest)
      rw [he] at second
      split at h
      next => cases h
      next =>
        split at h
        next => cases h
        next quote quoted hq =>
          have third := dropped isSpace afterEquals
          rw [hq] at third
          split at h
          next =>
            split at h
            next => cases h
            next closed hv =>
              have fourth := dropped (· ≠ quote) quoted
              rw [hv] at fourth
              cases h
              simp only [List.length_cons] at *
              omega
          next => cases h
    next => cases h

/-- Attributes are read to the end of their text, if there is fuel above its length. -/
theorem readAttributesFrom_congr {size : Nat} : ∀ {fuel fuel' offset : Nat} {seen : List (List Char × Nat)}
    {text : List Char}, text.length < fuel → text.length < fuel' →
    readAttributesFrom size fuel seen offset text = readAttributesFrom size fuel' seen offset text := by
  intro fuel
  -- Each attribute uses up one unit of both fuels and at least one character, so both stay above what is left.
  induction fuel with
  | zero =>
    intro fuel' offset seen text hf
    exact absurd hf (Nat.not_lt_zero _)
  | succ fuel ih =>
    intro fuel' offset seen text hf hf'
    obtain ⟨fuel', rfl⟩ : ∃ n, fuel' = n + 1 := ⟨fuel' - 1, by omega⟩
    rw [readAttributesFrom, readAttributesFrom]
    cases ha : readAttribute size seen offset text with
    | error fault => rfl
    | ok found =>
      cases found with
      | none => rfl
      | some a =>
        have shorter := length_of_readAttribute ha
        have same : readAttributesFrom size fuel (seen ++ [(a.key, a.keyOffset)]) a.next a.rest
            = readAttributesFrom size fuel' (seen ++ [(a.key, a.keyOffset)]) a.next a.rest :=
          ih (by omega) (by omega)
        show (unescape a.value >>= fun value => _) = (unescape a.value >>= fun value => _)
        rw [same]

/-- **The attributes of a tag are read to its end**, however long it is. -/
theorem readAttributes_enough {content : List Char} {fuel : Nat} (hf : content.length < fuel) :
    readAttributesFrom (Text.Utf8.size content) fuel [] (Text.Utf8.size (tagName content))
      (content.drop (tagName content).length) = readAttributes content := by
  have behind := content.drop_suffix (tagName content).length |>.length_le
  exact readAttributesFrom_congr (by omega) (by omega)

end PackageAudit.Markup
