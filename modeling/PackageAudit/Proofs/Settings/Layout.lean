import PackageAudit.Proofs.Json.Grammar
import PackageAudit.Settings.Decode

/-!
# Layouts of settings

Settings may be laid out in many ways: with any blanks between the parts, with any escapes in keys and texts, with the
keys in any order, and with keys that are no settings among them, whose values are any values (`LaidObject`).

One member is read as the setting it gives, or passed over (`LaidMember.read`), so by induction on the members a layout
that names no setting twice is read as the settings that it gives (`LaidObject.decode`). Conversely what is read has the
form of a value (`grammar_of_readValue`), so a layout that names a setting twice is no settings, whatever its values are
(`LaidObject.decode_error`): the members are read in their order, up to one that is at fault. Where the values are those
of settings, that one is the second for its setting (`LaidObject.decode_duplicate`).
-/

namespace PackageAudit.Settings

open Json

variable {text rest : List Char}

/-! ## Steps -/

theorem nextItem_first {value : List Char} (before : Blanks text value) (begun : Begun value) :
    nextItem true text = .ok (true, value) := by
  have blanks := begun.skipSpace
  obtain ⟨c, tail, rfl, -, -, square, -⟩ := begun
  unfold nextItem
  rw [before.skipSpace_eq, blanks]
  split
  next none => cases none
  next closed => cases closed; exact absurd rfl square
  next same => cases same; rfl

/-- Another item may follow a comma. -/
theorem nextItem_next {afterComma value : List Char} (behind : Blanks text (',' :: afterComma))
    (before : Blanks afterComma value) (begun : Begun value) : nextItem false text = .ok (true, value) := by
  have blanks := begun.skipSpace
  obtain ⟨c, tail, rfl, -, -, square, -⟩ := begun
  unfold nextItem
  rw [behind.skipSpace (by decide)]
  split
  next none => cases none
  next closed => cases closed
  next comma =>
    cases comma
    rw [if_neg Bool.false_ne_true, if_pos rfl, before.skipSpace_eq, blanks]
    split
    next none => cases none
    next closed => cases closed; exact absurd rfl square
    next => rfl

theorem nextItem_close (first : Bool) (behind : Blanks text (']' :: rest)) :
    nextItem first text = .ok (false, rest) := by
  unfold nextItem
  rw [behind.skipSpace (by decide)]
  rfl

theorem nextKey_first {member : List Char} (before : Blanks text ('"' :: member)) :
    nextKey true text = .ok (true, member) := by
  unfold nextKey
  rw [before.skipSpace (by decide)]
  rfl

theorem nextKey_next {afterComma member : List Char} (behind : Blanks text (',' :: afterComma))
    (before : Blanks afterComma ('"' :: member)) : nextKey false text = .ok (true, member) := by
  unfold nextKey
  rw [behind.skipSpace (by decide)]
  split
  next none => cases none
  next closed => cases closed
  next comma =>
    cases comma
    rw [if_neg Bool.false_ne_true, if_pos rfl, before.skipSpace (by decide)]
    rfl

theorem nextKey_close (first : Bool) (behind : Blanks text ('\x7d' :: rest)) :
    nextKey first text = .ok (false, rest) := by
  unfold nextKey
  rw [behind.skipSpace (by decide)]
  rfl

theorem readColon_blanks {afterColon : List Char} (h : Blanks text (':' :: afterColon)) :
    lift (readColon text) = .ok afterColon := by
  rw [h.readColon]
  rfl

/-! ## Values of settings -/

/-- A text begins with a text between quotes. -/
inductive LaidText (s : String) : List Char → List Char → Prop
  | quoted {text rest : List Char} (h : Quoted s.toList text rest) : LaidText s ('"' :: text) rest

/-- A text begins with texts that commas separate, and with the bracket that closes behind them. -/
inductive LaidItems : List String → List Char → List Char → Prop
  | last {s : String} {text after rest : List Char} (item : LaidText s text after)
    (behind : Blanks after (']' :: rest)) : LaidItems [s] text rest
  | next {s : String} {texts : List String} {text after afterComma next rest : List Char} (item : LaidText s text after)
    (behind : Blanks after (',' :: afterComma)) (before : Blanks afterComma next) (more : LaidItems texts next rest) :
    LaidItems (s :: texts) text rest

/-- A text begins with an array of texts. -/
inductive LaidTexts : List String → List Char → List Char → Prop
  | empty {text rest : List Char} (closing : Blanks text (']' :: rest)) : LaidTexts [] ('[' :: text) rest
  | items {texts : List String} {text first rest : List Char} (before : Blanks text first)
    (h : LaidItems texts first rest) : LaidTexts texts ('[' :: text) rest

/-- A text begins with the value of a setting. -/
def Key.Laid (s : Settings) : Key → List Char → List Char → Prop
  | .rulesFile => LaidText s.rulesFile
  | .catalogSection => LaidText s.catalogSection
  | .reportFile => LaidText s.reportFile
  | .reportFormat => LaidText s.reportFormat.token
  | .reservedKeywordsFile => LaidText s.reservedKeywordsFile
  | .rootMarkers => LaidTexts s.rootMarkers
  | .skipSuffixes => LaidTexts s.skipSuffixes
  | .ignores => LaidTexts s.ignores

/-- Takes one setting over from other settings. -/
def takeOver (s acc : Settings) : Key → Settings
  | .rulesFile => { acc with rulesFile := s.rulesFile }
  | .catalogSection => { acc with catalogSection := s.catalogSection }
  | .reportFile => { acc with reportFile := s.reportFile }
  | .reportFormat => { acc with reportFormat := s.reportFormat }
  | .reservedKeywordsFile => { acc with reservedKeywordsFile := s.reservedKeywordsFile }
  | .rootMarkers => { acc with rootMarkers := s.rootMarkers }
  | .skipSuffixes => { acc with skipSuffixes := s.skipSuffixes }
  | .ignores => { acc with ignores := s.ignores }

theorem readString_spelled {chars : List Char} (h : Quoted chars text rest) :
    readString text = .ok (String.ofList chars, rest) := by
  rw [readString, h.read]
  rfl

theorem readString_quoted {s : String} (h : Quoted s.toList text rest) : readString text = .ok (s, rest) := by
  rw [readString_spelled h, String.ofList_toList]

section Values

variable {value : List Char}

theorem LaidText.read {s : String} (h : LaidText s value rest) (before : Blanks text value) (expected : String) :
    readText expected text = .ok (s, rest) := by
  obtain ⟨h⟩ := h
  unfold readText
  rw [before.skipSpace (by decide)]
  exact readString_quoted h

theorem LaidText.begun {s : String} (h : LaidText s value rest) : Begun value := by
  obtain ⟨_⟩ := h
  exact ⟨'"', _, rfl, by decide, by decide, by decide, by decide⟩

theorem LaidItems.begun {texts : List String} (h : LaidItems texts value rest) : Begun value := by
  cases h with
  | last item _ | next item _ _ _ => exact item.begun

theorem LaidText.grammar {s : String} (h : LaidText s value rest) : Grammar .value value rest := by
  obtain ⟨h⟩ := h
  exact .string h.units

theorem LaidItems.grammar {texts : List String} (h : LaidItems texts value rest) : Grammar .items value rest := by
  induction h with
  | last item behind => exact .lastItem item.grammar behind
  | next item behind before _ ih => exact .nextItem item.grammar behind before ih

theorem LaidTexts.grammar {texts : List String} (h : LaidTexts texts value rest) : Grammar .value value rest := by
  cases h with
  | empty closing => exact .emptyArray closing
  | items before h => exact .array before h.grammar

theorem Key.Laid.grammar {s : Settings} {key : Key} (h : key.Laid s value rest) : Grammar .value value rest := by
  cases key with
  | rulesFile | catalogSection | reportFile | reportFormat | reservedKeywordsFile => exact LaidText.grammar h
  | rootMarkers | skipSuffixes | ignores => exact LaidTexts.grammar h

/-- The items of an array are read, by induction on them. -/
theorem LaidItems.read {texts : List String} (h : LaidItems texts value rest) :
    ∀ {fuel : Nat} {first : Bool} {text : List Char}, texts.length < fuel → nextItem first text = .ok (true, value) →
      readItems fuel first text = .ok (texts, rest) := by
  induction h with
  | last item behind =>
    intro fuel first text hf next
    obtain ⟨fuel, rfl⟩ : ∃ n, fuel = n + 2 := ⟨fuel - 2, by simp at hf; omega⟩
    simp only [readItems, next, item.read (.none _), nextItem_close false behind, bind, Except.bind]
  | next item behind before more ih =>
    intro fuel first text hf next
    obtain ⟨fuel, rfl⟩ : ∃ n, fuel = n + 1 := ⟨fuel - 1, by simp at hf; omega⟩
    have later := ih (by simp at hf; omega) (nextItem_next behind before more.begun)
    simp only [readItems, next, item.read (.none _), later, bind, Except.bind]

theorem LaidItems.length_le {texts : List String} (h : LaidItems texts value rest) : texts.length ≤ value.length := by
  induction h with
  | last item _ =>
    obtain ⟨_⟩ := item
    exact Nat.le_add_left _ _
  | next item behind before _ ih =>
    have := item.grammar.length_lt
    have := behind.length_le
    have := before.length_le
    simp only [List.length_cons] at *
    omega

/-- An array of texts is read. -/
theorem LaidTexts.read {texts : List String} (h : LaidTexts texts value rest) (before : Blanks text value) :
    readTexts text = .ok (texts, rest) := by
  have opening {inside : List Char} (before : Blanks text ('[' :: inside)) :
      readTexts text = readItems (inside.length + 1) true inside := by
    unfold readTexts
    rw [before.skipSpace (by decide)]
    rfl
  cases h with
  | empty closing =>
    rw [opening before, readItems, nextItem_close true closing]
    rfl
  | items blanks h =>
    have := h.length_le
    have := blanks.length_le
    rw [opening before]
    exact h.read (by omega) (nextItem_first blanks h.begun)

theorem LaidText.readFormat {f : ReportFormat} (h : LaidText f.token value rest) (before : Blanks text value) :
    Settings.readFormat text = .ok (f, rest) := by
  obtain ⟨h⟩ := h
  have word : formatOf f.token = .ok f := by rw [formatOf, ReportFormat.ofToken?_token]
  unfold Settings.readFormat
  rw [before.skipSpace (by decide)]
  simp only [readString_quoted h, word, bind, Except.bind]

/-- **The value of a setting** is read as that setting. -/
theorem Key.Laid.read {s : Settings} {key : Key} (h : key.Laid s value rest) (before : Blanks text value)
    (acc : Settings) : readValue acc key text = .ok (takeOver s acc key, rest) := by
  cases key with
  | rulesFile | catalogSection | reportFile | reservedKeywordsFile =>
    simp only [readValue, takeOver, LaidText.read h before]
    rfl
  | reportFormat =>
    simp only [readValue, takeOver, LaidText.readFormat h before]
    rfl
  | rootMarkers | skipSuffixes | ignores =>
    simp only [readValue, takeOver, LaidTexts.read h before]
    rfl

end Values

/-! ## What is read as a value -/

section Sound

theorem quoted_of_readString {s : String} (h : readString text = .ok (s, rest)) : Quoted s.toList text rest := by
  obtain ⟨⟨chars, behind⟩, read, h⟩ := exists_of_bind_eq_ok h
  obtain ⟨rfl, rfl⟩ := Prod.mk.inj (Except.ok.inj h)
  have spelled := quoted_of_readQuoted (ok_of_mapError_eq_ok read)
  rwa [String.toList_ofList]

theorem laidText_of_readText {expected s : String} (h : readText expected text = .ok (s, rest)) :
    ∃ value, Blanks text value ∧ LaidText s value rest := by
  unfold readText at h
  split at h
  next word before => exact ⟨_, blanks_of_skipSpace before, .quoted (quoted_of_readString h)⟩
  next => cases h

theorem blanks_of_nextItem_first {value : List Char} (h : nextItem true text = .ok (true, value)) :
    Blanks text value := by
  unfold nextItem at h
  split at h
  next => cases h
  next => cases h
  next before => cases h; exact blanks_of_skipSpace before

/-- Another item is behind a comma. -/
theorem blanks_of_nextItem_next {value : List Char} (h : nextItem false text = .ok (true, value)) :
    ∃ afterComma, Blanks text (',' :: afterComma) ∧ Blanks afterComma value := by
  unfold nextItem at h
  split at h
  next => cases h
  next => cases h
  next c tail _ before =>
    rw [if_neg Bool.false_ne_true] at h
    split at h
    next comma =>
      subst comma
      split at h
      next => cases h
      next => cases h
      next =>
        obtain ⟨-, rfl⟩ := Prod.mk.inj (Except.ok.inj h)
        exact ⟨tail, blanks_of_skipSpace before, blanks_skipSpace tail⟩
    next => cases h

/-- Where no item is next a bracket closes the array. -/
theorem blanks_of_nextItem_close {first : Bool} (h : nextItem first text = .ok (false, rest)) :
    Blanks text (']' :: rest) := by
  unfold nextItem at h
  split at h
  next => cases h
  next before => cases h; exact blanks_of_skipSpace before
  next =>
    split at h
    next => cases h
    next =>
      split at h
      next =>
        split at h
        all_goals cases h
      next => cases h

/-- The items that are read from an array, by induction on the fuel. -/
theorem laidItems_of_readItems : ∀ {fuel : Nat} {first : Bool} {text : List Char} {texts : List String},
    readItems fuel first text = .ok (texts, rest) → texts = [] ∧ nextItem first text = .ok (false, rest) ∨
      ∃ next value, nextItem first text = .ok (true, next) ∧ Blanks next value ∧ LaidItems texts value rest
  | 0, _, _, _, h => by cases h
  | fuel + 1, first, text, texts, h => by
    rw [readItems] at h
    obtain ⟨⟨more, next⟩, hn, h⟩ := exists_of_bind_eq_ok h
    cases more with
    | false =>
      cases h
      exact .inl ⟨rfl, hn⟩
    | true =>
      obtain ⟨⟨item, after⟩, hi, h⟩ := exists_of_bind_eq_ok h
      obtain ⟨⟨items, final⟩, hm, h⟩ := exists_of_bind_eq_ok h
      cases h
      obtain ⟨value, before, laid⟩ := laidText_of_readText hi
      refine .inr ⟨next, value, hn, before, ?_⟩
      rcases laidItems_of_readItems hm with ⟨rfl, closing⟩ | ⟨next', value', hn', before', others⟩
      · exact .last laid (blanks_of_nextItem_close closing)
      · obtain ⟨afterComma, behind, blanks⟩ := blanks_of_nextItem_next hn'
        exact .next laid behind (blanks.trans before') others

theorem laidTexts_of_readTexts {texts : List String} (h : readTexts text = .ok (texts, rest)) :
    ∃ value, Blanks text value ∧ LaidTexts texts value rest := by
  unfold readTexts at h
  split at h
  next inside before =>
    refine ⟨_, blanks_of_skipSpace before, ?_⟩
    rcases laidItems_of_readItems h with ⟨rfl, closing⟩ | ⟨next, value, hn, blanks, items⟩
    · exact .empty (blanks_of_nextItem_close closing)
    · exact .items ((blanks_of_nextItem_first hn).trans blanks) items
  next => cases h

theorem null_of_readUnit {read : Unit} (h : readUnit text = .ok (read, rest)) :
    Blanks text ('n' :: 'u' :: 'l' :: 'l' :: rest) := by
  unfold readUnit at h
  split at h
  next word before =>
    obtain ⟨behind, hw, he⟩ := exists_of_map_eq_ok (ok_of_mapError_eq_ok h)
    cases he
    obtain rfl : word = _ := eq_of_readWord hw
    exact blanks_of_skipSpace before
  next => cases h

/-- What is read as a format is a word, or an object with the word for its key and null for its value. -/
theorem grammar_of_readFormat {f : ReportFormat} (h : readFormat text = .ok (f, rest)) :
    ∃ value, Blanks text value ∧ Grammar .value value rest := by
  unfold readFormat at h
  split at h
  next => cases h
  next before =>
    obtain ⟨⟨word, behind⟩, read, h⟩ := exists_of_bind_eq_ok h
    obtain ⟨format, -, h⟩ := exists_of_bind_eq_ok h
    cases h
    exact ⟨_, blanks_of_skipSpace before, .string (quoted_of_readString read).units⟩
  next inside before =>
    obtain ⟨⟨word, afterKey⟩, hk, h⟩ := exists_of_bind_eq_ok h
    obtain ⟨format, -, h⟩ := exists_of_bind_eq_ok h
    obtain ⟨afterColon, hc, h⟩ := exists_of_bind_eq_ok h
    obtain ⟨⟨_, afterValue⟩, hv, h⟩ := exists_of_bind_eq_ok h
    dsimp only at h
    split at h
    next => cases h
    next closing =>
      cases h
      obtain ⟨_, blanks, ⟨key⟩⟩ := laidText_of_readText hk
      have colon := blanks_of_readColon (ok_of_mapError_eq_ok hc)
      have member : Grammar .member _ _ := .member key.units colon (null_of_readUnit hv) (.null _)
      exact ⟨_, blanks_of_skipSpace before, .object blanks (.lastMember member (blanks_of_skipSpace closing))⟩
    next => cases h
  next => cases h

/-- **What is read as the value of a setting** has the form of a value. -/
theorem grammar_of_readValue {acc s : Settings} {key : Key} (h : readValue acc key text = .ok (s, rest)) :
    ∃ value, Blanks text value ∧ Grammar .value value rest := by
  cases key with
  | rulesFile | catalogSection | reportFile | reservedKeywordsFile =>
    simp only [readValue] at h
    obtain ⟨⟨_, _⟩, read, he⟩ := exists_of_map_eq_ok h
    cases he
    obtain ⟨value, before, laid⟩ := laidText_of_readText read
    exact ⟨value, before, laid.grammar⟩
  | reportFormat =>
    simp only [readValue] at h
    obtain ⟨⟨_, _⟩, read, he⟩ := exists_of_map_eq_ok h
    cases he
    exact grammar_of_readFormat read
  | rootMarkers | skipSuffixes | ignores =>
    simp only [readValue] at h
    obtain ⟨⟨_, _⟩, read, he⟩ := exists_of_map_eq_ok h
    cases he
    obtain ⟨value, before, laid⟩ := laidTexts_of_readTexts read
    exact ⟨value, before, laid.grammar⟩

end Sound

/-! ## Members -/

/-- Which values a text may begin with behind a key, which is a setting or none, and what is left of it then. -/
abbrev Forms :=
  Option Key → List Char → List Char → Prop

/-- A text begins, behind the quote of its key, with a member, whose value has a form for its key. -/
inductive LaidMember (forms : Forms) : Option Key → List Char → List Char → Prop
  | mk {chars text afterKey afterColon value rest : List Char} {key : Option Key} (spelled : Quoted chars text afterKey)
    (named : Key.ofToken? (String.ofList chars) = key) (colon : Blanks afterKey (':' :: afterColon))
    (before : Blanks afterColon value) (h : forms key value rest) : LaidMember forms key text rest

/-- A text begins, behind the quote of the first key, with members that commas separate, and with the brace that closes
behind them. -/
inductive LaidMembers (forms : Forms) : List (Option Key) → List Char → List Char → Prop
  | last {key : Option Key} {text after rest : List Char} (member : LaidMember forms key text after)
    (behind : Blanks after ('\x7d' :: rest)) : LaidMembers forms [key] text rest
  | next {key : Option Key} {keys : List (Option Key)} {text after afterComma next rest : List Char}
    (member : LaidMember forms key text after) (behind : Blanks after (',' :: afterComma))
    (before : Blanks afterComma ('"' :: next)) (more : LaidMembers forms keys next rest) :
    LaidMembers forms (key :: keys) text rest

/-- A text is an object with members for some keys, in that order, with any blanks around it. -/
inductive LaidObject (forms : Forms) : List (Option Key) → List Char → Prop
  | empty {text inside after : List Char} (before : Blanks text ('\x7b' :: inside))
    (closing : Blanks inside ('\x7d' :: after)) (behind : Blanks after []) : LaidObject forms [] text
  | members {keys : List (Option Key)} {text inside first after : List Char} (before : Blanks text ('\x7b' :: inside))
    (blanks : Blanks inside ('"' :: first)) (h : LaidMembers forms keys first after) (behind : Blanks after []) :
    LaidObject forms keys text

/-- The values of settings, with any values for keys that are no settings. -/
def Given (s : Settings) : Forms
  | some key => key.Laid s
  | none => Grammar .value

/-- Values of some settings, each of its own. -/
def Typed : Forms :=
  fun key text rest => ∃ s, Given s key text rest

def Anything : Forms :=
  fun _ => Grammar .value

def named (keys : List (Option Key)) : List Key :=
  keys.filterMap id

theorem named_cons (key : Option Key) (keys : List (Option Key)) :
    named (key :: keys) = key.toList ++ named keys := by
  cases key <;> rfl

theorem named_perm (key : Option Key) (keys : List (Option Key)) (given : List Key) :
    (named (key :: keys) ++ given).Perm (named keys ++ (key.toList ++ given)) := by
  rw [named_cons, List.append_assoc]
  exact List.perm_append_comm_assoc _ _ _

theorem nodup_given_iff {key : Option Key} {given : List Key} :
    (key.toList ++ given).Nodup ↔ given.Nodup ∧ ∀ k ∈ key, k ∉ given := by
  cases key with
  | none => simp
  | some k => simp [List.nodup_cons, and_comm]

section Members

variable {first : Bool} {given : List Key} {s acc : Settings} {key : Option Key} {keys : List (Option Key)}
  {member after : List Char} {fuel : Nat}

section Step

variable {chars afterKey afterColon : List Char} {k : Key} (next : nextKey first text = .ok (true, member))
  (spelled : Quoted chars member afterKey)

include next spelled

theorem readMembers_unknown (name : Key.ofToken? (String.ofList chars) = none)
    (colon : Blanks afterKey (':' :: afterColon)) : readMembers (fuel + 1) first given acc text
      = lift (skipValue afterColon) >>= readMembers fuel false given acc := by
  simp only [readMembers, next, readString_spelled spelled, name, readColon_blanks colon, bind, Except.bind]

theorem readMembers_new (name : Key.ofToken? (String.ofList chars) = some k)
    (colon : Blanks afterKey (':' :: afterColon)) (new : k ∉ given) : readMembers (fuel + 1) first given acc text
      = readValue acc k afterColon >>= fun p => readMembers fuel false (k :: given) p.1 p.2 := by
  simp only [readMembers, next, readString_spelled spelled, name, new, if_false, readColon_blanks colon, bind,
    Except.bind]

theorem readMembers_given (name : Key.ofToken? (String.ofList chars) = some k) (twice : k ∈ given) :
    readMembers (fuel + 1) first given acc text = .error (.mismatch (.duplicateField k.token)) := by
  have token : k.token = String.ofList chars := by simpa using List.find?_some name
  simp only [readMembers, next, readString_spelled spelled, name, twice, if_true, bind, Except.bind, token]

end Step

/-- **One member** brings the setting that it gives, or is passed over. -/
theorem LaidMember.read (h : LaidMember (Given s) key member after) (next : nextKey first text = .ok (true, member))
    (new : ∀ k ∈ key, k ∉ given) : readMembers (fuel + 1) first given acc text
      = readMembers fuel false (key.toList ++ given) (key.toList.foldl (takeOver s) acc) after := by
  obtain ⟨spelled, name, colon, before, h⟩ := h
  cases key with
  | none =>
    rw [readMembers_unknown next spelled name colon, Grammar.skipValue h before]
    rfl
  | some k =>
    rw [readMembers_new next spelled name colon (new k rfl), Key.Laid.read h before acc]
    rfl

/-- **All members** bring the settings that they give, by induction on them. -/
theorem LaidMembers.read (h : LaidMembers (Given s) keys member rest) : ∀ {fuel : Nat} {first : Bool}
    {given : List Key} {acc : Settings} {text : List Char}, keys.length < fuel →
    nextKey first text = .ok (true, member) → (named keys ++ given).Nodup →
    readMembers fuel first given acc text = .ok ((named keys).foldl (takeOver s) acc, rest) := by
  induction h with
  | @last key _ _ _ member behind =>
    intro fuel first given acc text hf next nodup
    obtain ⟨fuel, rfl⟩ : ∃ n, fuel = n + 2 := ⟨fuel - 2, by simp at hf; omega⟩
    have fresh := (nodup_given_iff.mp ((named_perm key [] given).nodup_iff.mp nodup)).2
    rw [member.read next fresh, readMembers, nextKey_close false behind, named_cons, List.foldl_append]
    rfl
  | @next key keys _ _ _ _ _ member behind before _ ih =>
    intro fuel first given acc text hf next nodup
    obtain ⟨fuel, rfl⟩ : ∃ n, fuel = n + 1 := ⟨fuel - 1, by simp at hf; omega⟩
    have nodup := (named_perm key keys given).nodup_iff.mp nodup
    have fresh := (nodup_given_iff.mp (List.nodup_append.mp nodup).2.1).2
    rw [member.read next fresh, named_cons, List.foldl_append]
    exact ih (by simp at hf; omega) (nextKey_next behind before) nodup

/-- One member of any value is at fault, or what follows it is read with its setting given. -/
theorem LaidMember.error_or (h : LaidMember Anything key member after)
    (next : nextKey first text = .ok (true, member)) :
    (∃ e, readMembers (fuel + 1) first given acc text = .error e) ∨ (∀ k ∈ key, k ∉ given) ∧
      ∃ s, readMembers (fuel + 1) first given acc text = readMembers fuel false (key.toList ++ given) s after := by
  obtain @⟨_, _, _, afterColon, _, _, _, spelled, name, colon, before, h⟩ := h
  have passed : skipValue afterColon = .ok after := Grammar.skipValue h before
  cases key with
  | none =>
    refine .inr ⟨fun k hk => (nomatch hk), acc, ?_⟩
    rw [readMembers_unknown next spelled name colon, passed]
    rfl
  | some k =>
    by_cases twice : k ∈ given
    · exact .inl ⟨_, readMembers_given next spelled name twice⟩
    · rw [readMembers_new next spelled name colon twice]
      cases read : readValue acc k afterColon with
      | error e => exact .inl ⟨e, rfl⟩
      | ok p =>
        -- what the value was read as leaves what its form leaves
        obtain ⟨s, behind⟩ := p
        obtain ⟨value', before', form⟩ := grammar_of_readValue read
        obtain rfl : after = behind := Except.ok.inj (passed.symm.trans (form.skipValue before'))
        exact .inr ⟨fun k' hk => Option.some.inj hk ▸ twice, s, rfl⟩

theorem LaidMember.typed (h : LaidMember Typed key member after) : ∃ s, LaidMember (Given s) key member after := by
  obtain ⟨spelled, name, colon, before, s, h⟩ := h
  exact ⟨s, spelled, name, colon, before, h⟩

/-- **Members that name a setting twice are at fault**, by induction on them. -/
theorem LaidMembers.error (h : LaidMembers Anything keys member rest) : ∀ {fuel : Nat} {first : Bool}
    {given : List Key} {acc : Settings} {text : List Char}, nextKey first text = .ok (true, member) → given.Nodup →
    ¬(named keys ++ given).Nodup → ∃ e, readMembers fuel first given acc text = .error e := by
  induction h with
  | @last key _ _ _ member behind =>
    intro fuel first given acc text next nodup twice
    cases fuel with
    | zero => exact ⟨_, rfl⟩
    | succ fuel =>
      rcases member.error_or next with failed | ⟨fresh, -⟩
      · exact failed
      · exact absurd ((named_perm key [] given).nodup_iff.mpr (nodup_given_iff.mpr ⟨nodup, fresh⟩)) twice
  | @next key keys _ _ _ _ _ member behind before _ ih =>
    intro fuel first given acc text next nodup twice
    cases fuel with
    | zero => exact ⟨_, rfl⟩
    | succ fuel =>
      rcases member.error_or next with failed | ⟨fresh, s, step⟩
      · exact failed
      · rw [step]
        refine ih (nextKey_next behind before) (nodup_given_iff.mpr ⟨nodup, fresh⟩) ?_
        rwa [← (named_perm key keys given).nodup_iff]

theorem LaidMember.duplicate_of_given (h : LaidMember Typed key member after)
    (next : nextKey first text = .ok (true, member)) (stale : ¬∀ k ∈ key, k ∉ given) (keys : List (Option Key)) :
    ∃ k, 2 ≤ (named (key :: keys) ++ given).count k
      ∧ readMembers (fuel + 1) first given acc text = .error (.mismatch (.duplicateField k.token)) := by
  obtain ⟨k, rfl, seen⟩ : ∃ k, key = some k ∧ k ∈ given := by simpa using stale
  obtain ⟨spelled, name, -, -, -⟩ := h
  refine ⟨k, ?_, readMembers_given next spelled name seen⟩
  have before : 0 < (named keys ++ given).count k := List.count_pos_iff.mpr (List.mem_append_right _ seen)
  show 2 ≤ (k :: (named keys ++ given)).count k
  rw [List.count_cons_self]
  omega

/-- **Members whose values are those of settings** are at fault for a setting that they name twice. -/
theorem LaidMembers.duplicate (h : LaidMembers Typed keys member rest) : ∀ {fuel : Nat} {first : Bool}
    {given : List Key} {acc : Settings} {text : List Char}, keys.length < fuel →
    nextKey first text = .ok (true, member) → given.Nodup → ¬(named keys ++ given).Nodup →
    ∃ k, 2 ≤ (named keys ++ given).count k
      ∧ readMembers fuel first given acc text = .error (.mismatch (.duplicateField k.token)) := by
  induction h with
  | @last key _ _ _ member _ =>
    intro fuel first given acc text hf next nodup twice
    obtain ⟨fuel, rfl⟩ : ∃ n, fuel = n + 1 := ⟨fuel - 1, by simp at hf; omega⟩
    refine member.duplicate_of_given next (fun fresh => twice ?_) []
    exact (named_perm key [] given).nodup_iff.mpr (nodup_given_iff.mpr ⟨nodup, fresh⟩)
  | @next key keys _ _ _ _ _ member behind before _ ih =>
    intro fuel first given acc text hf next nodup twice
    obtain ⟨fuel, rfl⟩ : ∃ n, fuel = n + 1 := ⟨fuel - 1, by simp at hf; omega⟩
    by_cases fresh : ∀ k ∈ key, k ∉ given
    · obtain ⟨s, member⟩ := member.typed
      have moved := named_perm key keys given
      obtain ⟨k, count, failed⟩ := ih (by simp at hf; omega) (nextKey_next behind before)
        (nodup_given_iff.mpr ⟨nodup, fresh⟩) (fun apart => twice (moved.nodup_iff.mpr apart))
      exact ⟨k, moved.count_eq k ▸ count, (member.read next fresh).trans failed⟩
    · exact member.duplicate_of_given next fresh keys

theorem Typed.anything {value : List Char} (h : Typed key value rest) : Anything key value rest := by
  obtain ⟨s, h⟩ := h
  cases key with
  | none => exact h
  | some k => exact Key.Laid.grammar h

theorem LaidMembers.mono {forms forms' : Forms}
    (le : ∀ {key value rest}, forms key value rest → forms' key value rest) (h : LaidMembers forms keys member rest) :
    LaidMembers forms' keys member rest := by
  have each {key : Option Key} {text after : List Char} (h : LaidMember forms key text after) :
      LaidMember forms' key text after := by
    obtain ⟨spelled, name, colon, before, h⟩ := h
    exact .mk spelled name colon before (le h)
  induction h with
  | last member behind => exact .last (each member) behind
  | next member behind before _ ih => exact .next (each member) behind before ih

/-- Every member takes a character. -/
theorem LaidMembers.length_le (h : LaidMembers Typed keys member rest) : keys.length ≤ member.length := by
  induction h with
  | last member _ =>
    obtain ⟨spelled, -, -, -, -⟩ := member
    have := spelled.length_lt
    exact Nat.lt_of_le_of_lt (Nat.zero_le _) this
  | next member behind before _ ih =>
    obtain ⟨spelled, -, colon, blanks, h⟩ := member
    have := spelled.length_lt
    have := colon.length_le
    have := blanks.length_le
    have := Grammar.length_lt h.anything
    have := behind.length_le
    have := before.length_le
    simp only [List.length_cons] at *
    omega

/-- The text between the braces of an object is long enough for its members. -/
theorem LaidMembers.enough {inside : List Char} (h : LaidMembers Typed keys member rest)
    (blanks : Blanks inside ('"' :: member)) : keys.length < inside.length + 1 := by
  have := h.length_le
  have := blanks.length_le
  simp only [List.length_cons] at this
  omega

end Members

/-! ## Documents -/

section Documents

variable {s : Settings} {keys : List (Option Key)}

/-- An object is read up to what follows it, and nothing but blanks follows it in a document. -/
theorem decode_object {inside : List Char} (before : Blanks text ('\x7b' :: inside)) :
    decode text = readMembers (inside.length + 1) true [] default inside >>= fun p =>
      match skipSpace p.2 with
      | [] => .ok p.1
      | _ => .error (.fault .syntactic) := by
  have opening : readSettings text = readMembers (inside.length + 1) true [] default inside := by
    unfold readSettings
    rw [before.skipSpace (by decide)]
    rfl
  exact congrArg (· >>= _) opening

/-- **A layout that names no setting twice** is read as the settings that it gives. -/
theorem LaidObject.decode (h : LaidObject (Given s) keys text) (nodup : (named keys).Nodup) :
    Settings.decode text = .ok ((named keys).foldl (takeOver s) default) := by
  cases h with
  | empty before closing behind =>
    rw [decode_object before, readMembers, nextKey_close true closing]
    show (match skipSpace _ with | [] => _ | _ => _) = _
    rw [behind.skipSpace_eq]
    rfl
  | @members _ _ inside _ after before blanks h behind =>
    have enough := (h.mono fun given => ⟨s, given⟩).enough blanks
    have read : readMembers (inside.length + 1) true [] default inside
        = .ok ((named keys).foldl (takeOver s) default, after) :=
      h.read enough (nextKey_first blanks) ((List.append_nil (named keys)).symm ▸ nodup)
    rw [decode_object before, read]
    show (match skipSpace _ with | [] => _ | _ => _) = _
    rw [behind.skipSpace_eq]
    rfl

/-- **A layout that names a setting twice** is no settings. -/
theorem LaidObject.decode_error (h : LaidObject Anything keys text) (twice : ¬(named keys).Nodup) :
    ∃ e, Settings.decode text = .error e := by
  cases h with
  | empty => exact absurd List.nodup_nil twice
  | members before blanks h _ =>
    obtain ⟨e, failed⟩ := h.error (nextKey_first blanks) List.nodup_nil
      ((List.append_nil (named keys)).symm ▸ twice)
    exact ⟨e, by rw [decode_object before, failed]; rfl⟩

/-- **A layout that names a setting twice**, where the values are those of settings, is at fault for such a setting. -/
theorem LaidObject.decode_duplicate (h : LaidObject Typed keys text) (twice : ¬(named keys).Nodup) :
    ∃ k, 2 ≤ (named keys).count k ∧ Settings.decode text = .error (.mismatch (.duplicateField k.token)) := by
  cases h with
  | empty => exact absurd List.nodup_nil twice
  | @members _ _ inside _ _ before blanks h _ =>
    obtain ⟨k, count, failed⟩ : ∃ k, 2 ≤ (named keys ++ []).count k
        ∧ readMembers (inside.length + 1) true [] default inside = .error (.mismatch (.duplicateField k.token)) :=
      h.duplicate (h.enough blanks) (nextKey_first blanks) List.nodup_nil
        ((List.append_nil (named keys)).symm ▸ twice)
    refine ⟨k, List.append_nil (named keys) ▸ count, ?_⟩
    rw [decode_object before, failed]
    rfl

end Documents

end PackageAudit.Settings
