import PackageAudit.Markup.Attribute
import PackageAudit.Proofs.Markup.Forest
import PackageAudit.Proofs.Text.Search

/-!
# Written tags are read back

A tag that was written is read as the token it stands for, whatever follows it: a start tag (`readMarkup_startTag`),
a tag without content (`readMarkup_emptyTag`), an end tag (`readMarkup_endTag`) or an aside (`readMarkup_aside`). The
content of a tag gives back the name (`tagName_tagContent`) and the attributes with their values unescaped
(`readAttributes_tagContent`). What stands in front of a text is its first token (`tokensFrom_markup`,
`tokensFrom_text`).

What makes this true is that an escaped value holds no quotes and no angle brackets (`mem_escape`) and a name no
character with a meaning.
-/

namespace PackageAudit.Markup

/-! ## Escaped texts -/

/-- An escaped text holds no angle brackets and no quotes. -/
theorem mem_escape {c : Char} {text : List Char} (h : c ∈ escape text) :
    c ≠ '<' ∧ c ≠ '>' ∧ c ≠ '"' ∧ c ≠ '\'' := by
  obtain ⟨d, -, hc⟩ := List.mem_flatMap.mp h
  have entity : ∀ {chars : List Char}, c ∈ chars →
      (chars.all fun c => c != '<' && c != '>' && c != '"' && c != '\'') = true →
      c ≠ '<' ∧ c ≠ '>' ∧ c ≠ '"' ∧ c ≠ '\'' := by
    intro chars hm hall
    simpa [and_assoc] using List.all_eq_true.mp hall c hm
  unfold escapeChar at hc
  split at hc
  case h_6 hlt hgt _ hapos hquot =>
    obtain rfl := List.mem_singleton.mp hc
    exact ⟨hlt, hgt, hquot, hapos⟩
  all_goals exact entity hc (by decide)

/-! ## Where a tag ends -/

/-- A tag goes on over some characters: its end is the first one behind them. -/
def TagSpans (s : List Char) : Prop :=
  ∀ rest, cutTag none (s ++ rest) = (cutTag none rest).map fun p => (s ++ p.1, p.2)

theorem TagSpans.append {s t : List Char} (hs : TagSpans s) (ht : TagSpans t) : TagSpans (s ++ t) := by
  intro rest
  rw [List.append_assoc, hs, ht, Option.map_map]
  simp [Function.comp_def]

theorem TagSpans.cut {s : List Char} (h : TagSpans s) (rest : List Char) :
    cutTag none (s ++ '>' :: rest) = some (s, rest) := by
  rw [h, cutTag_cons, if_pos ⟨rfl, rfl⟩, Option.map_some, List.append_nil]

theorem TagSpans.cut_slash {s : List Char} (h : TagSpans s) (rest : List Char) :
    cutTag none (s ++ '/' :: '>' :: rest) = some (s ++ ['/'], rest) := by
  have slash : cutTag none ('/' :: '>' :: rest) = some (['/'], rest) := rfl
  rw [h, slash, Option.map_some]

theorem tagSpans_flatMap {α : Type} {write : α → List Char} : ∀ {items : List α}, (∀ a ∈ items, TagSpans (write a)) →
    TagSpans (items.flatMap write)
  | [], _ => fun rest => by simp
  | a :: items, h => by
    rw [List.flatMap_cons]
    exact (h a List.mem_cons_self).append (tagSpans_flatMap fun b hb => h b (List.mem_cons_of_mem _ hb))

theorem tagSpans_plain : ∀ {s : List Char}, (∀ c ∈ s, c ≠ '>' ∧ c ≠ '"' ∧ c ≠ '\'') → TagSpans s
  | [], _ => fun rest => by simp
  | c :: s, h => by
    intro rest
    obtain ⟨hgt, hquot, hapos⟩ := h c List.mem_cons_self
    have tail : TagSpans s := tagSpans_plain fun d hd => h d (List.mem_cons_of_mem _ hd)
    rw [List.cons_append, cutTag_cons, if_neg (by simp [hgt])]
    simp only [quoteBehind, hquot, hapos, or_self, if_false]
    rw [tail, Option.map_map]
    rfl

/-- A value that was begun ends at its quote, and the tag goes on. -/
theorem cutTag_quoted {q : Char} (rest : List Char) : ∀ {s : List Char}, q ∉ s →
    cutTag (some q) (s ++ q :: rest) = (cutTag none rest).map fun p => (s ++ q :: p.1, p.2)
  | [], _ => by simp [cutTag_cons, quoteBehind]
  | c :: s, h => by
    obtain ⟨hc, hs⟩ := not_or.mp (mt List.mem_cons.mpr h)
    rw [List.cons_append, cutTag_cons, if_neg (by simp)]
    simp only [quoteBehind, Ne.symm hc, if_false]
    rw [cutTag_quoted rest hs, Option.map_map]
    rfl

theorem tagSpans_quoted {q : Char} (hq : q = '"' ∨ q = '\'') {s : List Char} (h : q ∉ s) :
    TagSpans (q :: s ++ [q]) := by
  intro rest
  have hgt : q ≠ '>' := by rcases hq with rfl | rfl <;> decide
  rw [List.append_assoc, List.cons_append, cutTag_cons, if_neg (by simp [hgt])]
  simp only [quoteBehind, if_pos hq, List.singleton_append]
  rw [cutTag_quoted rest h, Option.map_map]
  simp [Function.comp_def]

theorem Name.plain (name : Name) : ∀ c ∈ name.text.toList, c ≠ '>' ∧ c ≠ '"' ∧ c ≠ '\'' := by
  intro c hc
  have h := name.not_reserved c hc
  refine ⟨?_, ?_, ?_⟩ <;> rintro rfl <;> exact absurd h (by decide)

/-- A tag goes on over a written attribute. -/
theorem tagSpans_writeAttribute (name : Name) (value : String) : TagSpans (writeAttribute (name.text, value)) := by
  have key : ∀ c ∈ ' ' :: name.text.toList ++ ['='], c ≠ '>' ∧ c ≠ '"' ∧ c ≠ '\'' := by
    intro c hc
    simp only [List.cons_append, List.mem_cons, List.mem_append, List.not_mem_nil, or_false] at hc
    rcases hc with rfl | hc | rfl
    · decide
    · exact name.plain c hc
    · decide
  have value' : '"' ∉ escape value.toList := fun h => (mem_escape h).2.2.1 rfl
  have written : writeAttribute (name.text, value)
      = (' ' :: name.text.toList ++ ['=']) ++ ('"' :: escape value.toList ++ ['"']) := by
    simp [writeAttribute]
  rw [written]
  exact (tagSpans_plain key).append (tagSpans_quoted (.inl rfl) value')

theorem tagSpans_tagContent (name : Name) (attributes : Attributes) :
    TagSpans (tagContent name.text attributes.texts) := by
  refine (tagSpans_plain name.plain).append (tagSpans_flatMap fun p hp => ?_)
  obtain ⟨⟨key, value⟩, -, rfl⟩ := List.mem_map.mp hp
  exact tagSpans_writeAttribute key value

/-! ## Tags as tokens -/

/-- Markup that begins with any other character than those with a meaning is a start tag, or a tag without content if
it ends in a slash. -/
theorem readMarkup_of_head {c : Char} {text content after : List Char} (head : c ≠ '?' ∧ c ≠ '!' ∧ c ≠ '/')
    (h : cutTag none (c :: text) = some (content, after)) :
    readMarkup (c :: text)
      = .ok (if content.getLast? = some '/' then .empty content.dropLast else .start content, after) := by
  unfold readMarkup
  split
  case h_7 =>
    simp only [h]
    split <;> rfl
  all_goals simp_all

/-- Markup that begins with a name is a start tag, or a tag without content if it ends in a slash. -/
theorem readMarkup_of_name {name : Name} {text content after : List Char} (begun : name.text.toList <+: text)
    (h : cutTag none text = some (content, after)) :
    readMarkup text
      = .ok (if content.getLast? = some '/' then .empty content.dropLast else .start content, after) := by
  obtain ⟨tail, rfl⟩ := begun
  obtain ⟨c, cs, hs⟩ := name.exists_cons
  have hc : isReserved c = false := name.not_reserved c (by simp [hs])
  have head : c ≠ '?' ∧ c ≠ '!' ∧ c ≠ '/' := by
    refine ⟨?_, ?_, ?_⟩ <;> rintro rfl <;> exact absurd hc (by decide)
  rw [hs] at h ⊢
  exact readMarkup_of_head head h

theorem name_prefix_tagContent (name : Name) (attributes : Attributes) (rest : List Char) :
    name.text.toList <+: tagContent name.text attributes.texts ++ rest := by
  rw [tagContent, List.append_assoc]
  exact List.prefix_append _ _

/-- The content of a start tag does not end in a slash. -/
theorem getLast?_tagContent (name : Name) (attributes : Attributes) :
    (tagContent name.text attributes.texts).getLast? ≠ some '/' := by
  unfold tagContent
  rcases List.eq_nil_or_concat attributes.texts with h | ⟨init, last, h⟩
  · intro hl
    rw [h, List.flatMap_nil, List.append_nil] at hl
    exact absurd (name.not_reserved _ (List.mem_of_getLast? hl)) (by decide)
  · have quoted : writeAttribute last = (' ' :: last.1.toList ++ ['=', '"'] ++ escape last.2.toList) ++ ['"'] := rfl
    rw [h, List.concat_eq_append, List.flatMap_append, List.flatMap_singleton, quoted, ← List.append_assoc,
      ← List.append_assoc, List.getLast?_concat]
    decide

/-- **A written start tag is read back.** -/
theorem readMarkup_startTag (name : Name) (attributes : Attributes) (rest : List Char) :
    readMarkup (tagContent name.text attributes.texts ++ '>' :: rest)
      = .ok (.start (tagContent name.text attributes.texts), rest) := by
  have cut := (tagSpans_tagContent name attributes).cut rest
  rw [readMarkup_of_name (name_prefix_tagContent name attributes _) cut, if_neg (getLast?_tagContent name attributes)]

/-- **A written tag without content is read back.** -/
theorem readMarkup_emptyTag (name : Name) (attributes : Attributes) (rest : List Char) :
    readMarkup (tagContent name.text attributes.texts ++ '/' :: '>' :: rest)
      = .ok (.empty (tagContent name.text attributes.texts), rest) := by
  have cut := (tagSpans_tagContent name attributes).cut_slash rest
  rw [readMarkup_of_name (name_prefix_tagContent name attributes _) cut, if_pos List.getLast?_concat,
    List.dropLast_concat]

/-- The name of an end tag has no blanks to be dropped. -/
theorem closeName_name (name : Name) : closeName name.text.toList = name.text.toList := by
  have kept : name.text.toList.reverse.dropWhile isSpace = name.text.toList.reverse := by
    cases h : name.text.toList.reverse with
    | nil => rfl
    | cons c rest =>
      have hc : c ∈ name.text.toList := List.mem_reverse.mp (by rw [h]; exact List.mem_cons_self)
      exact List.dropWhile_cons_of_neg (by simp [name.not_space c hc])
  unfold closeName
  rw [kept, List.reverse_reverse]
  split <;> rfl

/-- **A written end tag is read back.** -/
theorem readMarkup_endTag (name : Name) (rest : List Char) :
    readMarkup ('/' :: name.text.toList ++ '>' :: rest) = .ok (.close name.text.toList, rest) := by
  have cut := (tagSpans_plain name.plain).cut rest
  unfold readMarkup
  simp only [List.cons_append, cut, closeName_name]

theorem AsideKind.exists_closing (kind : AsideKind) : ∃ front, kind.closing = front ++ ['>'] ∧ '>' ∉ front := by
  cases kind with
  | comment => exact ⟨['-', '-'], rfl, by decide⟩
  | instruction => exact ⟨['?'], rfl, by decide⟩
  | characterData => exact ⟨[']', ']'], rfl, by decide⟩

theorem cutFirst_closing (a : Aside) (rest : List Char) :
    Text.cutFirst a.kind.closing (a.body.toList ++ (a.kind.closing ++ rest)) = some (a.body.toList, rest) := by
  obtain ⟨front, hc, hf⟩ := a.kind.exists_closing
  have h := a.unended
  rw [hc] at h ⊢
  exact Text.cutFirst_append rest hf h

section Asides

variable {text after body : List Char}

theorem readMarkup_comment (cut : Text.cutFirst "-->".toList text = some (body, after)) :
    readMarkup ('!' :: '-' :: '-' :: text) = .ok (.other, after) := by
  simp only [readMarkup, cut]

theorem readMarkup_instruction (cut : Text.cutFirst "?>".toList text = some (body, after))
    (begun : text.head? ≠ some '>') : readMarkup ('?' :: text) = .ok (.other, after) := by
  unfold readMarkup
  split <;> simp_all

theorem readMarkup_characterData (cut : Text.cutFirst "]]>".toList text = some (body, after)) :
    readMarkup ('!' :: '[' :: ("CDATA[".toList ++ text)) = .ok (.other, after) := by
  have opened : "CDATA[".toList.isPrefixOf ("CDATA[".toList ++ text) = true :=
    List.isPrefixOf_iff_prefix.mpr (List.prefix_append _ _)
  have dropped : ("CDATA[".toList ++ text).drop 6 = text := rfl
  simp only [readMarkup, opened, dropped, cut, if_true]

end Asides

/-- **A written aside is passed over.** -/
theorem readMarkup_aside (a : Aside) (rest : List Char) :
    readMarkup (a.kind.opening ++ a.body.toList ++ a.kind.closing ++ rest) = .ok (.other, rest) := by
  have cut := cutFirst_closing a rest
  rw [List.append_assoc, List.append_assoc]
  cases hk : a.kind with
  | comment =>
    rw [hk] at cut
    exact readMarkup_comment cut
  | instruction =>
    have begun := a.begun hk
    rw [hk] at cut
    refine readMarkup_instruction cut ?_
    cases hb : a.body.toList with
    | nil => exact fun h => absurd (Option.some.inj h) (by decide)
    | cons c body => rwa [hb] at begun
  | characterData =>
    rw [hk] at cut
    exact readMarkup_characterData cut

/-! ## The content of a tag -/

theorem tagName_tagContent (name : Name) (attributes : Attributes) :
    tagName (tagContent name.text attributes.texts) = name.text.toList := by
  unfold tagName tagContent
  rw [List.takeWhile_append_of_pos fun c hc => by simp [name.not_space c hc]]
  cases attributes.texts with
  | nil => simp
  | cons p rest => simp [writeAttribute, isSpace]

theorem Name.isKey (name : Name) : ∀ c ∈ name.text.toList, (c != '=' && !isSpace c) = true := by
  intro c hc
  have h := name.not_reserved c hc
  have eq : c ≠ '=' := by rintro rfl; exact absurd h (by decide)
  simp [eq, name.not_space c hc]

/-- **A written attribute is read back**, with its value still escaped, if its name did not stand before. -/
theorem readAttribute_writeAttribute (size offset : Nat) {seen : List (List Char × Nat)} (name : Name) (value : String)
    (rest : List Char) (fresh : name.text.toList ∉ seen.map (·.1)) :
    ∃ next, readAttribute size seen offset (writeAttribute (name.text, value) ++ rest)
      = .ok (some { key := name.text.toList, keyOffset := offset + 1, value := escape value.toList, next, rest }) := by
  obtain ⟨c, cs, hs⟩ := name.exists_cons
  have text : writeAttribute (name.text, value) ++ rest
      = ' ' :: c :: (cs ++ '=' :: '"' :: (escape value.toList ++ '"' :: rest)) := by
    simp [writeAttribute, hs]
  have first : ¬isSpace c = true := by simp [name.not_space c (by simp [hs])]
  have isKey : ∀ d ∈ cs, (d != '=' && !isSpace d) = true := fun d hd => name.isKey d (by simp [hs, hd])
  have isValue : ∀ d ∈ escape value.toList, decide (d ≠ '"') = true := fun d hd =>
    decide_eq_true (mem_escape hd).2.2.1
  have unseen : (seen.find? fun entry => entry.1 = c :: cs) = none := by
    rw [List.find?_eq_none]
    intro entry he hk
    exact fresh (hs ▸ List.mem_map.mpr ⟨entry, he, of_decide_eq_true hk⟩)
  have equals (tail : List Char) : ('=' :: tail).dropWhile isSpace = '=' :: tail :=
    List.dropWhile_cons_of_neg (by decide)
  have opened (tail : List Char) : ('"' :: tail).dropWhile isSpace = '"' :: tail :=
    List.dropWhile_cons_of_neg (by decide)
  have closed (tail : List Char) : ('"' :: tail).dropWhile (fun d => decide (d ≠ '"')) = '"' :: tail :=
    List.dropWhile_cons_of_neg (by decide)
  rw [text, hs]
  unfold readAttribute
  rw [List.dropWhile_cons_of_pos (by decide), List.dropWhile_cons_of_neg first,
    List.takeWhile_cons_of_pos (by decide), List.takeWhile_cons_of_neg first]
  simp only [List.takeWhile_append_of_pos isKey, List.dropWhile_append_of_pos isKey]
  simp only [bne_self_eq_false, Bool.false_and, Bool.false_eq_true, not_false_eq_true, List.takeWhile_cons_of_neg,
    List.dropWhile_cons_of_neg, List.append_nil, unseen, equals, opened, true_or, if_true]
  simp only [List.takeWhile_append_of_pos isValue, List.dropWhile_append_of_pos isValue, closed]
  rw [List.takeWhile_cons_of_neg (by decide), List.append_nil]
  exact ⟨_, rfl⟩

/-- The attributes that were written are read back, given as much fuel as there are attributes. -/
theorem readAttributesFrom_write (size : Nat) : ∀ {pairs : List (Name × String)} {seen : List (List Char × Nat)}
    {fuel : Nat} (offset : Nat), pairs.length < fuel → (pairs.map (·.1)).Nodup →
    (∀ p ∈ pairs, p.1.text.toList ∉ seen.map (·.1)) →
    readAttributesFrom size fuel seen offset ((pairs.map fun p => (p.1.text, p.2)).flatMap writeAttribute)
      = .ok (pairs.map fun p => (p.1.text, p.2))
  | [], seen, fuel, offset, hf, _, _ => by
    obtain ⟨fuel, rfl⟩ : ∃ n, fuel = n + 1 := ⟨fuel - 1, by simp at hf; omega⟩
    rfl
  | (name, value) :: pairs, seen, fuel, offset, hf, hd, hs => by
    obtain ⟨fuel, rfl⟩ : ∃ n, fuel = n + 1 := ⟨fuel - 1, by simp at hf; omega⟩
    obtain ⟨hname, hpairs⟩ := List.nodup_cons.mp hd
    have hseen : ∀ p ∈ pairs, p.1.text.toList ∉ (seen ++ [(name.text.toList, offset + 1)]).map (·.1) := by
      intro p hp h
      rw [List.map_append, List.mem_append] at h
      rcases h with h | h
      · exact hs p (List.mem_cons_of_mem _ hp) h
      · have heq : p.1 = name := Name.eq_of_text (String.toList_inj.mp (List.mem_singleton.mp h))
        exact hname (heq ▸ List.mem_map.mpr ⟨p, hp, rfl⟩)
    obtain ⟨next, hread⟩ := readAttribute_writeAttribute size offset name value
      ((pairs.map fun p => (p.1.text, p.2)).flatMap writeAttribute) (hs _ List.mem_cons_self)
    have more := readAttributesFrom_write size next (by simp at hf; omega) hpairs hseen
    rw [List.map_cons, List.flatMap_cons, readAttributesFrom, hread]
    show (do
      let value ← unescape (escape value.toList)
      let more ← readAttributesFrom size fuel (seen ++ [(name.text.toList, offset + 1)]) next
        ((pairs.map fun p : Name × String => (p.1.text, p.2)).flatMap writeAttribute)
      .ok ((String.ofList name.text.toList, String.ofList value) :: more)) = _
    rw [unescape_escape, more]
    simp only [bind, Except.bind, String.ofList_toList]

/-- **The content of a written tag gives back its attributes**, with their values unescaped. -/
theorem readAttributes_tagContent (name : Name) (attributes : Attributes) :
    readAttributes (tagContent name.text attributes.texts) = .ok attributes.texts := by
  have fuel : ∀ pairs : List (String × String), pairs.length ≤ (pairs.flatMap writeAttribute).length := by
    intro pairs
    induction pairs with
    | nil => simp
    | cons p pairs ih =>
      simp only [List.length_cons, List.flatMap_cons, List.length_append, writeAttribute]
      omega
  unfold readAttributes
  simp only [tagName_tagContent]
  unfold tagContent Attributes.texts
  rw [List.drop_left]
  refine readAttributesFrom_write _ _ ?_ attributes.distinct (by simp)
  have := fuel (attributes.pairs.map fun p => (p.1.text, p.2))
  simp only [List.length_append, List.length_map] at this ⊢
  omega

/-! ## The first token of a text -/

theorem tokensFrom_markup {token : Token} {text rest : List Char} (h : readMarkup text = .ok (token, rest))
    (fuel offset : Nat) : tokensFrom (fuel + 1) offset ('<' :: text)
      = (offset, token) :: tokensFrom fuel (offset + (1 + (Text.Utf8.size text - Text.Utf8.size rest))) rest := by
  rw [tokensFrom, if_pos rfl, h]

/-- Characters in front of markup, or at the end, are the first token. -/
theorem tokensFrom_text {c : Char} {chars text : List Char} (hc : '<' ∉ c :: chars) (ht : ∀ a ∈ text.head?, a = '<')
    (fuel offset : Nat) : tokensFrom (fuel + 1) offset (c :: chars ++ text)
      = (offset, .text (c :: chars)) :: tokensFrom fuel (offset + Text.Utf8.size (c :: chars)) text := by
  have first : c ≠ '<' := fun he => hc (he ▸ List.mem_cons_self)
  have plain : ∀ a ∈ c :: chars, decide (a ≠ '<') = true := fun a ha => by
    refine decide_eq_true ?_
    rintro rfl
    exact hc ha
  have stop : text.takeWhile (fun a => decide (a ≠ '<')) = []
      ∧ text.dropWhile (fun a => decide (a ≠ '<')) = text := by
    cases text with
    | nil => exact ⟨rfl, rfl⟩
    | cons a text =>
      obtain rfl := ht a rfl
      exact ⟨rfl, rfl⟩
  rw [List.cons_append, tokensFrom, if_neg first]
  rw [← List.cons_append, List.takeWhile_append_of_pos plain, List.dropWhile_append_of_pos plain, stop.1, stop.2,
    List.append_nil]

end PackageAudit.Markup
