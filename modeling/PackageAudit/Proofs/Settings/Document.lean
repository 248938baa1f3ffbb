import PackageAudit.Proofs.Settings.Layout

/-!
# Documents of settings

A written object is one layout of its members (`laidObject_pretty`). So an object without settings is read as the
defaults (`decode_pretty`), and settings, which are written as an object with a member for each of them
(`value_eq_record`), are read back from their document, whatever they are (`decode_written`).

In general a document gives the settings that it names, and the defaults for the others (`decode_laid`).
-/

namespace PackageAudit.Settings

open Json

variable {rest : List Char}

/-! ## Written objects -/

section Written

variable {forms : Forms}

/-- The key of a member, if it is a setting. -/
def keyOf (member : List Char × Value) : Option Key :=
  Key.ofToken? (String.ofList member.1)

/-- Whether a value that was written has one of the forms of its key. -/
def Fitting (forms : Forms) (member : List Char × Value) : Prop :=
  ∀ (depth : Nat) {rest : List Char}, Ended rest → forms (keyOf member) (member.2.prettyAt depth ++ rest) rest

theorem laidMember_pretty {member : List Char × Value} (h : Fitting forms member) (depth : Nat) (ended : Ended rest) :
    LaidMember forms (keyOf member)
      (member.1.flatMap escapeChar ++ '"' :: ':' :: ' ' :: (member.2.prettyAt depth ++ rest)) rest :=
  .mk (quoted_quote member.1 _) rfl (.none _) (.blank (by decide) (.none _)) (h depth ended)

theorem laidMembers_pretty (depth outer : Nat) {members : List (List Char × Value)} {key : Option Key}
    {text : List Char} (each : ∀ member ∈ members, Fitting forms member)
    (h : LaidMember forms key text (Value.prettyMembers depth members ++ (newLine outer ++ '\x7d' :: rest))) :
    LaidMembers forms (key :: members.map keyOf) text rest := by
  induction members generalizing key text with
  | nil => exact .last h (blanks_newLine outer _)
  | cons member members ih =>
    rw [prettyMembers_cons, quote_append] at h
    have ended := ended_prettyMembers depth members (ended_newLine outer ('\x7d' :: rest))
    have first := laidMember_pretty (each member List.mem_cons_self) depth ended
    have later := ih (fun m hm => each m (List.mem_cons_of_mem _ hm)) first
    exact .next h (.none _) (blanks_newLine depth _) later

/-- **A written object** is a layout of its members. -/
theorem laidObject_pretty {members : List (List Char × Value)} (each : ∀ member ∈ members, Fitting forms member) :
    LaidObject forms (members.map keyOf) (Value.object members).pretty.toList := by
  rw [Value.pretty, String.toList_ofList, ← List.append_nil (Value.prettyAt 0 _)]
  cases members with
  | nil => exact .empty (.none _) (.none _) (.none _)
  | cons member members =>
    have ended := ended_prettyMembers 1 members (ended_newLine 0 ['\x7d'])
    have first := laidMember_pretty (each member List.mem_cons_self) 1 ended
    have all := laidMembers_pretty 1 0 (fun m hm => each m (List.mem_cons_of_mem _ hm)) first
    rw [prettyAt_object, quote_append]
    exact .members (.none _) (blanks_newLine 1 _) all (.none _)

end Written

/-! ## Settings that are not given -/

/-- **A written object without settings is read as the defaults.** -/
theorem decode_pretty {members : List (List Char × Value)} {levels : Nat}
    (fits : ∀ member ∈ members, member.2.Fits levels)
    (unknown : ∀ member ∈ members, Key.ofToken? (String.ofList member.1) = none) :
    decode (Value.object members).pretty.toList = .ok default := by
  have laid : LaidObject (Given default) (members.map keyOf) (Value.object members).pretty.toList := by
    refine laidObject_pretty fun member hm depth rest ended => ?_
    rw [keyOf, unknown member hm]
    exact (fits member hm).grammar depth ended
  have none : named (members.map keyOf) = [] := by
    rw [named, List.filterMap_eq_nil_iff]
    intro key hk
    obtain ⟨member, hm, rfl⟩ := List.mem_map.mp hk
    exact unknown member hm
  rw [laid.decode (none ▸ List.nodup_nil), none]
  rfl

theorem decode_record {members : List (String × Value)} {levels : Nat}
    (fits : ∀ member ∈ members, member.2.Fits levels) (unknown : ∀ member ∈ members, Key.ofToken? member.1 = none) :
    decode (Value.record members).pretty.toList = .ok default := by
  refine @decode_pretty _ levels (fun member hm => ?_) fun member hm => ?_
  all_goals obtain ⟨m, given, rfl⟩ := List.mem_map.mp hm
  · exact fits m given
  · rw [String.ofList_toList]
    exact unknown m given

/-! ## Settings that were written -/

/-- The value that a setting is written with. -/
def Key.valueOf (s : Settings) : Key → Value
  | .rulesFile => .text s.rulesFile
  | .catalogSection => .text s.catalogSection
  | .reportFile => .text s.reportFile
  | .reportFormat => .text s.reportFormat.token
  | .reservedKeywordsFile => .text s.reservedKeywordsFile
  | .rootMarkers => textsValue s.rootMarkers
  | .skipSuffixes => textsValue s.skipSuffixes
  | .ignores => textsValue s.ignores

def member (s : Settings) (key : Key) : List Char × Value :=
  (key.token.toList, key.valueOf s)

theorem value_eq_record (s : Settings) : s.value = .object (Key.values.map s.member) :=
  rfl

theorem laidText_pretty (s : String) (depth : Nat) (rest : List Char) :
    LaidText s ((Value.text s).prettyAt depth ++ rest) rest := by
  rw [Value.text, Value.prettyAt, quote_append]
  exact .quoted (quoted_quote s.toList rest)

theorem laidItems_pretty (depth outer : Nat) {s : String} {texts : List String} {text : List Char}
    (h : LaidText s text (Value.prettyItems depth (texts.map .text) ++ (newLine outer ++ ']' :: rest))) :
    LaidItems (s :: texts) text rest := by
  induction texts generalizing s text with
  | nil => exact .last h (blanks_newLine outer _)
  | cons next texts ih =>
    rw [List.map_cons, prettyItems_cons] at h
    exact .next h (.none _) (blanks_newLine depth _) (ih (laidText_pretty next depth _))

theorem laidTexts_pretty (texts : List String) (depth : Nat) (rest : List Char) :
    LaidTexts texts ((textsValue texts).prettyAt depth ++ rest) rest := by
  cases texts with
  | nil => exact .empty (.none _)
  | cons s texts =>
    rw [textsValue, List.map_cons, prettyAt_array]
    exact .items (blanks_newLine (depth + 1) _) (laidItems_pretty (depth + 1) depth (laidText_pretty s (depth + 1) _))

/-- The value that a setting is written with is one of its layouts. -/
theorem Key.laid_valueOf (s : Settings) (key : Key) (depth : Nat) (rest : List Char) :
    key.Laid s ((key.valueOf s).prettyAt depth ++ rest) rest := by
  cases key with
  | rulesFile | catalogSection | reportFile | reportFormat | reservedKeywordsFile => exact laidText_pretty _ depth rest
  | rootMarkers | skipSuffixes | ignores => exact laidTexts_pretty _ depth rest

/-- An object of members for settings, in any order, is a layout of these settings. -/
theorem laidObject_members (s : Settings) (keys : List Key) :
    LaidObject (Given s) (keys.map some) (Value.object (keys.map s.member)).pretty.toList := by
  have key (k : Key) : keyOf (s.member k) = some k := by
    rw [keyOf, member, String.ofList_toList, Key.ofToken?_token]
  have same : (keys.map s.member).map keyOf = keys.map some := by
    rw [List.map_map]
    exact List.map_congr_left fun k _ => key k
  rw [← same]
  refine laidObject_pretty fun member hm depth rest _ => ?_
  obtain ⟨k, -, rfl⟩ := List.mem_map.mp hm
  rw [key]
  exact k.laid_valueOf s depth rest

theorem foldl_takeOver_values (s acc : Settings) : Key.values.foldl (takeOver s) acc = s := by
  simp only [Key.values, List.foldl_cons, List.foldl_nil, takeOver]

/-- **Settings are read back from their document**, whatever they are. -/
theorem decode_written (s : Settings) : decode s.document.toList = .ok s := by
  have all : named (Key.values.map some) = Key.values := rfl
  rw [document, value_eq_record, (laidObject_members s Key.values).decode (by decide), all, foldl_takeOver_values]

/-! ## Settings that are given -/

/-- Settings that are taken from some settings where they are named, and from others where they are not. -/
def select (keys : List Key) (s others : Settings) : Settings where
  rulesFile := if .rulesFile ∈ keys then s.rulesFile else others.rulesFile
  catalogSection := if .catalogSection ∈ keys then s.catalogSection else others.catalogSection
  reportFile := if .reportFile ∈ keys then s.reportFile else others.reportFile
  reportFormat := if .reportFormat ∈ keys then s.reportFormat else others.reportFormat
  reservedKeywordsFile := if .reservedKeywordsFile ∈ keys then s.reservedKeywordsFile else others.reservedKeywordsFile
  rootMarkers := if .rootMarkers ∈ keys then s.rootMarkers else others.rootMarkers
  skipSuffixes := if .skipSuffixes ∈ keys then s.skipSuffixes else others.skipSuffixes
  ignores := if .ignores ∈ keys then s.ignores else others.ignores

/-- Settings that were taken over one after the other are those that were named, in any order. -/
theorem foldl_takeOver (s : Settings) (keys : List Key) (acc : Settings) :
    keys.foldl (takeOver s) acc = select keys s acc := by
  induction keys generalizing acc with
  | nil => simp [select]
  | cons key keys ih =>
    rw [List.foldl_cons, ih]
    cases key <;> simp [select, takeOver]

/-- **Reading settings.** Whatever the blanks, the escapes, the order of the keys and the members between them are, a
document that names no setting twice gives the settings that it names, and the defaults for the others; settings are
read back from the document that they are written as. A document that names a setting twice is no settings, whatever its
values are, and where they are values of settings the error is for a setting that is named twice. -/
theorem decode_laid (s : Settings) :
    (∀ {keys : List (Option Key)} {text : List Char}, LaidObject (Given s) keys text → (named keys).Nodup →
      decode text = .ok (select (named keys) s default))
    ∧ decode s.document.toList = .ok s
    ∧ (∀ {keys : List (Option Key)} {text : List Char}, LaidObject Anything keys text → ¬(named keys).Nodup →
      ∃ e, decode text = .error e)
    ∧ ∀ {keys : List (Option Key)} {text : List Char}, LaidObject Typed keys text → ¬(named keys).Nodup →
      ∃ key, 2 ≤ (named keys).count key ∧ decode text = .error (.mismatch (.duplicateField key.token)) := by
  refine ⟨fun laid nodup => ?_, decode_written s, LaidObject.decode_error, LaidObject.decode_duplicate⟩
  rw [laid.decode nodup, foldl_takeOver]

/-- A key spelled with an escape behind a member that is no setting; and one key twice. -/
theorem decode_laid_ignores :
    decode "\x7b\"x\":[-1.5e3,\x7b\x7d] , \"\\u0069gnores\":\t[\"\\n\"]\x7d".toList
      = .ok { default with ignores := [String.ofList ['\n']] }
    ∧ decode default.document.toList = .ok default
    ∧ (∃ e, decode "\x7b\"ignores\":[],\"ignores\":[]\x7d".toList = .error e)
    ∧ ∃ key, 2 ≤ [Key.ignores, .ignores].count key
      ∧ decode "\x7b\"ignores\":[],\"ignores\":[]\x7d".toList = .error (.mismatch (.duplicateField key.token)) := by
  have plain {rest : List Char} :
      Quoted ['g', 'n', 'o', 'r', 'e', 's'] ('g' :: 'n' :: 'o' :: 'r' :: 'e' :: 's' :: '"' :: rest) rest := by
    repeat refine .plain (by decide) ?_
    exact .close rest
  have laid : LaidObject (Given { default with ignores := [String.ofList ['\n']] }) [none, some .ignores]
      "\x7b\"x\":[-1.5e3,\x7b\x7d] , \"\\u0069gnores\":\t[\"\\n\"]\x7d".toList := by
    have number {rest : List Char} : Number ('-' :: '1' :: '.' :: '5' :: 'e' :: '3' :: ',' :: rest) (',' :: rest) :=
      .negative ⟨_, _, .digits nofun (.one (by decide) _), .point (.one (by decide) _),
        .plain (.inl rfl) (.one (by decide) _)⟩
    have unknown {s : Settings} {rest : List Char} : Given s none
        ('[' :: '-' :: '1' :: '.' :: '5' :: 'e' :: '3' :: ',' :: '\x7b' :: '\x7d' :: ']' :: rest) rest :=
      .array (.none _) (.nextItem (.number number fun c hc => .inr (.inl (Option.some.inj hc).symm)) (.none _) (.none _)
        (.lastItem (.emptyObject (.none _)) (.none _)))
    have digits {rest : List Char} :
        UnitDigits (((0 * 16 + 0) * 16 + 6) * 16 + 9) ('0' :: '0' :: '6' :: '9' :: rest) rest :=
      .mk rfl rfl rfl rfl rest
    have escaped {rest : List Char} : Quoted (String.ofList ['\n']).toList ('\\' :: 'n' :: '"' :: rest) rest := by
      rw [String.toList_ofList]
      exact .letter rfl (.close rest)
    have ignores {rest : List Char} : Given { default with ignores := [String.ofList ['\n']] } (some .ignores)
        ('[' :: '"' :: '\\' :: 'n' :: '"' :: ']' :: rest) rest :=
      .items (.none _) (.last (.quoted escaped) (.none _))
    have space : isSpace ' ' = true := rfl
    have tab : isSpace '\t' = true := rfl
    rw [String.toList_ofList]
    exact .members (.none _) (.none _)
      (.next (.mk (.plain (by decide) (.close _)) (by decide) (.none _) (.none _) unknown)
        (.blank space (.none _)) (.blank space (.none _))
        (.last (.mk (.unit digits (by decide) plain) (by decide) (.none _) (.blank tab (.none _)) ignores) (.none _)))
      (.none _)
  have twice {forms : Forms} (empty : ∀ {rest}, forms (some .ignores) ('[' :: ']' :: rest) rest) :
      LaidObject forms [some .ignores, some .ignores] "\x7b\"ignores\":[],\"ignores\":[]\x7d".toList := by
    have member {rest : List Char} : LaidMember forms (some .ignores)
        ('i' :: 'g' :: 'n' :: 'o' :: 'r' :: 'e' :: 's' :: '"' :: ':' :: '[' :: ']' :: rest) rest :=
      .mk (.plain (by decide) plain) (by decide) (.none _) (.none _) empty
    rw [String.toList_ofList]
    exact .members (.none _) (.none _) (.next member (.none _) (.none _) (.last member (.none _))) (.none _)
  have again : ¬(named [some .ignores, some .ignores]).Nodup := by decide
  refine ⟨(decode_laid _).1 laid (by decide), (decode_laid _).2.1, ?_, ?_⟩
  · exact (decode_laid default).2.2.1 (twice (.emptyArray (.none _))) again
  · exact (decode_laid default).2.2.2 (twice ⟨{ default with ignores := [] }, .empty (.none _)⟩) again

end PackageAudit.Settings
