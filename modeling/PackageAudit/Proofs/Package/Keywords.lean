import Mathlib.Data.List.TakeWhile
import PackageAudit.Proofs.Package.Session
import PackageAudit.Proofs.Text.Lines

/-!
# The reserved keywords of a package

The lines of a file list keywords: what is left of a line without the blanks at its end, where anything is (`Lists`). A
text breaks the rule against them if it begins with one and a blank, apart from blanks in front
(`violates_filterMap_iff`), so a word that goes on behind a keyword is none (`not_prefix_of_firstWord`). The file is
read when the keywords are asked for the first time (`Unread`), and what it lists then decides from then on.

Main statement: `listed_keywords_decide`.
-/

namespace PackageAudit

theorem ActionKind.eq_of_key?_keywords {kind : ActionKind} (h : kind.key? = some .containsTeradataKeywords) :
    kind = .containsReservedKeyword := by
  cases kind <;> first | rfl | cases h

namespace Package

variable {lines : List (List Char)} {a : Action} {k text : List Char} {number : String}

/-! ## Listed keywords -/

/-- Whether lines list a keyword: one of them holds nothing else but blanks behind it. -/
def Lists (lines : List (List Char)) (k : List Char) : Prop :=
  k ≠ [] ∧ ∃ line ∈ lines, Text.trimEnd line = k

/-- Some listed keyword has a property if it is on a line that is not blank. -/
theorem exists_lists_iff {holds : List Char → Prop} : (∃ k, Lists lines k ∧ holds k)
    ↔ ∃ line ∈ lines, Text.trimEnd line ≠ [] ∧ holds (Text.trimEnd line) := by
  constructor
  · rintro ⟨_, ⟨word, line, hl, rfl⟩, hk⟩
    exact ⟨line, hl, word, hk⟩
  · rintro ⟨line, hl, word, hk⟩
    exact ⟨Text.trimEnd line, ⟨word, line, hl, rfl⟩, hk⟩

/-- A line has a keyword unless it is blank, and the keyword ends in a blank. -/
theorem keywordOn?_eq_some_iff {line : List Char} {keyword : String} : keywordOn? line = some keyword
    ↔ Text.trimEnd line ≠ [] ∧ keyword.toList = Text.trimEnd line ++ [' '] := by
  unfold keywordOn?
  cases Text.trimEnd line with
  | nil => simp
  | cons c more => simp [← String.toList_inj, eq_comm]

theorem mem_filterMap_keywordOn? {keyword : String} :
    keyword ∈ lines.filterMap keywordOn? ↔ ∃ k, Lists lines k ∧ keyword.toList = k ++ [' '] := by
  rw [exists_lists_iff, List.mem_filterMap]
  simp only [keywordOn?_eq_some_iff]

/-- **A text breaks the rule** if it begins with a listed keyword and a blank, apart from blanks in front. -/
theorem violates_filterMap_iff (kind : a.kind = .containsReservedKeyword) :
    a.violates number (lines.filterMap keywordOn?) text = true
      ↔ ∃ k, Lists lines k ∧ k ++ [' '] <+: Text.trimStart text := by
  simp only [Action.violates, kind, List.any_eq_true, List.isPrefixOf_iff_prefix, mem_filterMap_keywordOn?]
  constructor
  · rintro ⟨keyword, ⟨k, listed, same⟩, begins⟩
    exact ⟨k, listed, same ▸ begins⟩
  · rintro ⟨k, listed, begins⟩
    exact ⟨String.ofList (k ++ [' ']), ⟨k, listed, String.toList_ofList⟩, by rwa [String.toList_ofList]⟩

theorem not_lists_of_isBlank (h : ∀ line ∈ lines, ∀ c ∈ line, Text.isBlank c = true) : ¬Lists lines k := by
  rintro ⟨word, line, hl, rfl⟩
  refine word ?_
  rw [Text.trimEnd, List.reverse_eq_nil_iff, List.dropWhile_eq_nil_iff]
  exact fun c hc => h line hl c (List.mem_reverse.mp hc)

/-! ## Words -/

def firstWord (text : List Char) : List Char :=
  (Text.trimStart text).takeWhile (!Text.isBlank ·)

/-- A text whose first word goes on behind another does not begin with that and a blank. -/
theorem not_prefix_of_firstWord (h : k <+: firstWord text) (longer : k ≠ firstWord text) :
    ¬k ++ [' '] <+: Text.trimStart text := by
  intro begins
  obtain ⟨more, goes⟩ := h
  cases more with
  | nil => exact longer ((List.append_nil k).symm.trans goes)
  | cons c more =>
    have inside : c ∈ firstWord text := goes ▸ List.mem_append_right k List.mem_cons_self
    have shown : Text.isBlank c = false := by simpa using List.mem_takeWhile_imp inside
    have next : k ++ [c] <+: Text.trimStart text := by
      refine List.IsPrefix.trans ⟨more, ?_⟩ (List.takeWhile_prefix (!Text.isBlank ·))
      rw [List.append_assoc, List.singleton_append, goes, firstWord]
    -- both are what the text has at its beginning, up to the same place
    have same := (List.prefix_of_prefix_length_le begins next (by simp)).eq_of_length (by simp)
    obtain rfl : ' ' = c := List.singleton_inj.mp (List.append_cancel_left same)
    exact absurd shown (by decide)

/-! ## Asking for the keywords -/

/-- Whether a text breaks the rule of an action in a session, with the answers about the facts that it compares. -/
def Session.breaks (s : Session) (a : Action) (text : List Char) : Bool :=
  a.violates (s.package.learn s.tree .changeRequest).facts.changeRequest
    (s.package.learn s.tree .keywords).facts.keywords text

/-- The sessions in which a package was opened with a file of keywords, and the keywords were not asked for. -/
inductive Unread (file : String) : Session → Prop
  | opened {t : FileTree} {root : String} {ignores : List String} {p : Package}
    (h : Package.open t root (some file) ignores = .ok p) : Unread file ⟨t, p⟩
  | next {s : Session} {event : Event} (h : Unread file s) (other : event ≠ .ask .keywords) : Unread file (s.next event)

variable {s : Session} {file : String} {content : List Char}

theorem Session.keywordsFile_next (s : Session) (event : Event) :
    (s.next event).package.keywordsFile = s.package.keywordsFile := by
  cases event with
  | ask fact => cases fact <;> rfl
  | edit _ | read _ => rfl

/-- The keywords are still to be read, from the file that the package was opened with. -/
theorem Unread.unknown (h : Unread file s) :
    s.package.keywordsFile = some file ∧ s.package.known? .keywords = none := by
  induction h with
  | opened h => exact ⟨congrArg keywordsFile (eq_of_open h), known?_of_open h .keywords⟩
  | @next s event _ other ih =>
    obtain ⟨same, unknown⟩ := ih
    exact ⟨(s.keywordsFile_next event).trans same, (Session.known?_next_of_ne other).trans unknown⟩

theorem Unread.answer (h : Unread file s) (readable : s.tree.readText file = .ok content) :
    s.answer .keywords = .texts ((Text.lines content).filterMap keywordOn?) := by
  obtain ⟨same, unknown⟩ := h.unknown
  rw [Session.answer_eq, unknown]
  show FactValue.texts (keywords s.tree s.package.keywordsFile) = _
  rw [same, keywords, loadKeywords, readable]
  rfl

/-- The answer about the keywords decides whether a text breaks the rule against them. -/
theorem Session.breaks_iff (kind : a.kind = .containsReservedKeyword)
    (answer : s.answer .keywords = .texts (lines.filterMap keywordOn?)) :
    s.breaks a text = true ↔ ∃ k, Lists lines k ∧ k ++ [' '] <+: Text.trimStart text := by
  have loaded : (s.package.learn s.tree .keywords).facts.keywords = lines.filterMap keywordOn? :=
    FactValue.texts.inj answer
  rw [breaks, loaded, violates_filterMap_iff kind]

/-- **The reserved keywords.** A package was opened with a file of keywords, which can be read when they are asked for
the first time. From then on, a text breaks the rule against them exactly if some line of the file is a word when the
blanks at its end are dropped, and the text begins with that word and a blank when the blanks in front are dropped.
So blank lines list nothing; no keyword is found where the first word of a text goes on behind it; and files that list
the same words decide the same, however often and in which order they do, and however their lines end. -/
theorem listed_keywords_decide (unread : Unread file s) (readable : s.tree.readText file = .ok content)
    (kind : a.kind.key? = some .containsTeradataKeywords) :
    (∀ text, s.breaks a text = true ↔ ∃ line ∈ Text.lines content,
        Text.trimEnd line ≠ [] ∧ Text.trimEnd line ++ [' '] <+: Text.trimStart text)
      ∧ (∀ later text, ((s.next (.ask .keywords)).after later).breaks a text = s.breaks a text)
      ∧ ((∀ line ∈ Text.lines content, ∀ c ∈ line, Text.isBlank c = true) → ∀ text, s.breaks a text = false)
      ∧ (∃ loaded, s.answer .keywords = .texts loaded ∧ ∀ keyword ∈ loaded, ∃ k, Lists (Text.lines content) k
        ∧ keyword.toList = k ++ [' '] ∧ ∀ text, k <+: firstWord text → k ≠ firstWord text →
          ¬keyword.toList <+: Text.trimStart text)
      ∧ ∀ (s' : Session) (file' : String) (content' : List Char) (lines lines' : List (List Char)), Unread file' s' →
        s'.tree.readText file' = .ok content' → Text.Written lines content → Text.Written lines' content' →
        (∀ k, Lists lines k ↔ Lists lines' k) → ∀ text, s'.breaks a text = s.breaks a text := by
  have reserved := ActionKind.eq_of_key?_keywords kind
  have answer := unread.answer readable
  have decided (text : List Char) : s.breaks a text = true
      ↔ ∃ k, Lists (Text.lines content) k ∧ k ++ [' '] <+: Text.trimStart text :=
    Session.breaks_iff reserved answer
  refine ⟨fun text => ?_, fun later text => ?_, fun blank text => ?_, ⟨_, answer, fun keyword loaded => ?_⟩, ?_⟩
  · rw [decided, exists_lists_iff]
  · have kept := (s.answer_after_ask .keywords later).trans answer
    rw [Bool.eq_iff_iff, decided, Session.breaks_iff reserved kept]
  · rw [← Bool.not_eq_true, decided]
    rintro ⟨k, listed, -⟩
    exact not_lists_of_isBlank blank listed
  · obtain ⟨k, listed, same⟩ := mem_filterMap_keywordOn?.mp loaded
    exact ⟨k, listed, same, fun text goes longer => same ▸ not_prefix_of_firstWord goes longer⟩
  · intro s' file' content' lines lines' unread' readable' written written' agree text
    rw [Text.written_iff] at written written'
    subst written written'
    rw [Bool.eq_iff_iff, decided, Session.breaks_iff reserved (unread'.answer readable')]
    simp only [agree]

/-- A directory, and beside it a file of keywords with blank lines, one keyword twice and lines that end in all three
ways. -/
def listing : FileTree :=
  (({} : FileTree).set ["pkg"] .directory).set ["keywords.txt"]
    (.file (Text.Utf8.encode "AS\r\nCREATE \t\n\n  \rCREATE".toList))

/-- The file is written anew, with the same keywords. -/
def relist : Event := .write "keywords.txt" (Text.Utf8.encode "CREATE\nAS".toList)

/-- An action that looks for reserved keywords. -/
def reserved : Action := ⟨"reserved words", .containsReservedKeyword, ""⟩

/-- A keyword is found in front of other words, but not where its word goes on. When the file is written anew with the
same keywords before it was read, or removed after it was, nothing changes. -/
theorem listed_keywords_decide_relisted : ∃ p, Package.open listing "pkg" (some "keywords.txt") [] = .ok p
    ∧ (Session.mk listing p).breaks reserved " CREATE TABLE".toList = true
    ∧ (Session.mk listing p).breaks reserved "CREATED_TS TABLE".toList = false
    ∧ (∀ text, ((Session.mk listing p).after [.ask .keywords, .remove "keywords.txt"]).breaks reserved text
      = (Session.mk listing p).breaks reserved text)
    ∧ ∀ text, ((Session.mk listing p).next relist).breaks reserved text
      = (Session.mk listing p).breaks reserved text := by
  have listed : paths <$> Package.open listing "pkg" (some "keywords.txt") [] = .ok [] := by decide +kernel
  obtain ⟨p, opened, -⟩ := exists_of_map_eq_ok listed
  have readable : listing.readText "keywords.txt" = .ok "AS\r\nCREATE \t\n\n  \rCREATE".toList := by decide +kernel
  have relisted : (relist.edited listing).readText "keywords.txt" = .ok "CREATE\nAS".toList := by decide +kernel
  have unread : Unread "keywords.txt" ⟨listing, p⟩ := .opened opened
  obtain ⟨decides, stays, -, -, again⟩ := listed_keywords_decide unread readable
    (show reserved.kind.key? = some .containsTeradataKeywords from rfl)
  refine ⟨p, opened, (decides _).mpr (by decide +kernel), ?_, stays [.remove "keywords.txt"], ?_⟩
  · rw [← Bool.not_eq_true, decides]
    decide +kernel
  · refine again _ "keywords.txt" _ _ _ (unread.next nofun) relisted (Text.written_lines _) (Text.written_lines _)
      fun k => and_congr_right fun word => ?_
    have before : (Text.lines "AS\r\nCREATE \t\n\n  \rCREATE".toList).map Text.trimEnd
        = ["AS".toList, "CREATE".toList, [], [], "CREATE".toList] := by
      decide
    have after : (Text.lines "CREATE\nAS".toList).map Text.trimEnd = ["CREATE".toList, "AS".toList] := by decide
    rw [← List.mem_map, ← List.mem_map, before, after]
    simp only [List.mem_cons, List.not_mem_nil, word]
    tauto

end Package
end PackageAudit
