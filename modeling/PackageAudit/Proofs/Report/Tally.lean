import PackageAudit.Proofs.Report.JUnit
import PackageAudit.Proofs.Report.Structured
import PackageAudit.Report.Basic
import PackageAudit.Report.Console

/-!
# The numbers in reports

Every report states how many artifacts were checked, how many of them have failures and how many have warnings
(`Tally`). Reports with entries bear their numbers out: they are the numbers of test cases, of those with a failure and
of those with an error (`JUnit.tells_document`), or the numbers of results, of those with a failure and of those with a
warning (`Structured.tells_document`). The last line on the console states the same numbers, or says that two of them
are zero (`Console.tells_document`).

The numbers of findings are counted from the messages and the entries are made of joined texts, so all rests on this: a
level has a text exactly if it has messages (`tally_eq`).
-/

namespace PackageAudit

/-- The numbers that a report states. -/
structure Tally where
  artifacts : Nat
  failures : Nat
  warnings : Nat
  deriving DecidableEq, Repr

def Findings.tally (f : Findings) : Tally :=
  ⟨f.size, f.failureCount, f.warningCount⟩

theorem Verdict.isSome_joined? (v : Verdict) (level : Level) :
    (v.joined? level).isSome = !(v.messages level).isEmpty := by
  rw [Bool.eq_iff_iff, Bool.not_eq_true', List.isEmpty_eq_false_iff, Option.isSome_iff_ne_none, ne_eq,
    joined?_eq_none_iff]

/-- **The numbers of findings** are those of their entries. -/
theorem Findings.tally_eq (f : Findings) : f.tally = ⟨f.entries.length, f.entries.countP (·.failure.isSome),
    f.entries.countP (·.warning.isSome)⟩ := by
  have failures : f.entries.countP (·.failure.isSome) = f.failureCount := by
    rw [entries, List.countP_map]
    exact List.countP_congr fun p _ => by simp [Entry.of, Verdict.isSome_joined?, Verdict.messages, Verdict.isFailure]
  have warnings : f.entries.countP (·.warning.isSome) = f.warningCount := by
    rw [entries, List.countP_map]
    exact List.countP_congr fun p _ => by simp [Entry.of, Verdict.isSome_joined?, Verdict.messages]
  rw [failures, warnings, length_entries, tally]

/-! ## Elements -/

namespace Markup.Nodes

/-- All elements, wherever they stand. -/
def elements : Nodes → List Tree
  | .nil => []
  | .text _ rest => rest.elements
  | .element name attributes children rest => ⟨name, attributes, children⟩ :: children.elements ++ rest.elements

/-- The elements that stand in no other one. -/
def roots : Nodes → List Tree
  | .nil => []
  | .text _ rest => rest.roots
  | .element name attributes children rest => ⟨name, attributes, children⟩ :: rest.roots

/-- All elements with a name, wherever they stand. -/
def named (name : String) (nodes : Nodes) : List Tree :=
  nodes.elements.filter (·.name == name)

/-- Whether an element has a child with a name. -/
def Tree.hasChild (name : String) (t : Tree) : Bool :=
  t.children.roots.any (·.name == name)

def Tree.attribute? (key : String) (t : Tree) : Option String :=
  (t.attributes.find? (·.1 == key)).map (·.2)

/-- The elements between blanks are all that there are, with those inside them. -/
theorem elements_of_trees? : ∀ {nodes : Nodes} {trees : List Tree}, nodes.trees? = some trees →
    nodes.elements = trees.flatMap fun t => t :: t.children.elements
  | .nil, trees, h => by
    obtain rfl : [] = trees := Option.some.inj h
    rfl
  | .text chars rest, trees, h => by
    rw [trees?, Option.ite_none_right_eq_some] at h
    show rest.elements = _
    exact elements_of_trees? h.2
  | .element name attributes children rest, trees, h => by
    obtain ⟨more, hmore, rfl⟩ := Option.map_eq_some_iff.mp h
    rw [elements, List.flatMap_cons, elements_of_trees? hmore]

theorem roots_of_trees? : ∀ {nodes : Nodes} {trees : List Tree}, nodes.trees? = some trees → nodes.roots = trees
  | .nil, trees, h => Option.some.inj h
  | .text chars rest, trees, h => by
    rw [trees?, Option.ite_none_right_eq_some] at h
    show rest.roots = _
    exact roots_of_trees? h.2
  | .element name attributes children rest, trees, h => by
    obtain ⟨more, hmore, rfl⟩ := Option.map_eq_some_iff.mp h
    rw [roots, roots_of_trees? hmore]

theorem elements_of_text? {nodes : Nodes} {text : String} (h : nodes.text? = some text) : nodes.elements = [] := by
  unfold text? at h
  split at h
  next => rfl
  next => rfl
  next => cases h

end Markup.Nodes

/-! ## Reports for build servers -/

namespace Report.JUnit

open Markup

/-- Whether the attributes of a suite state numbers. -/
structure States (suite : Nodes.Tree) (n : Tally) : Prop where
  tests : suite.attribute? "tests" = some (toString n.artifacts)
  failures : suite.attribute? "failures" = some (toString n.failures)
  errors : suite.attribute? "errors" = some (toString n.warnings)

/-- The numbers of test cases, of those with a failure, and of those with an error. -/
def counted (nodes : Nodes) : Tally :=
  let cases := nodes.named "testcase"
  ⟨cases.length, cases.countP (·.hasChild "failure"), cases.countP (·.hasChild "error")⟩

/-- Whether a text is a report that states numbers at both levels of suites and bears them out. -/
def Tells (text : String) (n : Tally) : Prop :=
  ∃ nodes suites suite, Nodes.read text.toList = .ok nodes ∧ nodes.named "testsuites" = [suites]
    ∧ nodes.named "testsuite" = [suite] ∧ States suites n ∧ States suite n ∧ counted nodes = n

theorem map_name_partItems (e : Findings.Entry) : ((partItems e).map Item.tree).map (·.name)
    = (e.failure.map fun _ => "failure").toList ++ (e.warning.map fun _ => "error").toList
      ++ (e.information.map fun _ => "system-out").toList := by
  obtain ⟨name, failure, warning, information⟩ := e
  cases failure <;> cases warning <;> cases information <;> rfl

theorem elements_partItem {e : Findings.Entry} {i : Item} (h : i ∈ partItems e) : i.tree.children.elements = [] := by
  unfold partItems at h
  simp only [List.mem_append, Option.mem_toList, Option.map_eq_some_iff] at h
  rcases h with (⟨message, -, rfl⟩ | ⟨message, -, rfl⟩) | ⟨text, -, rfl⟩
  · rfl
  · rfl
  · exact Nodes.elements_of_text? (Nodes.text?_addText_nil text)

theorem elements_caseItem (e : Findings.Entry) : (caseItem e).tree.children.elements = (partItems e).map Item.tree := by
  rw [Nodes.elements_of_trees? (trees?_caseItem e), List.flatMap_map, List.map_eq_flatMap]
  exact List.flatMap_congr fun i hi => by rw [elements_partItem hi]

/-- **All elements of a report**: the suites, the suite, and the test cases with their parts. -/
theorem elements_forest (f : Findings) : (forest f).nodes.elements = (suitesItem f).tree :: (suiteItem f).tree
    :: f.entries.flatMap fun e => (caseItem e).tree :: (partItems e).map Item.tree := by
  rw [Nodes.elements_of_trees? (trees?_forest f), List.flatMap_singleton,
    Nodes.elements_of_trees? (trees?_suitesItem f), List.flatMap_singleton,
    Nodes.elements_of_trees? (trees?_suiteItem f), List.map_map, List.flatMap_map]
  simp only [Function.comp_apply, elements_caseItem]

theorem name_partItem {e : Findings.Entry} {t : Nodes.Tree} (h : t ∈ (partItems e).map Item.tree) :
    t.name ∈ ["failure", "error", "system-out"] := by
  have named := List.mem_map_of_mem (f := (·.name)) h
  rw [map_name_partItems] at named
  simp only [List.mem_append, Option.mem_toList, Option.map_eq_some_iff] at named
  rcases named with (⟨_, -, hn⟩ | ⟨_, -, hn⟩) | ⟨_, -, hn⟩ <;> rw [← hn] <;> decide

theorem hasChild_caseItem (e : Findings.Entry) (name : String) : (caseItem e).tree.hasChild name
    = (((partItems e).map Item.tree).map (·.name)).any (· == name) := by
  rw [Nodes.Tree.hasChild, Nodes.roots_of_trees? (trees?_caseItem e), List.any_map, List.any_map, List.any_map]
  rfl

/-- A test case has a failure and an error if its entry has a failure and a warning. -/
theorem hasChild_part (e : Findings.Entry) : (caseItem e).tree.hasChild "failure" = e.failure.isSome
    ∧ (caseItem e).tree.hasChild "error" = e.warning.isSome := by
  rw [hasChild_caseItem, hasChild_caseItem, map_name_partItems]
  obtain ⟨name, failure, warning, information⟩ := e
  cases failure <;> cases warning <;> cases information <;> exact ⟨rfl, rfl⟩

/-- The elements of a report with a name that no part has. -/
theorem named_forest (f : Findings) {name : String} (h : name ∉ ["failure", "error", "system-out"]) :
    (forest f).nodes.named name = ((suitesItem f).tree :: (suiteItem f).tree
      :: f.entries.map fun e => (caseItem e).tree).filter (·.name == name) := by
  have parts (e : Findings.Entry) : ((partItems e).map Item.tree).filter (·.name == name) = [] := by
    refine List.filter_eq_nil_iff.mpr fun t ht hn => h ?_
    rw [← eq_of_beq hn]
    exact name_partItem ht
  have cases : (f.entries.flatMap fun e => (caseItem e).tree :: (partItems e).map Item.tree).filter (·.name == name)
      = (f.entries.map fun e => (caseItem e).tree).filter (·.name == name) := by
    rw [List.filter_flatMap, List.map_eq_flatMap, List.filter_flatMap]
    exact List.flatMap_congr fun e _ => by rw [List.filter_cons, List.filter_cons, parts]; rfl
  rw [Nodes.named, elements_forest]
  simp only [List.filter_cons, cases]

theorem states_of_attributes {suite : Nodes.Tree} {f : Findings} (h : suite.attributes = counts f
    ∨ suite.attributes = ("name", suiteName) :: counts f) : States suite f.tally := by
  unfold counts at h
  constructor <;> rcases h with h | h <;> simp [Nodes.Tree.attribute?, h, Findings.tally]

/-- **A report for build servers** states the numbers of the findings and bears them out. -/
theorem tells_document (f : Findings) : Tells (document f) f.tally := by
  have cases : (forest f).nodes.named "testcase" = f.entries.map fun e => (caseItem e).tree := by
    rw [named_forest f (by decide)]
    simp [suitesItem, suiteItem, caseItem, Item.tree]
  have suites : (forest f).nodes.named "testsuites" = [(suitesItem f).tree] := by
    rw [named_forest f (by decide)]
    simp [suitesItem, suiteItem, caseItem, Item.tree]
  have suite : (forest f).nodes.named "testsuite" = [(suiteItem f).tree] := by
    rw [named_forest f (by decide)]
    simp [suitesItem, suiteItem, caseItem, Item.tree]
  refine ⟨_, _, _, nodes_document f, suites, suite, states_of_attributes (Or.inl (attributes_suitesItem f)),
    states_of_attributes (Or.inr (attributes_suiteItem f)), ?_⟩
  rw [f.tally_eq, counted, cases, List.length_map, List.countP_map, List.countP_map]
  simp only [Function.comp_def, hasChild_part]

end Report.JUnit

/-! ## Reports as JSON -/

namespace Report.Structured

open Json

/-- Whether the members of a summary state numbers. -/
structure States (summary : Value) (n : Tally) : Prop where
  artifacts : member? "artifacts" summary = some (.nat n.artifacts)
  failures : member? "failures" summary = some (.nat n.failures)
  warnings : member? "warnings" summary = some (.nat n.warnings)

/-- The numbers of results, of those with a failure, and of those with a warning. -/
def counted (results : List Value) : Tally :=
  ⟨results.length, results.countP fun r => (member? "failure" r).isSome,
    results.countP fun r => (member? "warning" r).isSome⟩

/-- Whether a text is a report that states numbers in its summary and bears them out. -/
def Tells (text : String) (n : Tally) : Prop :=
  ∃ v summary results, Settings.readDocument text.toList = .ok v ∧ member? "summary" v = some summary
    ∧ member? "results" v = some (.array results) ∧ States summary n ∧ counted results = n

theorem isSome_member?_result (e : Findings.Entry) : (member? "failure" (result e)).isSome = e.failure.isSome
    ∧ (member? "warning" (result e)).isSome = e.warning.isSome := by
  obtain ⟨name, failure, warning, information⟩ := e
  cases failure <;> cases warning <;> cases information <;> exact ⟨rfl, rfl⟩

/-- **A report as JSON** states the numbers of the findings and bears them out. -/
theorem tells_document (f : Findings) : Tells (document f) f.tally := by
  refine ⟨value f, summary f, _, readDocument_document f, rfl, rfl, ⟨rfl, rfl, rfl⟩, ?_⟩
  rw [f.tally_eq, counted, List.length_map, List.countP_map, List.countP_map]
  simp only [Function.comp_def, isSome_member?_result]

end Report.Structured

/-! ## The console -/

namespace Report.Console

def lastLine? (text : List Char) : Option (List Char) :=
  (text.splitOn '\n').dropLast.getLast?

def numeral? (word : List Char) : Option Nat :=
  if word ≠ [] ∧ word.all Char.isDigit then some (Nat.ofDigitChars 10 word 0) else none

/-- The numbers among the words of a line. -/
def numbers (line : List Char) : List Nat :=
  (line.splitOn ' ').filterMap numeral?

/-- The line for a check without failures and warnings. -/
def successLine (color : Bool) (artifacts : Nat) : String :=
  paint color .green successMark ++ " " ++ paint color .green
    ("Checked " ++ toString artifacts ++ " " ++ plural artifacts "artifact" "artifacts" ++ " - no failures or warnings")

/-- Whether the last line of a text states numbers: it is a line of success exactly if there are no failures and
warnings, and then has the number of artifacts alone. -/
def Tells (color : Bool) (text : String) (n : Tally) : Prop :=
  ∃ line, lastLine? text.toList = some line
    ∧ ((∃ artifacts, line = (successLine color artifacts).toList) ↔ n.failures = 0 ∧ n.warnings = 0)
    ∧ numbers line = n.artifacts :: if n.failures = 0 ∧ n.warnings = 0 then [] else [n.failures, n.warnings]

theorem numeral?_toString (n : Nat) : numeral? (toString n).toList = some n := by
  have digits : (Nat.toDigits 10 n).all Char.isDigit = true :=
    List.all_eq_true.mpr fun c hc => Nat.isDigit_of_mem_toDigits (by decide) (by decide) hc
  rw [numeral?, Json.toList_toString, if_pos ⟨Nat.toDigits_ne_nil, digits⟩, Nat.ofDigitChars_ten_toDigits]

theorem notMem_toString {c : Char} (h : c.isDigit = false) (n : Nat) : c ∉ (toString n).toList := by
  rw [Json.toList_toString]
  intro hc
  rw [Nat.isDigit_of_mem_toDigits (by decide) (by decide) hc] at h
  cases h

theorem numbers_append (before after : List Char) :
    numbers (before ++ ' ' :: after) = numbers before ++ numbers after := by
  rw [numbers, List.splitOn_append_cons_self, List.filterMap_append]
  rfl

/-- Whether a text is one line with some numbers among its words. -/
structure IsLine (line : List Char) (ns : List Nat) : Prop where
  numbers : numbers line = ns
  unbroken : '\n' ∉ line

instance (line : List Char) (ns : List Nat) : Decidable (IsLine line ns) :=
  decidable_of_iff (numbers line = ns ∧ '\n' ∉ line) ⟨fun h => ⟨h.1, h.2⟩, fun h => ⟨h.1, h.2⟩⟩

/-- A number between blanks is one of the numbers of a line. -/
theorem IsLine.around {before after : List Char} {ns : List Nat} (hb : IsLine before []) (n : Nat)
    (ha : IsLine after ns) : IsLine (before ++ ' ' :: ((toString n).toList ++ ' ' :: after)) (n :: ns) := by
  have alone : Console.numbers (toString n).toList = [n] := by
    rw [Console.numbers, List.splitOn_eq_singleton (notMem_toString (by decide) n),
      List.filterMap_cons_some (numeral?_toString n)]
    rfl
  constructor
  · rw [numbers_append, numbers_append, alone, hb.numbers, ha.numbers]
    rfl
  · simp only [List.mem_append, List.mem_cons, not_or]
    exact ⟨hb.unbroken, by decide, notMem_toString (by decide) n, by decide, ha.unbroken⟩

theorem plural_eq (n : Nat) (one many : String) : plural n one many = one ∨ plural n one many = many := by
  unfold plural
  split
  · exact Or.inl rfl
  · exact Or.inr rfl

/-- A line of success has one number. -/
theorem isLine_successLine (color : Bool) (n : Nat) : IsLine (successLine color n).toList [n] := by
  let before := if color then "\x1b[32m✓\x1b[0m \x1b[32mChecked" else "✓ Checked"
  let after := plural n "artifact" "artifacts"
    ++ if color then " - no failures or warnings\x1b[0m" else " - no failures or warnings"
  have parts : (successLine color n).toList = before.toList ++ ' ' :: ((toString n).toList ++ ' ' :: after.toList) := by
    cases color <;> simp [successLine, paint, Style.code, successMark, before, after]
  have hbefore : IsLine before.toList [] := by
    cases color <;> decide
  have hafter : IsLine after.toList [] := by
    unfold after
    rcases plural_eq n "artifact" "artifacts" with h | h <;> rw [h] <;> cases color <;> decide
  rw [parts]
  exact hbefore.around n hafter

/-- Any other line has three. -/
theorem isLine_summaryLine (color : Bool) {f : Findings} (h : ¬(f.failureCount = 0 ∧ f.warningCount = 0)) :
    IsLine (summaryLine color f).toList [f.size, f.failureCount, f.warningCount] := by
  let mark := paint color (if 0 < f.failureCount then .red else .yellow) failureMark ++ " Checked"
  let artifacts := plural f.size "artifact" "artifacts" ++ ":"
  let failed := paint color .red "failed" ++ ","
  let warned := paint color .yellow (plural f.warningCount "with warning" "with warnings")
  have parts : (summaryLine color f).toList = mark.toList ++ ' ' :: ((toString f.size).toList ++ ' ' ::
      (artifacts.toList ++ ' ' :: ((toString f.failureCount).toList ++ ' ' ::
        (failed.toList ++ ' ' :: ((toString f.warningCount).toList ++ ' ' :: warned.toList))))) := by
    rw [summaryLine]
    simp only [if_neg h, mark, artifacts, failed, warned]
    simp
  have hmark : IsLine mark.toList [] := by
    unfold mark
    cases color <;> split <;> decide
  have hartifacts : IsLine artifacts.toList [] := by
    unfold artifacts
    rcases plural_eq f.size "artifact" "artifacts" with h | h <;> rw [h] <;> decide
  have hfailed : IsLine failed.toList [] := by
    cases color <;> decide
  have hwarned : IsLine warned.toList [] := by
    unfold warned
    rcases plural_eq f.warningCount "with warning" "with warnings" with h | h <;> rw [h] <;> cases color <;> decide
  rw [parts]
  exact hmark.around f.size (hartifacts.around f.failureCount (hfailed.around f.warningCount hwarned))

theorem splitOn_ofLines (lines : List String) :
    (ofLines lines).toList.splitOn '\n' = (lines.flatMap fun line => line.toList.splitOn '\n') ++ [[]] := by
  induction lines with
  | nil => rfl
  | cons line lines ih =>
    have first : (ofLines (line :: lines)).toList = line.toList ++ '\n' :: (ofLines lines).toList := by
      simp [ofLines, String.join_cons]
    rw [first, List.splitOn_append_cons_self, ih, List.flatMap_cons, List.append_assoc]

theorem lastLine?_ofLines (lines : List String) {line : String} (h : '\n' ∉ line.toList) :
    lastLine? (ofLines (lines ++ [line])).toList = some line.toList := by
  rw [lastLine?, splitOn_ofLines, List.dropLast_concat, List.flatMap_append, List.flatMap_singleton,
    List.splitOn_eq_singleton h, List.getLast?_concat]

/-- **The console** states the numbers of the findings in its last line. -/
theorem tells_document (color : Bool) (f : Findings) : Tells color (document color f) f.tally := by
  by_cases clean : f.failureCount = 0 ∧ f.warningCount = 0
  · have line : summaryLine color f = successLine color f.size := by
      rw [summaryLine, if_pos clean]
      rfl
    have summary := isLine_successLine color f.size
    rw [← line] at summary
    refine ⟨_, lastLine?_ofLines _ summary.unbroken, ⟨fun _ => clean, fun _ => ⟨f.size, by rw [line]⟩⟩, ?_⟩
    rw [summary.numbers, Findings.tally, if_pos clean]
  · have summary := isLine_summaryLine color clean
    refine ⟨_, lastLine?_ofLines _ summary.unbroken, ⟨?_, fun h => absurd h clean⟩, ?_⟩
    · rintro ⟨n, same⟩
      have numbers := summary.numbers
      rw [same, (isLine_successLine color n).numbers] at numbers
      cases numbers
    · rw [summary.numbers, Findings.tally, if_neg clean]

end Report.Console
end PackageAudit
