import PackageAudit.Proofs.Catalog.Document
import PackageAudit.Proofs.Findings.Messages
import PackageAudit.Report.JUnit

/-!
# Reading back reports for build servers

`JUnit.decode` reads a report: the test cases of its only suite, each with the parts that it may have, and nothing
else between them than blanks. What it reads from a report are the numbers and the entries that the report was written
for (`JUnit.decode_document`), so a report tells findings apart as far as their entries do.

A report is a written forest: `Item` is an element on a line of its own, and the elements that stand on lines are those
between blanks (`trees?_onLines`). The document is that of the forest (`print_forest`), an element is read as the part,
the test case and the suite that it was written for (`entryOf?_caseItem`, `decode_document`).
-/

namespace PackageAudit.Report.JUnit

open Markup

/-! ## Elements on lines -/

/-- An element that stands on lines: with one tag, or with two tags around its content. -/
structure Item where
  name : Name
  attributes : Attributes
  content : Option Forest

namespace Item

/-- The element in front of a forest. -/
def put (i : Item) (rest : Forest) : Forest :=
  match i.content with
  | none => .leaf i.name i.attributes rest
  | some content => .element i.name i.attributes content rest

/-- The element as it is written. -/
def write (i : Item) : List Char :=
  match i.content with
  | none => emptyTag i.name.text i.attributes.texts
  | some content => startTag i.name.text i.attributes.texts ++ content.print ++ endTag i.name.text

def tree (i : Item) : Nodes.Tree :=
  ⟨i.name.text, i.attributes.texts, (i.content.map Forest.nodes).getD .nil⟩

theorem print_put (i : Item) (rest : Forest) : (i.put rest).print = i.write ++ rest.print := by
  unfold put write
  cases i.content <;> rfl

theorem trees?_put (i : Item) (rest : Forest) :
    (i.put rest).nodes.trees? = rest.nodes.trees?.map (i.tree :: ·) := by
  unfold put tree
  cases i.content <;> rfl

end Item

def indent (depth : Nat) : String :=
  String.ofList (List.replicate (2 * depth) ' ')

/-- Elements on lines of their own, in front of a forest. -/
def onLines (depth : Nat) (items : List Item) (rest : Forest) : Forest :=
  items.foldr (fun i rest => .text (indent depth) (i.put (.text "\n" rest))) rest

/-- What stands between the tags of an element with others on lines inside it. -/
def within (depth : Nat) (items : List Item) : Forest :=
  .text "\n" (onLines (depth + 1) items (.text (indent depth) .nil))

theorem indent_blank (depth : Nat) : (indent depth).toList.all isSpace := by
  rw [indent, String.toList_ofList, List.all_eq_true]
  intro c hc
  rw [List.eq_of_mem_replicate hc]
  rfl

theorem newLine_blank : "\n".toList.all isSpace := rfl

theorem escape_replicate (n : Nat) : escape (List.replicate n ' ') = List.replicate n ' ' := by
  induction n with
  | zero => rfl
  | succ n ih =>
    rw [List.replicate_succ]
    exact congrArg (' ' :: ·) ih

theorem escape_indent (depth : Nat) : escape (indent depth).toList = List.replicate (2 * depth) ' ' := by
  rw [indent, String.toList_ofList, escape_replicate]

theorem print_onLines (depth : Nat) (items : List Item) (rest : Forest) :
    (onLines depth items rest).print
      = (items.map fun i => Line.mk depth i.write).flatMap Line.write ++ rest.print := by
  induction items with
  | nil => rfl
  | cons i items ih =>
    have newLine : escape "\n".toList = ['\n'] := rfl
    rw [List.map_cons, List.flatMap_cons, List.append_assoc, ← ih]
    simp only [onLines, List.foldr_cons, Forest.print, Item.print_put, escape_indent, newLine, Line.write,
      List.append_assoc]

/-- **The elements on lines are those between blanks.** -/
theorem trees?_onLines (depth : Nat) (items : List Item) (rest : Forest) :
    (onLines depth items rest).nodes.trees? = rest.nodes.trees?.map (items.map Item.tree ++ ·) := by
  induction items with
  | nil => simp [onLines]
  | cons i items ih =>
    show (((i.put (.text "\n" (onLines depth items rest))).nodes).addText _).trees? = _
    rw [Nodes.trees?_addText (indent_blank depth), Item.trees?_put, Forest.nodes, Nodes.trees?_addText newLine_blank,
      ih, Option.map_map]
    rfl

theorem trees?_within (depth : Nat) (items : List Item) :
    (within depth items).nodes.trees? = some (items.map Item.tree) := by
  rw [within, Forest.nodes, Nodes.trees?_addText newLine_blank, trees?_onLines, Forest.nodes,
    Nodes.trees?_addText (indent_blank depth)]
  simp [Forest.nodes, Nodes.trees?]

/-! ## The written document -/

/-- The name of the part with the failure. -/
def failureName : Name := ⟨"failure", by decide⟩

/-- The name of the part with the warning. -/
def errorName : Name := ⟨"error", by decide⟩

/-- The name of the part with the information. -/
def outputName : Name := ⟨"system-out", by decide⟩

/-- The part of a test case with a message, named for its kind. -/
def messageItem (kind : Name) (message : String) : Item where
  name := kind
  attributes := .ofTexts [("type", kind.text), ("message", message)] ["type", "message"]
    (by simp) (by decide) (by decide)
  content := none

/-- The part of a test case with an output. -/
def outputItem (text : String) : Item where
  name := outputName
  attributes := .none
  content := some (.text text .nil)

/-- The parts of the test case of an entry. -/
def partItems (e : Findings.Entry) : List Item :=
  (e.failure.map (messageItem failureName)).toList ++ (e.warning.map (messageItem errorName)).toList
    ++ (e.information.map outputItem).toList

/-- The test case of an entry. -/
def caseItem (e : Findings.Entry) : Item where
  name := ⟨"testcase", by decide⟩
  attributes := .ofTexts [("name", e.name), ("classname", e.name)] ["name", "classname"]
    (by simp) (by decide) (by decide)
  content := if partItems e = [] then none else some (within 2 (partItems e))

/-- The suite of findings. -/
def suiteItem (f : Findings) : Item where
  name := ⟨"testsuite", by decide⟩
  attributes := .ofTexts (("name", suiteName) :: counts f) ["name", "tests", "failures", "errors"]
    (by simp [counts]) (by decide) (by decide)
  content := some (within 1 (f.entries.map caseItem))

/-- The suites of findings, of which there is one. -/
def suitesItem (f : Findings) : Item where
  name := ⟨"testsuites", by decide⟩
  attributes := .ofTexts (counts f) ["tests", "failures", "errors"] (by simp [counts]) (by decide) (by decide)
  content := some (within 0 [suiteItem f])

/-- The declaration in front. -/
def declaration : Aside where
  kind := .instruction
  body := "xml version=\"1.0\" encoding=\"UTF-8\""
  unended h := by
    have unmarked : '?' ∉ "xml version=\"1.0\" encoding=\"UTF-8\"".toList := by decide
    exact unmarked (h.subset (by decide))
  begun := by decide

def forest (f : Findings) : Forest :=
  .aside declaration (.text "\n" (onLines 0 [suitesItem f] .nil))

theorem caseContent_eq (e : Findings.Entry) : caseContent e = (partItems e).map fun i => Line.mk 3 i.write := by
  obtain ⟨name, failure, warning, information⟩ := e
  cases failure <;> cases warning <;> cases information <;>
    simp [caseContent, partItems, Item.write, messageItem, outputItem, failureName, errorName, outputName, Forest.print,
      Attributes.texts_none]

theorem print_block {i : Item} {depth : Nat} {items : List Item} (h : i.content = some (within depth items)) :
    (Line.mk depth i.write).write
      = (Line.mk depth (startTag i.name.text i.attributes.texts)).write
        ++ (items.map fun i => Line.mk (depth + 1) i.write).flatMap Line.write
        ++ (Line.mk depth (endTag i.name.text)).write := by
  have newLine : escape "\n".toList = ['\n'] := rfl
  have written : i.write = startTag i.name.text i.attributes.texts ++ (within depth items).print
      ++ endTag i.name.text := by
    rw [Item.write, h]
  simp only [written, within, Forest.print, print_onLines, newLine, escape_indent, Line.write, List.append_assoc,
    List.append_nil]

theorem print_caseLines (e : Findings.Entry) :
    (caseLines e).flatMap Line.write = (Line.mk 2 (caseItem e).write).write := by
  unfold caseLines
  rw [caseContent_eq]
  cases h : partItems e with
  | nil => simp [caseItem, Item.write, h]
  | cons part parts =>
    have block : (caseItem e).content = some (within 2 (part :: parts)) := by simp [caseItem, h]
    rw [print_block block]
    simp [caseItem]

/-- **The document is that of the forest.** -/
theorem print_forest (f : Findings) : (forest f).print = (lines f).flatMap Line.write := by
  have declared : declaration.print = "<?xml version=\"1.0\" encoding=\"UTF-8\"?>".toList := rfl
  have newLine : escape "\n".toList = ['\n'] := rfl
  have cases : ((f.entries.map caseItem).map fun i => Line.mk 2 i.write).flatMap Line.write
      = (f.entries.flatMap caseLines).flatMap Line.write := by
    rw [List.map_map, List.flatMap_map, List.flatMap_assoc]
    exact List.flatMap_congr fun e _ => (print_caseLines e).symm
  have suite : (Line.mk 1 (suiteItem f).write).write = _ := print_block rfl
  have suites : (Line.mk 0 (suitesItem f).write).write = _ := print_block rfl
  rw [cases] at suite
  rw [List.map_singleton, List.flatMap_singleton, suite] at suites
  rw [forest, Forest.print, Forest.print, print_onLines, List.map_singleton, List.flatMap_singleton, suites, declared,
    newLine]
  simp [lines, suiteItem, suitesItem, Forest.print, Line.write]

/-! ## Reading a report -/

/-- The message in a part: its only attributes are its kind and the message, and nothing stands in it. -/
def message? (kind : String) (part : Nodes.Tree) : Option String :=
  match part.attributes with
  | [(first, k), (second, message)] =>
    if first = "type" ∧ k = kind ∧ second = "message" ∧ part.children = .nil then some message else none
  | _ => none

/-- The text in a part: there are no attributes. -/
def output? (part : Nodes.Tree) : Option String :=
  if part.attributes = [] then part.children.text? else none

/-- Reads the part with a name in front of other parts, if it is there. -/
def part? (name : String) (read : Nodes.Tree → Option String) :
    List Nodes.Tree → Option (Option String × List Nodes.Tree)
  | [] => some (none, [])
  | part :: rest =>
    if part.name = name then (read part).map fun text => (some text, rest)
    else some (none, part :: rest)

/-- Reads a test case: both of its attributes give the identity, and it has at most one part of each kind, in their
order. -/
def entryOf? (case : Nodes.Tree) : Option Findings.Entry := do
  let parts ← case.children.trees?
  let (failure, parts) ← part? "failure" (message? "failure") parts
  let (warning, parts) ← part? "error" (message? "error") parts
  let (information, parts) ← part? "system-out" output? parts
  match case.attributes with
  | [(first, name), (second, className)] =>
    if case.name = "testcase" ∧ first = "name" ∧ second = "classname" ∧ className = name ∧ parts = [] then
      some { name, failure, warning, information }
    else none
  | _ => none

/-- What a report says: the numbers that both levels of suites state, and the entries. -/
structure Content where
  counts : List (String × String)
  entries : List Findings.Entry
  deriving DecidableEq, Repr

/-- Reads a report: a suite alone among the suites, with the same numbers, and the test cases in it. -/
def decode (text : String) : Option Content := do
  let [suites] ← (← (Nodes.read text.toList).toOption).trees? | none
  let [suite] ← suites.children.trees? | none
  let entries ← (← suite.children.trees?).mapM entryOf?
  if suites.name = "testsuites" ∧ suite.name = "testsuite"
      ∧ suite.attributes = ("name", suiteName) :: suites.attributes then
    some { counts := suites.attributes, entries }
  else none

/-- The part of one kind as it is read, if there is one. -/
def partTrees (write : String → Item) (text : Option String) : List Nodes.Tree :=
  (text.map write).toList.map Item.tree

section Parts

variable {name : String} {write : String → Item} {text : Option String}

theorem name_of_mem_partTrees (named : ∀ t, (write t).tree.name = name) :
    ∀ part ∈ partTrees write text, part.name = name := by
  intro part h
  obtain ⟨i, hi, rfl⟩ := List.mem_map.mp h
  obtain ⟨t, -, rfl⟩ := Option.map_eq_some_iff.mp (Option.mem_toList.mp hi)
  exact named t

/-- A part that was written in front of others is read. -/
theorem part?_partTrees {read : Nodes.Tree → Option String} {rest : List Nodes.Tree}
    (named : ∀ t, (write t).tree.name = name) (back : ∀ t, read (write t).tree = some t)
    (others : ∀ part ∈ rest, part.name ≠ name) :
    part? name read (partTrees write text ++ rest) = some (text, rest) := by
  cases text with
  | some t =>
    show part? name read ((write t).tree :: rest) = _
    rw [part?, if_pos (named t), back]
    rfl
  | none =>
    show part? name read rest = _
    cases rest with
    | nil => rfl
    | cons part rest => rw [part?, if_neg (others part List.mem_cons_self)]

end Parts

theorem name_messageItem (kind : Name) (message : String) : (messageItem kind message).tree.name = kind.text := rfl

theorem message?_messageItem (kind : Name) (message : String) :
    message? kind.text (messageItem kind message).tree = some message := by
  simp [message?, messageItem, Item.tree]

theorem output?_outputItem (text : String) : output? (outputItem text).tree = some text :=
  Nodes.text?_addText_nil text

theorem trees?_caseItem (e : Findings.Entry) :
    (caseItem e).tree.children.trees? = some ((partItems e).map Item.tree) := by
  unfold Item.tree caseItem
  split
  next h => rw [h]; rfl
  next => exact trees?_within 2 (partItems e)

theorem attributes_caseItem (e : Findings.Entry) :
    (caseItem e).tree.attributes = [("name", e.name), ("classname", e.name)] := by
  rw [Item.tree, caseItem, Attributes.texts_ofTexts]

/-- **A test case is read as the entry that it was written for.** -/
theorem entryOf?_caseItem (e : Findings.Entry) : entryOf? (caseItem e).tree = some e := by
  let failures := partTrees (messageItem failureName) e.failure
  let errors := partTrees (messageItem errorName) e.warning
  let outputs := partTrees outputItem e.information
  have parts : (caseItem e).tree.children.trees? = some (failures ++ (errors ++ (outputs ++ []))) := by
    simp [trees?_caseItem, partItems, partTrees, failures, errors, outputs]
  have outputsNamed : ∀ part ∈ outputs ++ [], part.name = "system-out" := by
    rw [List.append_nil]
    exact name_of_mem_partTrees fun _ => rfl
  have errorsNamed : ∀ part ∈ errors, part.name = "error" := name_of_mem_partTrees (name_messageItem errorName)
  have failure : part? "failure" (message? "failure") (failures ++ (errors ++ (outputs ++ [])))
      = some (e.failure, errors ++ (outputs ++ [])) := by
    refine part?_partTrees (name_messageItem failureName) (message?_messageItem failureName) fun part h => ?_
    rcases List.mem_append.mp h with h | h
    · rw [errorsNamed part h]; decide
    · rw [outputsNamed part h]; decide
  have warning : part? "error" (message? "error") (errors ++ (outputs ++ [])) = some (e.warning, outputs ++ []) := by
    refine part?_partTrees (name_messageItem errorName) (message?_messageItem errorName) fun part h => ?_
    rw [outputsNamed part h]; decide
  have information : part? "system-out" output? (outputs ++ []) = some (e.information, []) :=
    part?_partTrees (fun _ => rfl) output?_outputItem (by simp)
  unfold entryOf?
  simp only [parts, failure, warning, information, attributes_caseItem, bind, Option.bind]
  rfl

/-- Test cases are read as the entries that they were written for. -/
theorem mapM_entryOf?_caseItem (entries : List Findings.Entry) :
    ((entries.map caseItem).map Item.tree).mapM entryOf? = some entries := by
  induction entries with
  | nil => rfl
  | cons e entries ih => rw [List.map_cons, List.map_cons, List.mapM_cons, entryOf?_caseItem, ih]; rfl

theorem nodes_document (f : Findings) : Nodes.read (document f).toList = .ok (forest f).nodes := by
  have printed : (document f).toList = (forest f).print := by rw [document, String.toList_ofList, print_forest]
  have first : (forest f).print.head? = some '<' := rfl
  rw [printed, Nodes.read_forest (by rw [first]; decide)]

theorem trees?_forest (f : Findings) : (forest f).nodes.trees? = some [(suitesItem f).tree] := by
  rw [forest, Forest.nodes, Forest.nodes, Nodes.trees?_addText newLine_blank, trees?_onLines]
  rfl

theorem trees?_suitesItem (f : Findings) : (suitesItem f).tree.children.trees? = some [(suiteItem f).tree] :=
  trees?_within 0 [suiteItem f]

theorem trees?_suiteItem (f : Findings) :
    (suiteItem f).tree.children.trees? = some ((f.entries.map caseItem).map Item.tree) :=
  trees?_within 1 (f.entries.map caseItem)

theorem attributes_suitesItem (f : Findings) : (suitesItem f).tree.attributes = counts f := by
  rw [Item.tree, suitesItem, Attributes.texts_ofTexts]

theorem attributes_suiteItem (f : Findings) : (suiteItem f).tree.attributes = ("name", suiteName) :: counts f := by
  rw [Item.tree, suiteItem, Attributes.texts_ofTexts]

/-- A report is read as the numbers and the entries that it was written for. -/
theorem decode_eq (f : Findings) : decode (document f) = some { counts := counts f, entries := f.entries } := by
  unfold decode
  rw [nodes_document]
  simp only [Except.toOption, bind, Option.bind, trees?_forest, trees?_suitesItem, trees?_suiteItem,
    mapM_entryOf?_caseItem, attributes_suitesItem, attributes_suiteItem]
  rfl

/-- **Reading back a report.** The reader of catalogs accepts a report, whatever the section it is asked for. What is
read are the numbers of the findings and their entries: an entry for each identity, in order, with the texts of the
levels that have messages. So findings with the same report have the same entries. -/
theorem decode_document (f : Findings) :
    (∀ sectionName, ∃ d, Document.read (document f) sectionName = .ok d)
    ∧ decode (document f) = some { counts := counts f, entries := f.entries }
    ∧ List.Forall₂ (fun (e : Findings.Entry) (p : String × Verdict) => e.Presents p.1 p.2) f.entries f.toList
    ∧ ∀ g, document f = document g → f.entries = g.entries := by
  refine ⟨fun sectionName => Document.exists_read_of_nodes sectionName (nodes_document f), decode_eq f,
    f.forall₂_presents, fun g h => ?_⟩
  have same : some (Content.mk (counts f) f.entries) = some (Content.mk (counts g) g.entries) := by
    rw [← decode_eq f, ← decode_eq g, h]
  exact congrArg Content.entries (Option.some.inj same)

/-- Findings that differ only in where a text was joined have the same report, and the same entries. -/
theorem document_twoMessages : document .twoMessages = document .oneMessage
    ∧ Findings.twoMessages.entries = Findings.oneMessage.entries := by
  have same : document .twoMessages = document .oneMessage := by
    have counts : counts .twoMessages = counts .oneMessage := by decide
    rw [document, document, lines, lines, Findings.entries_twoMessages, counts]
  exact ⟨same, (decode_document .twoMessages).2.2.2 .oneMessage same⟩

end PackageAudit.Report.JUnit
