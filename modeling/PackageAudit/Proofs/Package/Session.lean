import PackageAudit.Proofs.Package.Check

/-!
# A package while its files change

Once a package was opened its files may change, and its facts and texts are asked for (`Session`, `Event`). The paths
stay as they were listed, and texts are those of the files as they are (`survey_after`, `tree_after`). What is known of
a fact stays (`known?_after_of_known`), and it becomes known only by being asked for (`known?_after_of_not_asked`), so
the answer is always the first one; and what else is asked for makes no difference to it (`AgreeBut.after`).

Main statement: `answers_stable`.
-/

namespace PackageAudit

/-- The value of a fact. -/
inductive FactValue where
  | text (s : String)
  | texts (list : List String)
  | names (set : NameSet)

/-- The value of one of the facts. -/
def Facts.value (f : Facts) : Package.Fact → FactValue
  | .changeRequest => .text f.changeRequest
  | .keywords => .texts f.keywords
  | .created => .names f.created
  | .deleted => .names f.deleted
  | .rolledBack => .names f.rolledBack

namespace Package

variable {t : FileTree} {p : Package} {fact other : Fact}

/-! ## What is known -/

/-- What is known of a fact. -/
def known? (p : Package) : Fact → Option FactValue
  | .changeRequest => p.changeRequest?.map .text
  | .keywords => p.keywords?.map .texts
  | .created => p.created?.map .names
  | .deleted => p.deleted?.map .names
  | .rolledBack => p.rolledBack?.map .names

theorem known?_of_open {root : String} {keywordsFile : Option String} {ignores : List String}
    (h : Package.open t root keywordsFile ignores = .ok p) (fact : Fact) : p.known? fact = none := by
  rw [eq_of_open h]
  cases fact <;> rfl

/-- A fact that is learned is what was known of it, and else what the files say. -/
theorem answer_learn (t : FileTree) (p : Package) (fact : Fact) : (p.learn t fact).facts.value fact
    = (p.known? fact).getD ((p.survey t).facts.value fact) := by
  cases fact with
  | changeRequest => cases h : p.changeRequest? <;> simp [learn, facts, Facts.value, known?, survey, h]
  | keywords => cases h : p.keywords? <;> simp [learn, facts, Facts.value, known?, survey, h]
  | created => cases h : p.created? <;> simp [learn, facts, Facts.value, known?, survey, h]
  | deleted => cases h : p.deleted? <;> simp [learn, facts, Facts.value, known?, survey, h]
  | rolledBack => cases h : p.rolledBack? <;> simp [learn, facts, Facts.value, known?, survey, h]

theorem known?_learn_self (t : FileTree) (p : Package) (fact : Fact) :
    (p.learn t fact).known? fact = some ((p.learn t fact).facts.value fact) := by
  cases fact <;> rfl

theorem known?_learn_of_ne (h : other ≠ fact) : (p.learn t fact).known? other = p.known? other := by
  cases fact <;> cases other <;> first | rfl | exact absurd rfl h

/-! ## Sessions -/

/-- A package with the files as they are. -/
structure Session where
  tree : FileTree
  package : Package

/-- What can happen in a session: the files change, the text of an artifact is read, or a fact is asked for. -/
inductive Event where
  | edit (change : FileTree → FileTree)
  | read (path : String)
  | ask (fact : Fact)

/-- A file is written; if this fails nothing changes. -/
def Event.write (path : String) (bytes : List UInt8) : Event :=
  .edit fun t => (t.write path bytes).toOption.getD t

/-- What stands at the end of a path is removed; if this fails nothing changes. -/
def Event.remove (path : String) : Event :=
  .edit fun t => (t.remove path).toOption.getD t

def Event.edited (t : FileTree) : Event → FileTree
  | .edit change => change t
  | .read _ | .ask _ => t

namespace Session

def answer (s : Session) (fact : Fact) : FactValue :=
  (s.package.learn s.tree fact).facts.value fact

def read (s : Session) (path : String) : Option (List Char) :=
  (s.package.corpus s.tree).content path

/-- A session after an event. -/
def next (s : Session) (event : Event) : Session where
  tree := event.edited s.tree
  package := match event with
    | .ask fact => s.package.learn s.tree fact
    | .edit _ | .read _ => s.package

def after (s : Session) (events : List Event) : Session :=
  events.foldl next s

variable {s s' : Session} {event : Event}

theorem tree_after (s : Session) (events : List Event) : (s.after events).tree = events.foldl Event.edited s.tree := by
  induction events generalizing s with
  | nil => rfl
  | cons event events ih => exact ih (s.next event)

/-- What the files would say does not depend on what happened to what is known. -/
theorem survey_next (s : Session) (event : Event) (t : FileTree) :
    (s.next event).package.survey t = s.package.survey t := by
  cases event with
  | ask fact => exact survey_learn t s.tree s.package fact
  | edit _ | read _ => rfl

/-- The paths and the file of the keywords stay as they were, so what the files would say depends on the files only. -/
theorem survey_after (s : Session) (events : List Event) (t : FileTree) :
    (s.after events).package.survey t = s.package.survey t := by
  induction events generalizing s with
  | nil => rfl
  | cons event events ih => exact (ih (s.next event)).trans (survey_next s event t)

theorem known?_next_ask (s : Session) (fact : Fact) : (s.next (.ask fact)).package.known? fact = some (s.answer fact) :=
  known?_learn_self s.tree s.package fact

theorem known?_next_of_ne (h : event ≠ .ask fact) : (s.next event).package.known? fact = s.package.known? fact := by
  cases event with
  | ask asked => exact known?_learn_of_ne fun same => h (congrArg Event.ask same.symm)
  | edit _ | read _ => rfl

theorem answer_eq (s : Session) (fact : Fact) :
    s.answer fact = (s.package.known? fact).getD ((s.package.survey s.tree).facts.value fact) :=
  answer_learn s.tree s.package fact

theorem known?_after_of_not_asked {events : List Event} (h : ∀ event ∈ events, event ≠ .ask fact) :
    (s.after events).package.known? fact = s.package.known? fact := by
  induction events generalizing s with
  | nil => rfl
  | cons event events ih =>
    obtain ⟨first, later⟩ := List.forall_mem_cons.mp h
    exact (ih later).trans (known?_next_of_ne first)

/-- **What is known stays**, whatever happens. -/
theorem known?_after_of_known {a : FactValue} (h : s.package.known? fact = some a) (events : List Event) :
    (s.after events).package.known? fact = some a := by
  induction events generalizing s with
  | nil => exact h
  | cons event events ih =>
    refine ih (s := s.next event) ?_
    by_cases asked : event = .ask fact
    · rw [asked, known?_next_ask, answer_eq, h, Option.getD_some]
    · rw [known?_next_of_ne asked, h]

theorem answer_after_ask (s : Session) (fact : Fact) (later : List Event) :
    ((s.next (.ask fact)).after later).answer fact = s.answer fact := by
  rw [answer_eq, known?_after_of_known (known?_next_ask s fact), Option.getD_some]

/-! ## Sessions that differ in one fact -/

/-- Whether two sessions agree but for what is known of one fact. -/
structure AgreeBut (fact : Fact) (s s' : Session) : Prop where
  tree : s'.tree = s.tree
  survey : ∀ t, s'.package.survey t = s.package.survey t
  known : ∀ other ≠ fact, s'.package.known? other = s.package.known? other

theorem agreeBut_ask (s : Session) (fact : Fact) : AgreeBut fact s (s.next (.ask fact)) where
  tree := rfl
  survey := survey_next s (.ask fact)
  known _ h := known?_learn_of_ne h

theorem AgreeBut.answer (h : AgreeBut fact s s') (hne : other ≠ fact) : s'.answer other = s.answer other := by
  rw [answer_eq, answer_eq, h.known other hne, h.tree, h.survey]

theorem AgreeBut.next (h : AgreeBut fact s s') (event : Event) : AgreeBut fact (s.next event) (s'.next event) where
  tree := congrArg event.edited h.tree
  survey t := by rw [survey_next, survey_next, h.survey]
  known other hne := by
    by_cases asked : event = .ask other
    · rw [asked, known?_next_ask, known?_next_ask, h.answer hne]
    · rw [known?_next_of_ne asked, known?_next_of_ne asked, h.known other hne]

/-- **Sessions that agree but for one fact** do so whatever happens. -/
theorem AgreeBut.after (h : AgreeBut fact s s') (events : List Event) :
    AgreeBut fact (s.after events) (s'.after events) := by
  induction events generalizing s s' with
  | nil => exact h
  | cons event events ih => exact ih (h.next event)

end Session

/-! ## All sessions -/

/-- **Answers are stable.** Whatever happens after a package was opened, its paths stay and texts are read from the
files as they are. The answer about a fact that was not asked for yet is what the files say then, and that stays the
answer from then on. Asking for a fact makes no difference to the answers about the others, at any time. -/
theorem answers_stable {root : String} {keywordsFile : Option String} {ignores : List String}
    (h : Package.open t root keywordsFile ignores = .ok p) :
    (∀ events : List Event, ((Session.mk t p).after events).package.paths = p.paths
        ∧ ∀ path, ((Session.mk t p).after events).read path = textOf (events.foldl Event.edited t) path)
      ∧ (∀ (before : List Event) (fact : Fact), (∀ event ∈ before, event ≠ .ask fact) →
        ((Session.mk t p).after before).answer fact
            = (p.survey (before.foldl Event.edited t)).facts.value fact
          ∧ ∀ between : List Event, ((Session.mk t p).after (before ++ .ask fact :: between)).answer fact
            = (p.survey (before.foldl Event.edited t)).facts.value fact)
      ∧ ∀ (before later : List Event) (fact other : Fact), other ≠ fact →
        ((Session.mk t p).after (before ++ .ask fact :: later)).answer other
          = ((Session.mk t p).after (before ++ later)).answer other := by
  refine ⟨fun events => ⟨?_, fun path => ?_⟩, fun before fact unasked => ?_, fun before later fact other hne => ?_⟩
  · exact congrArg Corpus.paths (Session.survey_after ⟨t, p⟩ events t)
  · rw [← Session.tree_after ⟨t, p⟩ events]
    rfl
  · have first : ((Session.mk t p).after before).answer fact
        = (p.survey (before.foldl Event.edited t)).facts.value fact := by
      rw [Session.answer_eq, Session.known?_after_of_not_asked unasked, known?_of_open h, Session.survey_after,
        Session.tree_after]
      rfl
    refine ⟨first, fun between => ?_⟩
    have known := Session.known?_after_of_known (Session.known?_next_ask ((Session.mk t p).after before) fact) between
    unfold Session.after at known first ⊢
    rw [List.foldl_append, List.foldl_cons, Session.answer_eq, known, Option.getD_some, first]
  · unfold Session.after
    rw [List.foldl_append, List.foldl_append, List.foldl_cons]
    exact ((Session.agreeBut_ask _ fact).after later).answer hne

def versioned : FileTree :=
  (({} : FileTree).set ["pkg"] .directory).set ["pkg", "Version.txt"]
    (.file (Text.Utf8.encode "CR_NUMBER: C1234567".toList))

/-- Once it was asked for, the change request number stays when the version file is written and removed; the file is
read as it is. -/
theorem answers_stable_versioned : ∃ p, Package.open versioned "pkg" none [] = .ok p
    ∧ ((Session.mk versioned p).after
        [.ask .changeRequest, .write "pkg/Version.txt" [88], .remove "pkg/Version.txt"]).answer .changeRequest
      = .text "C1234567"
    ∧ ((Session.mk versioned p).after [.ask .changeRequest, .write "pkg/Version.txt" [88]]).read "pkg/Version.txt"
      = some ['X'] := by
  have listed : paths <$> Package.open versioned "pkg" none [] = .ok ["pkg/Version.txt"] := by decide +kernel
  obtain ⟨p, opened, paths⟩ := exists_of_map_eq_ok listed
  have stated : changeRequest versioned ["pkg/Version.txt"] = "C1234567" := by decide +kernel
  have written : textOf ([.ask .changeRequest, .write "pkg/Version.txt" [88]].foldl Event.edited versioned)
      "pkg/Version.txt" = some ['X'] := by
    decide +kernel
  obtain ⟨current, asked, -⟩ := answers_stable opened
  have answer := (asked [] .changeRequest (List.forall_mem_nil _)).2
    [.write "pkg/Version.txt" [88], .remove "pkg/Version.txt"]
  refine ⟨p, opened, answer.trans ?_, ((current _).2 _).trans written⟩
  show FactValue.text (changeRequest versioned p.paths) = _
  rw [paths, stated]

end Package
end PackageAudit
