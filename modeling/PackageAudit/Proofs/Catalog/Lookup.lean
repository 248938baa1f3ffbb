import PackageAudit.Proofs.Catalog.Outcome
import PackageAudit.Proofs.Lists

/-!
# What is looked up in an entry

Where the names of attributes are distinct, looking one up finds the attribute with that name (`get?_eq_some_iff`), so
the order of the attributes makes no difference. Nor do attributes that an entry ignores: those that are never looked
up, and keys of kinds that stand behind one that is there (`Ignores`). An entry and an edit of it (`IsEdit`) agree in
everything that is looked up (`IsEdit.sameLookups`), and documents whose entries agree define the same catalog, or fail
with the same error (`ofDocument_congr`).

An action has its kind and its data from the first key that is there (`Defines`), whatever the values of the others
are, and each action of a catalog stands for the last entry with its name (`lastOf_of_ofDocument`).
-/

namespace PackageAudit

theorem ActionKey.token_injective : Function.Injective ActionKey.token := by
  intro k l h
  have same : ofToken? k.token = ofToken? l.token := congrArg ofToken? h
  rw [ofToken?_token, ofToken?_token] at same
  exact Option.some.inj same

theorem Key.token_ne (k : Key) (l : ActionKey) : k.token ≠ l.token := by
  cases k <;> cases l <;> decide

namespace Entry

variable {e e' : Entry} {key value : String}

/-! ## Looking up -/

/-- The names of the attributes of an entry. -/
def keys (e : Entry) : List String :=
  e.attributes.map (·.1)

/-- Nothing is found under a name that no attribute has. -/
theorem get?_eq_none_iff : e.get? key = none ↔ key ∉ e.keys := by
  unfold get? keys
  rw [Option.map_eq_none_iff, List.find?_eq_none, List.mem_map]
  simp only [beq_iff_eq]
  constructor
  · rintro h ⟨a, ha, hk⟩
    exact h a ha hk
  · intro h a ha hk
    exact h ⟨a, ha, hk⟩

/-- Where names are distinct, the value of the attribute with a name is found. -/
theorem get?_eq_some_iff (distinct : e.keys.Nodup) : e.get? key = some value ↔ (key, value) ∈ e.attributes := by
  constructor
  · intro h
    obtain ⟨⟨k, v⟩, hfound, rfl⟩ := Option.map_eq_some_iff.mp h
    obtain rfl : k = key := by simpa using List.find?_some hfound
    exact List.mem_of_find?_eq_some hfound
  · intro h
    cases hg : e.get? key with
    | none => exact absurd (List.mem_map_of_mem (f := (·.1)) h) (get?_eq_none_iff.mp hg)
    | some v =>
      obtain ⟨⟨k, w⟩, hfound, rfl⟩ := Option.map_eq_some_iff.mp hg
      obtain rfl : k = key := by simpa using List.find?_some hfound
      have same := List.inj_on_of_nodup_map distinct (List.mem_of_find?_eq_some hfound) h rfl
      rw [(Prod.mk.inj same).2]

/-! ## Edits -/

/-- Whether one more attribute makes no difference to an entry: its name is never looked up, or it is the key of a kind
and the key of another kind is there that is looked up before. -/
inductive Ignores (e : Entry) (key : String) : Prop
  | unread (noKey : ∀ k : Key, key ≠ k.token) (noKind : ∀ k : ActionKey, key ≠ k.token)
  | late {first late : ActionKey} (present : first.token ∈ e.keys)
    (before : first ∈ ActionKey.values.takeWhile (· ≠ late)) (name : key = late.token)

/-- Whether an entry is an edit of another one: with the same attributes in any order, and with more attributes that
make no difference to the other one. -/
def IsEdit (e e' : Entry) : Prop :=
  ∃ more, e'.attributes.Perm (e.attributes ++ more) ∧ ∀ a ∈ more, e.Ignores a.1

theorem IsEdit.refl (e : Entry) : e.IsEdit e :=
  ⟨[], by rw [List.append_nil], List.forall_mem_nil _⟩

theorem not_ignores_key (e : Entry) (k : Key) : ¬e.Ignores k.token := by
  rintro (⟨noKey, -⟩ | ⟨-, -, name⟩)
  · exact noKey k rfl
  · exact k.token_ne _ name

/-- An entry does not ignore the key of a kind if no key is there that is looked up before. -/
theorem not_ignores_kind {k : ActionKey} {front back : List ActionKey} (stands : ActionKey.values = front ++ k :: back)
    (absent : ∀ l ∈ front, l.token ∉ e.keys) : ¬e.Ignores k.token := by
  rintro (⟨-, noKind⟩ | ⟨present, before, name⟩)
  · exact noKind k rfl
  · obtain rfl := ActionKey.token_injective name
    rw [stands] at before
    exact absent _ (mem_of_mem_takeWhile_ne before) present

/-- An edit changes nothing that is found under a name that is not ignored. -/
theorem IsEdit.get?_eq (h : e.IsEdit e') (distinct : e'.keys.Nodup) (counts : ¬e.Ignores key) :
    e'.get? key = e.get? key := by
  obtain ⟨more, perm, ignored⟩ := h
  have whole : (e.keys ++ more.map (·.1)).Nodup := by
    unfold keys
    rw [← List.map_append]
    exact (perm.map _).nodup_iff.mp distinct
  refine Option.ext fun value => ?_
  rw [get?_eq_some_iff distinct, get?_eq_some_iff whole.of_append_left, perm.mem_iff, List.mem_append]
  refine or_iff_left fun added => ?_
  exact counts (ignored _ added)

/-- An edit changes nothing about the first key that is there. -/
theorem IsEdit.actionKey?_eq (h : e.IsEdit e') (distinct : e'.keys.Nodup) : e'.actionKey? = e.actionKey? := by
  have same {k : ActionKey} {front back : List ActionKey} (stands : ActionKey.values = front ++ k :: back)
      (absent : ∀ l ∈ front, e.get? l.token = none) : e'.get? k.token = e.get? k.token :=
    h.get?_eq distinct (not_ignores_kind stands fun l hl => get?_eq_none_iff.mp (absent l hl))
  cases hk : e.actionKey? with
  | none =>
    have absent : ∀ l ∈ ActionKey.values, e.get? l.token = none := by
      simpa [actionKey?, List.findSome?_eq_none_iff] using hk
    refine List.findSome?_eq_none_iff.mpr fun k hm => ?_
    obtain ⟨front, back, stands⟩ := List.append_of_mem hm
    rw [same stands fun l hl => absent l (stands ▸ List.mem_append_left _ hl), absent k hm]
    rfl
  | some found =>
    obtain ⟨front, k, back, stands, here, before⟩ := List.findSome?_eq_some_iff.mp hk
    have absent : ∀ l ∈ front, e.get? l.token = none := fun l hl => by simpa using before l hl
    refine List.findSome?_eq_some_iff.mpr ⟨front, k, back, stands, ?_, fun l hl => ?_⟩
    · rw [same stands absent]
      exact here
    · obtain ⟨front', back', rfl⟩ := List.append_of_mem hl
      rw [same (by rw [stands, List.append_assoc]; rfl) fun j hj => absent j (List.mem_append_left _ hj), absent l hl]
      rfl

/-- Whether two entries agree in everything that is looked up. -/
structure SameLookups (e e' : Entry) : Prop where
  get? : ∀ k : Key, e'.get? k.token = e.get? k.token
  actionKey? : e'.actionKey? = e.actionKey?

/-- **An entry and an edit of it agree.** -/
theorem IsEdit.sameLookups (h : e.IsEdit e') (distinct : e'.keys.Nodup) : e.SameLookups e' :=
  ⟨fun k => h.get?_eq distinct (e.not_ignores_key k), h.actionKey?_eq distinct⟩

/-! ## What entries define -/

section Same

variable (h : e.SameLookups e')
include h

theorem SameLookups.shownName_eq : e'.shownName = e.shownName :=
  congrArg (·.getD "<unnamed>") (h.get? .name)

theorem SameLookups.required_eq (element : Element) (k : Key) :
    e'.required element k.token = e.required element k.token := by
  rw [required, required, h.shownName_eq, h.get? k]

theorem SameLookups.word_eq {α : Type} (element : Element) (k : Key) (ofToken? : String → Except UnknownToken α) :
    e'.word element k.token ofToken? = e.word element k.token ofToken? := by
  rw [word, word, h.shownName_eq, h.required_eq]

theorem SameLookups.condition_eq : e'.condition = e.condition := by
  have name : e'.required .when "name" = e.required .when "name" := h.required_eq .when .name
  have value : e'.required .when "value" = e.required .when "value" := h.required_eq .when .value
  have type : e'.word .when "type" MatchType.ofToken? = e.word .when "type" MatchType.ofToken? :=
    h.word_eq .when .type _
  have scope : e'.word .when "scope" Scope.ofToken? = e.word .when "scope" Scope.ofToken? := h.word_eq .when .scope _
  have filter : e'.word .when "filter" Filter.ofToken? = e.word .when "filter" Filter.ofToken? :=
    h.word_eq .when .filter _
  rw [condition, condition, name, value, type, scope, filter]

theorem SameLookups.action_eq : e'.action = e.action := by
  have name : e'.required .action "name" = e.required .action "name" := h.required_eq .action .name
  rw [action, action, name, h.actionKey?]

theorem SameLookups.addRuleEntry_eq (c : Catalog) : c.addRuleEntry e' = c.addRuleEntry e := by
  have condition : e'.required .rule "when" = e.required .rule "when" := h.required_eq .rule .when
  have action : e'.required .rule "action" = e.required .rule "action" := h.required_eq .rule .action
  have level : e'.word .rule "level" Level.ofToken? = e.word .rule "level" Level.ofToken? := h.word_eq .rule .level _
  have message : e'.required .rule "message" = e.required .rule "message" := h.required_eq .rule .message
  rw [Catalog.addRuleEntry, Catalog.addRuleEntry, condition, action, level, message]

end Same

/-- Whether an entry defines an action: it gives its name, and kind and data are those of the first key that is there;
without any key the kind is not known, and there are no data. -/
structure Defines (e : Entry) (a : Action) : Prop where
  name : ("name", a.name) ∈ e.attributes
  first : ∀ front key back data, ActionKey.values = front ++ key :: back → (∀ k ∈ front, k.token ∉ e.keys) →
    (key.token, data) ∈ e.attributes → ActionKind.ofKey key data = .ok a.kind ∧ a.data = data
  unknown : (a.kind = .unknown ∧ a.data = "") ↔ ∀ key : ActionKey, key.token ∉ e.keys

/-- The key that counts is the first one that is there. -/
theorem actionKey?_eq_some {front back : List ActionKey} {key : ActionKey} {data : String}
    (distinct : e.keys.Nodup) (stands : ActionKey.values = front ++ key :: back)
    (absent : ∀ k ∈ front, k.token ∉ e.keys) (here : (key.token, data) ∈ e.attributes) :
    e.actionKey? = some (key, data) := by
  refine List.findSome?_eq_some_iff.mpr ⟨front, key, back, stands, ?_, fun k hk => ?_⟩
  · rw [(get?_eq_some_iff distinct).mpr here]
    rfl
  · rw [get?_eq_none_iff.mpr (absent k hk)]
    rfl

theorem actionKey?_eq_none_iff : e.actionKey? = none ↔ ∀ key : ActionKey, key.token ∉ e.keys := by
  have all (key : ActionKey) : key ∈ ActionKey.values := by cases key <;> decide
  unfold actionKey?
  rw [List.findSome?_eq_none_iff]
  simp only [Option.map_eq_none_iff, get?_eq_none_iff]
  exact ⟨fun h key => h key (all key), fun h key _ => h key⟩

/-- **An entry that is read as an action defines it.** -/
theorem defines_of_action {a : Action} (distinct : e.keys.Nodup) (h : e.action = .ok a) : e.Defines a := by
  have name := (get?_eq_some_iff distinct).mp (get?_name_of_action h)
  obtain ⟨_, -, h⟩ := exists_of_bind_eq_ok h
  cases hk : e.actionKey? with
  | none =>
    have none := actionKey?_eq_none_iff.mp hk
    rw [hk] at h
    cases h
    refine ⟨name, fun front key back data _ _ here => ?_, fun _ => none, fun _ => ⟨rfl, rfl⟩⟩
    exact absurd (List.mem_map_of_mem here) (none key)
  | some found =>
    obtain ⟨key, data⟩ := found
    rw [hk] at h
    obtain ⟨kind, made, h⟩ := exists_of_bind_eq_ok h
    have made := ok_of_mapError_eq_ok made
    cases h
    refine ⟨name, fun front key' back data' stands absent here => ?_, ?_, fun none => ?_⟩
    · have counts := actionKey?_eq_some distinct stands absent here
      rw [hk] at counts
      cases counts
      exact ⟨made, rfl⟩
    · rintro ⟨rfl, -⟩
      cases ActionKind.key?_of_ofKey made
    · rw [actionKey?_eq_none_iff.mpr none] at hk
      cases hk

end Entry

/-! ## Documents -/

/-- Whether the entries of two documents agree. -/
structure Document.SameLookups (d d' : Document) : Prop where
  whens : List.Forall₂ Entry.SameLookups d.whens d'.whens
  actions : List.Forall₂ Entry.SameLookups d.actions d'.actions
  rules : List.Forall₂ Entry.SameLookups d.rules d'.rules

namespace Catalog

/-- **Documents whose entries agree** define the same catalog, or fail with the same error. -/
theorem ofDocument_congr {d d' : Document} (h : d.SameLookups d') : ofDocument d' = ofDocument d := by
  have whens := foldlM_congr (fun (e e' : Entry) (he : e.SameLookups e') (c : Catalog) =>
    congrArg (c.addCondition <$> ·) he.condition_eq) h.whens
  have actions := foldlM_congr (fun (e e' : Entry) (he : e.SameLookups e') (c : Catalog) =>
    congrArg (c.addAction <$> ·) he.action_eq) h.actions
  have rules := foldlM_congr (fun (e e' : Entry) (he : e.SameLookups e') c => he.addRuleEntry_eq c) h.rules
  unfold ofDocument
  simp only [whens, actions, rules]

/-! ## The actions of a catalog -/

/-- An action stands for the last of some entries that have its name. -/
def LastOf (entries : List Entry) (a : Action) : Prop :=
  ∃ front e back, entries = front ++ e :: back ∧ e.action = .ok a ∧ ∀ later ∈ back, later.get? "name" ≠ some a.name

/-- One more action stands for the last entry, and the others for theirs if they have other names. -/
theorem lastOf_concat {entries : List Entry} {e : Entry} {a b : Action} (he : e.action = .ok a) :
    b = a ∨ LastOf entries b ∧ b.name ≠ a.name → LastOf (entries ++ [e]) b := by
  rintro (rfl | ⟨⟨front, e', back, rfl, he', last⟩, other⟩)
  · exact ⟨entries, e, [], rfl, he, List.forall_mem_nil _⟩
  · refine ⟨front, e', back ++ [e], by simp, he', fun later hl => ?_⟩
    rcases List.mem_append.mp hl with hl | hl
    · exact last later hl
    · rw [List.mem_singleton.mp hl, Entry.get?_name_of_action he]
      exact fun same => other (Option.some.inj same).symm

/-- Entries that define no actions leave the actions as they are. -/
theorem actions_foldlM {step : Catalog → Entry → Except CatalogError Catalog}
    (same : ∀ c e c', step c e = .ok c' → c'.actions = c.actions) :
    ∀ {entries : List Entry} {c c' : Catalog}, entries.foldlM step c = .ok c' → c'.actions = c.actions
  | [], _, _, h => by cases h; rfl
  | e :: entries, c, c', h => by
    rw [List.foldlM_cons] at h
    obtain ⟨c₁, h₁, h⟩ := exists_of_bind_eq_ok h
    rw [actions_foldlM same h, same c e c₁ h₁]

/-- Actions are added or fail with their first fault, and those that are added stand for the last entries with their
names. -/
theorem run_lastOf {c : Catalog} (first : ∀ a ∈ c.actions.items, LastOf [] a) (actions : List Entry) :
    failure? (actions.foldlM (fun c e => c.addAction <$> e.action) c)
        = (actions.filterMap (failure? ·.action)).head?
      ∧ ∀ c', actions.foldlM (fun c e => c.addAction <$> e.action) c = .ok c' →
        ∀ a ∈ c'.actions.items, LastOf actions a := by
  refine run_foldlM (fun done (c : Catalog) => ∀ a ∈ c.actions.items, LastOf done a) first ?_ ?_ actions
  · exact fun _ _ _ _ => failure?_map _ _
  · intro done e c c' hc hs a ha
    obtain ⟨added, he, rfl⟩ := exists_of_map_eq_ok hs
    refine lastOf_concat he ?_
    exact (Roster.mem_put_iff.mp ha).imp_right fun ⟨hm, other⟩ => ⟨hc a hm, other⟩

/-- **Each action of a catalog** stands for the last entry with its name. -/
theorem lastOf_of_ofDocument {d : Document} {c : Catalog} (h : ofDocument d = .ok c) :
    ∀ a ∈ c.actions.items, LastOf d.actions a := by
  obtain ⟨c₁, h₁, h⟩ := exists_of_bind_eq_ok h
  obtain ⟨c₂, h₂, h₃⟩ := exists_of_bind_eq_ok h
  have before : c₁.actions = empty.actions := by
    refine actions_foldlM (fun c e c' hs => ?_) h₁
    obtain ⟨condition, -, rfl⟩ := exists_of_map_eq_ok hs
    rfl
  have behind : c.actions = c₂.actions := actions_foldlM (fun c e c' hs => (follows_of_addRuleEntry hs).2.1) h₃
  have none : ∀ a ∈ c₁.actions.items, LastOf [] a := by
    rw [before]
    exact List.forall_mem_nil _
  rw [behind]
  exact (run_lastOf none d.actions).2 c₂ h₂

end Catalog
end PackageAudit
