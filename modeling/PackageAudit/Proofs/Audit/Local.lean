import PackageAudit.Proofs.Audit.Bound

/-!
# Findings are local to an artifact

What a condition selects from an artifact depends on what can be read there and on nothing that can be read elsewhere
(`selectionAt_congr`); a condition on paths does not depend on what can be read at all
(`selectionAt_congr_of_filePath`). So if two corpora differ at one path only (`AgreeOff`), the hits in all other
artifacts are the same, and so is the verdict on every identity but that of the path (`findings_local`).
-/

namespace PackageAudit.Audit

variable {o : Options} {catalog : Catalog} {corpus corpus' : Corpus} {c : Condition} {p path identity : String}

/-- Whether two corpora list the same artifacts with the same facts and differ at most in what can be read at one
path. -/
structure AgreeOff (p : String) (corpus corpus' : Corpus) : Prop where
  paths : corpus'.paths = corpus.paths
  facts : corpus'.facts = corpus.facts
  content : ∀ path, path ≠ p → corpus'.content path = corpus.content path

theorem agreeOff_withUnreadable (corpus : Corpus) (p : String) : AgreeOff p corpus (corpus.withUnreadable [p]) where
  paths := rfl
  facts := rfl
  content path h := by simp [Corpus.withUnreadable, h]

/-! ## One artifact -/

/-- What is selected from an artifact depends on nothing that can be read elsewhere. -/
theorem selectionAt_congr (h : corpus'.content path = corpus.content path) :
    selectionAt o corpus' c path = selectionAt o corpus c path := by
  unfold selectionAt
  rw [h]

theorem selectionAt_congr_of_filePath (h : c.scope = .filePath) :
    selectionAt o corpus' c path = selectionAt o corpus c path := by
  unfold selectionAt
  simp only [h]

/-- What is selected from other artifacts is not from this one. -/
theorem filter_selectionAt :
    (selectionAt o corpus c path).filter (·.artifact ≠ p) = if path = p then [] else selectionAt o corpus c path := by
  split
  next own =>
    refine List.filter_eq_nil_iff.mpr fun hit hmem => ?_
    simp [artifact_of_mem_selectionAt hmem, own]
  next other =>
    refine List.filter_eq_self.mpr fun hit hmem => ?_
    simp [artifact_of_mem_selectionAt hmem, other]

/-- A rule says the same about every artifact with another identity. -/
theorem said_congr (h : AgreeOff p corpus corpus') (other : identity ≠ o.identity p) {level : Level}
    (rule : BoundRule) : said o corpus' identity level rule path = said o corpus identity level rule path := by
  by_cases own : o.identity path = identity
  · have elsewhere : path ≠ p := by
      rintro rfl
      exact other own.symm
    exact said_congr_selection h.facts (selectionAt_congr (h.content path elsewhere))
  · rw [said, said, if_neg (mt And.right own), if_neg (mt And.right own)]

/-! ## All artifacts -/

/-- The hits in all other artifacts are the same. -/
theorem filter_hitsOf_congr (h : AgreeOff p corpus corpus') (id : Nat) :
    (hitsOf (collect o corpus' catalog) id).filter (·.artifact ≠ p)
      = (hitsOf (collect o corpus catalog) id).filter (·.artifact ≠ p) := by
  cases hc : catalog.conditions.get? id with
  | none => rw [hitsOf_collect_of_get?_eq_none o _ hc, hitsOf_collect_of_get?_eq_none o _ hc]
  | some c =>
    rw [hitsOf_collect_of_get? o _ hc, hitsOf_collect_of_get? o _ hc, h.paths, List.filter_flatMap,
      List.filter_flatMap]
    refine List.flatMap_congr fun path _ => ?_
    rw [filter_selectionAt, filter_selectionAt]
    split
    next => rfl
    next elsewhere => exact selectionAt_congr (h.content path elsewhere)

theorem hitsOf_congr_of_filePath (h : AgreeOff p corpus corpus') {id : Nat} (hc : catalog.conditions.get? id = some c)
    (scope : c.scope = .filePath) : hitsOf (collect o corpus' catalog) id = hitsOf (collect o corpus catalog) id := by
  rw [hitsOf_collect_of_get? o _ hc, hitsOf_collect_of_get? o _ hc, h.paths]
  exact List.flatMap_congr fun path _ => selectionAt_congr_of_filePath scope

/-- An identity other than that of the path is listed for both corpora or for neither. -/
theorem mem_identities_congr (h : AgreeOff p corpus corpus') (other : identity ≠ o.identity p) :
    identity ∈ (run o corpus' catalog).identities ↔ identity ∈ (run o corpus catalog).identities := by
  rw [mem_identities_run, mem_identities_run, h.paths]
  refine or_congr_right (or_congr_right (exists_congr fun rule => and_congr_right fun _ =>
    exists_congr fun path => and_congr_right fun _ => and_congr_left fun own => ?_))
  have elsewhere : path ≠ p := by
    rintro rfl
    exact other own
  rw [selectionAt_congr (h.content path elsewhere)]

/-- The verdict on an identity other than that of the path is the same. -/
theorem get?_run_congr (h : AgreeOff p corpus corpus') (other : identity ≠ o.identity p) :
    (run o corpus' catalog).get? identity = (run o corpus catalog).get? identity := by
  refine Findings.get?_congr (mem_identities_congr h other) fun level => ?_
  rw [messages_run, messages_run, h.facts, h.paths]
  exact congrArg _ (List.flatMap_congr fun rule _ => List.flatMap_congr fun path _ => said_congr h other rule)

/-- **Findings are local to an artifact**: if two corpora differ only in what can be read at one path, then for every
condition the hits in all other artifacts are the same and stand in the same order, and all hits are the same for a
condition on paths; every identity but that of the path has the same verdict or none in both, and these identities
stand in the same order. -/
theorem findings_local (o : Options) (catalog : Catalog) (h : AgreeOff p corpus corpus') :
    (∀ id, (hitsOf (collect o corpus' catalog) id).filter (·.artifact ≠ p)
        = (hitsOf (collect o corpus catalog) id).filter (·.artifact ≠ p))
      ∧ (∀ id condition, catalog.conditions.get? id = some condition → condition.scope = .filePath →
          hitsOf (collect o corpus' catalog) id = hitsOf (collect o corpus catalog) id)
      ∧ (∀ identity, identity ≠ Artifact.shortenIdentity p o.rootMarkers →
          (run o corpus' catalog).get? identity = (run o corpus catalog).get? identity)
      ∧ (run o corpus' catalog).toList.filter (·.1 ≠ Artifact.shortenIdentity p o.rootMarkers)
          = (run o corpus catalog).toList.filter (·.1 ≠ Artifact.shortenIdentity p o.rootMarkers) := by
  refine ⟨filter_hitsOf_congr h, fun _ _ => hitsOf_congr_of_filePath h, fun _ => get?_run_congr h, ?_⟩
  have ascending (f : Findings) (keep : String × Verdict → Bool) :
      ((f.toList.filter keep).map (·.1)).Pairwise (· < ·) :=
    (Findings.ascending_identities f).sublist (List.filter_sublist.map _)
  refine eq_of_ascending_keys (ascending _ _) (ascending _ _) fun ⟨identity, verdict⟩ => ?_
  simp only [List.mem_filter, decide_eq_true_eq, Findings.mem_toList_iff]
  refine and_congr_left fun other => ?_
  rw [get?_run_congr h other]

/-- A catalog with a rule on lines and one on paths. -/
def linesAndPaths : Catalog where
  conditions := ⟨[⟨"a line", "", .line, .all, .contains []⟩, ⟨"a path", "", .filePath, .all, .contains []⟩], by decide⟩
  actions := ⟨[⟨"drops nothing", .noTextMatch "DROP".toList, "DROP"⟩], by decide⟩
  rules := [⟨0, 0, .error, "line"⟩, ⟨1, 0, .warning, "path"⟩]
  valid := by decide

def twoScripts : Corpus where
  paths := ["DROP.sql", "b.sql"]
  content := fun path => if path = "DROP.sql" ∨ path = "b.sql" then some "DROP A;\nDROP B;".toList else none

/-- One of two scripts cannot be read: its own failures are gone, and all that is said about the other one stays. -/
theorem findings_local_unreadable : AgreeOff "b.sql" twoScripts (twoScripts.withUnreadable ["b.sql"])
    ∧ "DROP.sql" ≠ Artifact.shortenIdentity "b.sql" ({} : Options).rootMarkers
    ∧ (run {} (twoScripts.withUnreadable ["b.sql"]) linesAndPaths).get? "b.sql" = some {}
    ∧ (run {} twoScripts linesAndPaths).get? "b.sql" = some { failures := ["line", "line"] }
    ∧ (run {} twoScripts linesAndPaths).get? "DROP.sql" = some { failures := ["line", "line"], warnings := ["path"] }
    ∧ (run {} (twoScripts.withUnreadable ["b.sql"]) linesAndPaths).get? "DROP.sql"
        = (run {} twoScripts linesAndPaths).get? "DROP.sql" := by
  have agree := agreeOff_withUnreadable twoScripts "b.sql"
  have other : "DROP.sql" ≠ Artifact.shortenIdentity "b.sql" ({} : Options).rootMarkers := by decide +kernel
  refine ⟨agree, other, by decide +kernel, by decide +kernel, by decide +kernel, ?_⟩
  exact (findings_local {} linesAndPaths agree).2.2.1 "DROP.sql" other

end PackageAudit.Audit
