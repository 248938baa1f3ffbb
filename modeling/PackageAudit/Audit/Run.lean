import PackageAudit.Audit.ChangeRequest
import PackageAudit.Audit.Index
import PackageAudit.Audit.ObjectCounts

/-!
# Running a check

A check files the built-in findings first. Then every rule, in the order of the catalog, judges what its
condition has selected; the identity of a judged artifact is listed even if nothing is wrong with it.
-/

namespace PackageAudit.Audit

def builtin (facts : Facts) : Findings :=
  ChangeRequest.check facts (ObjectCounts.check facts .empty)

/-- Files what a rule says about one selected text. -/
def judge (o : Options) (facts : Facts) (rule : Rule) (action : Action) (findings : Findings) (hit : Hit) :
    Findings :=
  let identity := o.identity hit.artifact
  if action.violates facts.changeRequest facts.keywords hit.text then
    findings.record identity rule.level rule.message
  else findings.touch identity

/-- Files what a rule says about everything its condition has selected. -/
def applyRule (o : Options) (facts : Facts) (catalog : Catalog) (collected : List (List Hit))
    (findings : Findings) (rule : Rule) : Findings :=
  match catalog.actions.get? rule.action with
  | some action => (hitsOf collected rule.condition).foldl (judge o facts rule action) findings
  | none => findings

/-- The findings of a check, given what the conditions have selected. -/
def evaluate (o : Options) (facts : Facts) (catalog : Catalog) (collected : List (List Hit)) : Findings :=
  catalog.rules.foldl (applyRule o facts catalog collected) (builtin facts)

def run (o : Options) (corpus : Corpus) (catalog : Catalog) : Findings :=
  evaluate o corpus.facts catalog (collect o corpus catalog)

/-- Whether any text is compared with the reserved keywords. -/
def consultsKeywords (catalog : Catalog) (collected : List (List Hit)) : Bool :=
  catalog.rules.any fun rule =>
    match catalog.actions.get? rule.action with
    | some { kind := .containsReservedKeyword, .. } => !(hitsOf collected rule.condition).isEmpty
    | _ => false

end PackageAudit.Audit
