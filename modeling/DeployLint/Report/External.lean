import DeployLint.Finding
import DeployLint.Text.Blank

/-!
# Reports — results of other linters

Another linter runs elsewhere. Here its outcome becomes a finding.
-/

namespace DeployLint

/-- How a run of another linter ended. -/
structure ExternalRun where
  tool : String
  passed : Bool
  /-- What the run wrote on its error stream. -/
  complaint : String
deriving DecidableEq, Repr

namespace ExternalRun

/-- How grave a failure is. One tool refuses resources that it merely does
not know, so that its failures are warnings. -/
def severity (run : ExternalRun) : Severity :=
  if run.tool == "kubeval" then .warning else .error

def message (run : ExternalRun) : String :=
  let detail := Text.trim run.complaint
  if detail.isEmpty then run.tool ++ " failed" else run.tool ++ " failed: " ++ detail

/-- The finding on a run that failed. -/
def findings (run : ExternalRun) (subject : Subject) : List Finding :=
  if run.passed then []
  else
    [Finding.graded .externalLinterFailed run.severity subject run.message]

end ExternalRun

end DeployLint
