import DeployLint.Config.Basic
import DeployLint.Finding
import DeployLint.Quantity.Totals

/-!
# Reports

A report keeps findings in the order they were added, how many there are of
each severity, and the totals of what is requested where they were counted.
-/

namespace DeployLint

/-- How many findings there are of each severity. -/
structure Tally where
  errors : Nat := 0
  warnings : Nat := 0
  infos : Nat := 0
deriving DecidableEq, Repr

namespace Tally

/-- One more finding of a severity. -/
def add (t : Tally) : Severity → Tally
  | .error => { t with errors := t.errors + 1 }
  | .warning => { t with warnings := t.warnings + 1 }
  | .info => { t with infos := t.infos + 1 }

end Tally

/-- The findings of a run. -/
structure Report where
  findings : List Finding := []
  tally : Tally := {}
  totals : Option Totals := none

namespace Report

/-! ## Building -/

/-- Adds a finding. -/
def push (r : Report) (f : Finding) : Report :=
  { r with findings := r.findings ++ [f], tally := r.tally.add f.severity }

/-- Adds findings, in order. -/
def extend (r : Report) (fs : List Finding) : Report := fs.foldl push r

def ofFindings (fs : List Finding) : Report := ({} : Report).extend fs

def withTotals (r : Report) (totals : Totals) : Report := { r with totals := some totals }

/-- The totals of two reports together: their sum if both have them. -/
def mergeTotals : Option Totals → Option Totals → Option Totals
  | some a, some b => some (a + b)
  | some a, none => some a
  | none, b => b

/-- Adds another report. -/
def merge (r other : Report) : Report :=
  { r with totals := mergeTotals r.totals other.totals }.extend other.findings

/-! ## Questions -/

def size (r : Report) : Nat := r.findings.length

def isEmpty (r : Report) : Bool := r.findings.isEmpty

def hasErrors (r : Report) : Bool := 0 < r.tally.errors

def hasWarnings (r : Report) : Bool := 0 < r.tally.warnings

/-- The gravest severity among findings. -/
def maxSeverity? (r : Report) : Option Severity :=
  r.findings.foldl (fun worst f => some ((worst.map (Severity.max · f.severity)).getD f.severity))
    none

/-- Whether a report stops a delivery: it holds something as grave as the threshold. -/
def shouldFail (r : Report) (c : Config) : Bool :=
  r.maxSeverity?.any fun worst => decide (c.failureThreshold ≤ worst)

/-- The findings on an artifact, in order. -/
def forArtifact (r : Report) (artifact : String) : List Finding :=
  r.findings.filter fun f => f.subject.artifact == artifact

end Report

end DeployLint
