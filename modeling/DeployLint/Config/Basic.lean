import DeployLint.Fields
import DeployLint.Severity

/-!
# Configuration — what can be set

Which rules are left out, how grave their findings are, when a report
fails, and the tables and limits that rules read. Everything has a default,
so that the empty configuration is a complete one.
-/

namespace DeployLint

/-- The tables of the rules on secrets and permissions. -/
structure SecurityTables where
  /-- What marks a line as one that may hold a secret. -/
  secretPatterns : List String := ["password", "api_key", "token", "secret"]
  /-- What marks the value on a line as one that stands elsewhere. -/
  referenceMarkers : List String := ["secretkeyref", "configmapkeyref", "\x7b\x7b", "$\x7b"]
  /-- The verbs that make access to secrets dangerous. -/
  dangerousVerbs : List String := ["create", "delete", "deletecollection", "patch", "update"]
deriving DecidableEq, Repr

/-- How long the texts of a resource's metadata may be, in characters. -/
structure NamingLimits where
  name : Nat := 253
  label : Nat := 63
  annotationPrefix : Nat := 253
  annotationName : Nat := 63
deriving DecidableEq, Repr

/-- The limits of quota totals, and how deep documents are searched. -/
structure QuotaLimits where
  cpuCores : Float := 20.0
  memoryMiB : Float := 51200.0
  depth : Nat := 64

/-- A configuration. -/
structure Config where
  ignoredRules : NameSet := []
  severityOverrides : Fields Severity := []
  /-- A report fails from this severity upward. -/
  failureThreshold : Severity := .error
  /-- Whether warnings count as errors. -/
  strict : Bool := false
  security : SecurityTables := {}
  naming : NamingLimits := {}
  quota : QuotaLimits := {}
  /-- The kinds of resources whose requests count toward quota totals. -/
  workloadKinds : List String := ["Deployment", "StatefulSet", "DaemonSet"]

namespace Config

/-! ## Changes -/

def ignore (c : Config) (code : String) : Config :=
  { c with ignoredRules := c.ignoredRules.add code }

def withSeverity (c : Config) (code : String) (severity : Severity) : Config :=
  { c with severityOverrides := c.severityOverrides.insert code severity }

def withThreshold (c : Config) (severity : Severity) : Config :=
  { c with failureThreshold := severity }

def withStrict (c : Config) (strict : Bool) : Config := { c with strict := strict }

/-! ## Questions -/

def isIgnored (c : Config) (code : String) : Bool := c.ignoredRules.has code

/-- The severity of a rule's findings, given their own: an override decides,
and under `strict` a warning is an error. -/
def effectiveSeverity (c : Config) (code : String) (severity : Severity) : Severity :=
  match c.severityOverrides.get? code with
  | some override => override
  | none => if c.strict && severity == .warning then .error else severity

/-- Whether the requests of a kind count toward quota totals. -/
def isWorkloadKind (c : Config) (kind : String) : Bool := c.workloadKinds.contains kind

end Config

end DeployLint
