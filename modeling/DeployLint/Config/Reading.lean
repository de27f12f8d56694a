import DeployLint.Config.Basic
import DeployLint.Toml.Reader
import DeployLint.Document.Reading
import DeployLint.Rule

/-!
# Configuration — reading

A configuration is written in TOML, each setting under its name in lower
case with hyphens. What is not set keeps its default, and unknown settings
are passed over; a setting of the wrong type refuses the whole text.
-/

namespace DeployLint

/-- Why a configuration is refused. -/
inductive ConfigFault where
  | notToml (fault : Toml.Fault)
  | wrongType (setting : String)
deriving DecidableEq, Repr

namespace ConfigFault

def message : ConfigFault → String
  | notToml fault => fault.message
  | wrongType setting => "wrong type of " ++ setting

end ConfigFault

namespace Config

/-! ## Settings -/

/-- A count: a whole number of sixty-four bits without a sign. -/
def count? : Toml → Option Nat
  | .integer n => if 0 ≤ n ∧ n < 0x10000000000000000 then some n.toNat else none
  | _ => none

/-- An amount; whole numbers are amounts too. -/
def amount? : Toml → Option Float
  | .float x => some x
  | .integer n =>
    if -0x8000000000000000 ≤ n ∧ n < 0x10000000000000000 then some (Float.ofInt n) else none
  | _ => none

def flag? : Toml → Option Bool
  | .boolean b => some b
  | _ => none

def name? : Toml → Option String
  | .string s => some s
  | _ => none

def names? : Toml → Option (List String)
  | .array items => items.mapM name?
  | _ => none

/-- The severity of a name, in lower case only. -/
def severityName? : String → Option Severity
  | "error" => some .error
  | "warning" => some .warning
  | "info" => some .info
  | _ => none

/-- A severity: its name, or a table whose one key is its name and holds nothing. -/
def severity? : Toml → Option Severity
  | .string s => severityName? s
  | .table [(s, .table [])] => severityName? s
  | .table [(s, .array [])] => severityName? s
  | _ => none

def severities? : Toml → Option (Fields Severity)
  | .table entries =>
    (entries.mapM fun p => (severity? p.2).map fun s => (p.1, s)).map Fields.ofPairs
  | _ => none

/-- A setting of a group: by its name in a table, by its place in an array.
What is not there keeps its default. -/
def setting {α : Type} (group : Toml) (name : String) (place : Nat) (read? : Toml → Option α)
    (default : α) : Except ConfigFault α :=
  let given : Option Toml :=
    match group with
    | .table entries => entries.lookup name
    | .array items => items[place]?
    | _ => none
  match given with
  | none => .ok default
  | some t =>
    match read? t with
    | some a => .ok a
    | none => .error (.wrongType name)

/-- Whether a value can be a group of settings. -/
def isGroup : Toml → Bool
  | .table _ => true
  | .array _ => true
  | .moment _ => true
  | _ => false

end Config

/-- Reads the tables of the rules on secrets and permissions. -/
def SecurityTables.ofToml? (t : Toml) : Except ConfigFault SecurityTables := do
  if !Config.isGroup t then throw (.wrongType "security")
  let base : SecurityTables := {}
  pure {
    secretPatterns :=
      ← Config.setting t "secret-patterns" 0 Config.names? base.secretPatterns
    referenceMarkers :=
      ← Config.setting t "reference-markers" 1 Config.names? base.referenceMarkers
    dangerousVerbs :=
      ← Config.setting t "dangerous-verbs" 2 Config.names? base.dangerousVerbs }

/-- Reads the limits of metadata. -/
def NamingLimits.ofToml? (t : Toml) : Except ConfigFault NamingLimits := do
  if !Config.isGroup t then throw (.wrongType "naming")
  let base : NamingLimits := {}
  pure {
    name := ← Config.setting t "max-name-length" 0 Config.count? base.name
    label := ← Config.setting t "max-label-length" 1 Config.count? base.label
    annotationPrefix :=
      ← Config.setting t "max-annotation-prefix-length" 2 Config.count? base.annotationPrefix
    annotationName :=
      ← Config.setting t "max-annotation-name-length" 3 Config.count? base.annotationName }

/-- Reads the limits of quota totals. -/
def QuotaLimits.ofToml? (t : Toml) : Except ConfigFault QuotaLimits := do
  if !Config.isGroup t then throw (.wrongType "aggregation")
  let base : QuotaLimits := {}
  pure {
    cpuCores := ← Config.setting t "max-cpu-cores" 0 Config.amount? base.cpuCores
    memoryMiB := ← Config.setting t "max-memory-mib" 1 Config.amount? base.memoryMiB
    depth := ← Config.setting t "max-depth" 2 Config.count? base.depth }

namespace Config

/-- Reads a group of settings, if it is there. -/
def group {α : Type} (t : Toml) (name : String) (read : Toml → Except ConfigFault α)
    (default : α) : Except ConfigFault α :=
  match t.get? name with
  | some g => read g
  | none => .ok default

/-- Reads a configuration from the table of its settings. -/
def ofToml? (t : Toml) : Except ConfigFault Config := do
  let base : Config := {}
  let top {α : Type} (name : String) (read? : Toml → Option α) (default : α) :
      Except ConfigFault α :=
    group t name (fun g => match read? g with
      | some a => .ok a
      | none => .error (.wrongType name)) default
  pure {
    ignoredRules :=
      ← top "ignored-rules" (fun g => (names? g).map NameSet.ofList) base.ignoredRules
    severityOverrides := ← top "severity-overrides" severities? base.severityOverrides
    failureThreshold := ← top "failure-threshold" severity? base.failureThreshold
    strict := ← top "strict" flag? base.strict
    security := ← group t "security" SecurityTables.ofToml? base.security
    naming := ← group t "naming" NamingLimits.ofToml? base.naming
    quota := ← group t "aggregation" QuotaLimits.ofToml? base.quota
    workloadKinds := ← top "workload-kinds" names? base.workloadKinds }

/-! ## Texts -/

/-- Reads the text of a configuration. -/
def parse (text : String) : Except LintError Config :=
  match Toml.read text with
  | .error f => .error (.config (ConfigFault.notToml f).message)
  | .ok t => (ofToml? t).mapError fun f => .config f.message

/-- The codes of a configuration that belong to no rule. -/
def unknownCodes (c : Config) : List String :=
  (c.ignoredRules.toList ++ Fields.names c.severityOverrides).filter fun code =>
    !Rule.isKnownCode code

/-- What reading the text of a configuration tells. -/
def parseNotices (text : String) : List Notice :=
  match parse text with
  | .ok c => c.unknownCodes.map fun code => .warn s!"Config references unknown rule code {code}"
  | .error _ => []

/-! ## Files -/

/-- The name of a configuration file. -/
def fileName : String := ".manifestlint.toml"

/-- Reads a configuration file that is there. -/
def ofFile (bytes : ByteArray) : Except LintError Config :=
  (Document.fileText (some bytes)).bind parse

/-- The configuration of a project: its own file decides, else the one in the
home directory, else the defaults hold. A file that cannot be read is an
error, and no other one is tried. -/
def load (project home : Option ByteArray) : Except LintError Config :=
  match project, home with
  | some bytes, _ => ofFile bytes
  | none, some bytes => ofFile bytes
  | none, none => .ok {}

/-- What loading tells: which file is read, and what reading it tells. The
two directories are named by their paths. -/
def loadNotices (projectPath homePath : String) (project home : Option ByteArray) : List Notice :=
  let file (path : String) (bytes : ByteArray) : List Notice :=
    .debug s!"Loading config from {path}/{fileName}" ::
      match Document.fileText (some bytes) with
      | .ok text => parseNotices text
      | .error _ => []
  match project, home with
  | some bytes, _ => file projectPath bytes
  | none, some bytes => file homePath bytes
  | none, none => []

end Config

end DeployLint
