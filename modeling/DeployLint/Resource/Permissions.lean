import DeployLint.Resource.Basic
import DeployLint.Config.Basic

/-!
# Resources — permissions that reach far

A role grants verbs on resources, rule by rule. What is looked for: all
verbs, all resources, verbs that change secrets, and the creation of pods.
-/

namespace DeployLint

/-- One rule of a role: which verbs it grants on which resources. -/
structure Grant where
  verbs : List String
  resources : List String
deriving DecidableEq, Repr

namespace Grant

/-- The grant that a node stands for. A text alone counts as a list of one,
and what is no text does not count. -/
def ofDocument (d : Document) : Grant where
  verbs := ((d.get? "verbs").map Document.stringValues).getD []
  resources := ((d.get? "resources").map Document.stringValues).getD []

/-- The verbs of a grant that a table calls dangerous, in the order of the grant. -/
def dangerousVerbs (g : Grant) (tables : SecurityTables) : List String :=
  g.verbs.filter tables.dangerousVerbs.contains

/-- What is wrong with a grant: the rules it breaks, each with what the
grant allows. -/
def faults (g : Grant) (tables : SecurityTables) : List (Rule × String) :=
  let dangerous := g.dangerousVerbs tables
  (if g.verbs.contains "*" then [(Rule.wildcardVerbs, "grants all verbs (*)")] else []) ++
    (if g.resources.contains "*" then
      [(Rule.wildcardResources, "grants access to all resources (*)")] else []) ++
    (if g.resources.contains "secrets" && !dangerous.isEmpty then
      [(Rule.dangerousSecretAccess, "allows " ++ ", ".intercalate dangerous ++ " on secrets")]
    else []) ++
    if g.resources.contains "pods" && g.verbs.contains "create" then
      [(Rule.podCreation, "allows creating pods")]
    else []

end Grant

namespace Resource

/-- The rules of a role; other resources have none. -/
def roleRules (r : Resource) : List Document :=
  if r.kind?.any ResourceKind.isRole then
    ((r.document.get? "rules").bind Document.asSequence?).getD []
  else []

/-- The findings on one rule of a role. -/
def checkRule (r : Resource) (tables : SecurityTables) (position : Nat) (rule : Document) :
    List Finding :=
  let name := r.name?.getD "<unnamed>"
  ((Grant.ofDocument rule).faults tables).map fun (fault, allowed) =>
    r.finding fault .warning ((Path.ofKeys ["rules"]).index position)
      s!"Role {name} rule {position} {allowed}"

/-- The findings on the permissions that a role grants. -/
def checkPermissions (r : Resource) (tables : SecurityTables) : List Finding :=
  r.roleRules.zipIdx.flatMap fun (rule, position) => checkRule r tables position rule

end Resource

end DeployLint
