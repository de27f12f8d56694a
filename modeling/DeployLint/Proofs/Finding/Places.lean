import DeployLint.Proofs.Document.Places
import DeployLint.Proofs.Finding.Rules

/-!
# Findings — the places they point to

A finding on a document carries the text of a path. Whether that path leads
to a node or to a key that is missing is a matter of the rule
(`Rule.target?`). A finding points into a document if its path keeps what
the rule says (`Finding.PointsInto`).
-/

namespace DeployLint

/-- What the path of a finding leads to. -/
inductive Target where
  /-- A node of the document. -/
  | node
  /-- A key that a node of the document does not have. -/
  | gap
deriving DecidableEq, Repr

/-- A place of a document is of a kind. -/
def Target.At (d : Document) (p : Path) : Target → Prop
  | node => d.Has p
  | gap => d.Lacks p

namespace Rule

/-- What the findings of a rule point to. The rule on missing names is about
metadata that is not there as well as about a name that is there but empty,
so that nothing can be said of its place. -/
def target? : Rule → Option Target
  | missingRequiredField | missingStructureField => some .gap
  | nameTooLong | nameInvalidCharacters | nameHyphenEdge => some .node
  | labelKeyTooLong | labelValueTooLong => some .node
  | annotationPrefixTooLong | annotationNameTooLong | annotationKeyTooLong => some .node
  | suspiciousApiVersion | kindNotCapitalized | emptyStructureList => some .node
  | suspiciousCpuQuantity | suspiciousMemoryQuantity => some .node
  | wildcardVerbs | wildcardResources | dangerousSecretAccess | podCreation => some .node
  | dependencyMissingField | chartMissingField => some .gap
  | emptyVersion | versionTooShort | invalidVersionPart | versionNotString => some .node
  | invalidRepository | invalidChartApiVersion => some .node
  | schemaMissingField => some .gap
  | schemaTypeMismatch => some .node
  | _ => none

/-- The rules on something missing. -/
example : (all.filter fun rule => rule.target? = some .gap).map code =
    ["KM1010", "KM2001", "HC1004", "HC1006", "JS1001"] := by decide

end Rule

namespace Finding

variable {d : Document} {s : Subject} {p : Path} {rule : Rule}

/-- A finding on a subject points into its document: it has a path and no
line, and the path leads to what the rule is about. -/
structure PointsInto (d : Document) (s : Subject) (f : Finding) : Prop where
  subject_eq : f.subject = s
  line_eq : f.line = none
  place : ∃ p : Path, f.path = some p.text ∧
    ∀ (rule : Rule) (target : Target), f.code = rule.code → rule.target? = some target →
      target.At d p

/-- A finding at a path points to it, if the path is of the kind that the rule is about. -/
theorem pointsInto_atPath (h : ∀ target, rule.target? = some target → target.At d p)
    (severity : Severity) (message : String) :
    ((Finding.graded rule severity s message).atPath p).PointsInto d s := by
  refine ⟨rfl, rfl, p, rfl, fun other target hcode htarget => ?_⟩
  have hsame : rule = other := Rule.code_injective hcode
  exact h target (hsame ▸ htarget)

/-- A finding of a rule that is about no one kind of place points to any place. -/
theorem pointsInto_untold (hrule : rule.target? = none) (severity : Severity) (message : String) :
    ((Finding.graded rule severity s message).atPath p).PointsInto d s :=
  pointsInto_atPath (fun _ htarget => nomatch hrule.symm.trans htarget) severity message

/-- A finding of a rule on nodes points to a node. -/
theorem pointsInto_node (hrule : rule.target? = some .node) (hp : d.Has p) (severity : Severity)
    (message : String) : ((Finding.graded rule severity s message).atPath p).PointsInto d s := by
  refine pointsInto_atPath (fun target htarget => ?_) severity message
  obtain rfl := Option.some.inj (hrule.symm.trans htarget)
  exact hp

/-- A finding of a rule on missing keys points to one. -/
theorem pointsInto_gap (hrule : rule.target? = some .gap) (hp : d.Lacks p) (severity : Severity)
    (message : String) : ((Finding.graded rule severity s message).atPath p).PointsInto d s := by
  refine pointsInto_atPath (fun target htarget => ?_) severity message
  obtain rfl := Option.some.inj (hrule.symm.trans htarget)
  exact hp

end Finding

end DeployLint
