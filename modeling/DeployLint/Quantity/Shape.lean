import DeployLint.Quantity.Basic
import DeployLint.Document.Walk
import DeployLint.Finding

/-!
# Quantities — texts that do not look like one

The rules on the shape of what a resource requests and of its limits. Only
texts are looked at; a number is a quantity as it stands.
-/

namespace DeployLint

namespace Quantity

/-- The sections of a node's resources that hold quantities. -/
def sections : List String := ["requests", "limits"]

/-- The finding on one quantity of a section, if it is a text of another shape. -/
def shapeFinding? (subject : Subject) (rule : Rule) (title name : String)
    (isPlausible : String → Bool) (path : Path) (values : Document) : Option Finding :=
  match (values.get? name).bind Document.asString? with
  | none => none
  | some text =>
    if isPlausible text then none
    else
      some ((Finding.graded rule .warning subject
        s!"Suspicious {title} value '{text}'").atPath (path.key name))

/-- The findings on one section. -/
def checkSection (subject : Subject) (path : Path) (values : Document) : List Finding :=
  (shapeFinding? subject .suspiciousCpuQuantity "CPU" "cpu" isPlausibleCpu path values).toList ++
    (shapeFinding? subject .suspiciousMemoryQuantity "memory" "memory" isPlausibleMemory path
      values).toList

/-- The findings on one node. -/
def checkNode (subject : Subject) (path : Path) (node : Document) : List Finding :=
  match node.mappingAt? "resources" with
  | none => []
  | some resources =>
    sections.flatMap fun name =>
      match resources.mappingAt? name with
      | none => []
      | some values => checkSection subject ((path.key "resources").key name) values

/-- What a walk does at a node: it adds the findings on it to those so far. -/
def addFindings (subject : Subject) (path : Path) (node : Document) (found : List Finding) :
    Progress (List Finding) :=
  .goOn (found ++ checkNode subject path node)

/-- The findings on the quantities within a document, as a walk leaves them. -/
def check (subject : Subject) (d : Document) (depth : Nat) : List Finding :=
  (d.walk depth (addFindings subject) []).state

/-- What looking for the quantities of a document tells. -/
def checkNotices (d : Document) (depth : Nat) : List Notice :=
  d.walkNotices depth fun _ _ => false

end Quantity

end DeployLint
