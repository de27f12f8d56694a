import DeployLint.Document.Walk
import DeployLint.Finding

/-!
# Charts — values

The values of a chart should limit what its containers use. They do if any
node holds a mapping `resources` with `limits` or `requests`.
-/

namespace DeployLint

namespace Chart

/-- Whether a node limits resources. -/
def setsLimits (node : Document) : Bool :=
  match node.get? "resources" with
  | some resources =>
    resources.isMapping && (resources.hasKey "limits" || resources.hasKey "requests")
  | none => false

/-- Whether values limit resources anywhere down to a depth. The search ends
at the first node that does. -/
def hasLimits (values : Document) (depth : Nat) : Bool :=
  (values.walk depth (fun _ node _ => if setsLimits node then .halt () else .goOn ()) ()).isHalt

/-- What the search tells. -/
def hasLimitsNotices (values : Document) (depth : Nat) : List Notice :=
  values.walkNotices depth fun _ node => setsLimits node

/-- How deep values are searched when their limits are checked. -/
def valuesDepth : Nat := 64

/-- The finding on values that limit nothing. -/
def checkValues (values : Document) (subject : Subject) : List Finding :=
  if hasLimits values valuesDepth then []
  else
    [Finding.graded .missingResourceLimits .warning subject
      "No resource limits/requests found in values"]

/-- What checking values tells. -/
def checkValuesNotices (values : Document) : List Notice := hasLimitsNotices values valuesDepth

end Chart

end DeployLint
