import DeployLint.Resource.Basic
import DeployLint.Notice

/-!
# Resources — the structure of a kind

Some kinds ask for fields deep inside. A structure is checked from the root
downward: below a field that is missing, nothing is looked at.
-/

namespace DeployLint

/-- The kinds whose structure is checked. -/
inductive StructuredKind where
  | deployment
  | service
deriving DecidableEq, Repr

/-- A node of a resource with its path. -/
structure Place where
  path : Path
  node : Document

namespace StructuredKind

def name : StructuredKind → String
  | deployment => "Deployment"
  | service => "Service"

/-- The names of the kinds that a structure is for. -/
def kindNames (k : StructuredKind) : List String := [k.name]

/-! ## Required fields -/

/-- Looks below a field, which has to be there. -/
def within (k : StructuredKind) (r : Resource) (place : Place) (name : String)
    (below : Place → List Finding) : List Finding :=
  let path := place.path.key name
  match place.node.get? name with
  | some node => below ⟨path, node⟩
  | none =>
    [r.finding .missingStructureField .error path
      s!"Missing {path.text} in {k.name} document {r.index}"]

/-- Asks for a field. -/
def require (k : StructuredKind) (r : Resource) (place : Place) (name : String) : List Finding :=
  k.within r place name fun _ => []

/-- Looks below each item of a field, which has to be a sequence with items. -/
def withinEach (k : StructuredKind) (r : Resource) (place : Place) (name : String)
    (below : Place → List Finding) : List Finding :=
  k.within r place name fun list =>
    match list.node with
    | .sequence (d :: ds) =>
      (d :: ds).zipIdx.flatMap fun (item, i) => below ⟨list.path.index i, item⟩
    | _ =>
      [r.finding .emptyStructureList .error list.path
        s!"{list.path.text} must be a non-empty list in {k.name} document {r.index}"]

/-! ## Structures -/

/-- The findings on the structure of a resource, whatever its kind. A
deployment selects its pods and lists containers with a name and an image; a
service lists ports. -/
def check (k : StructuredKind) (r : Resource) : List Finding :=
  match k with
  | deployment =>
    k.within r ⟨.root, r.document⟩ "spec" fun spec =>
      k.require r spec "selector" ++
        k.within r spec "template" fun template =>
          k.within r template "spec" fun pod =>
            k.withinEach r pod "containers" fun container =>
              k.require r container "name" ++ k.require r container "image"
  | service =>
    k.within r ⟨.root, r.document⟩ "spec" fun spec =>
      k.withinEach r spec "ports" fun port => k.require r port "port"

/-- The findings on the structure of a resource, if it is of the kind. -/
def validate (k : StructuredKind) (r : Resource) : List Finding :=
  if r.kindName?.any k.kindNames.contains then k.check r else []

end StructuredKind

namespace ResourceKind

/-- The structure that a kind asks for. -/
def structure? : ResourceKind → Option StructuredKind
  | deployment => some .deployment
  | service => some .service
  | _ => none

end ResourceKind

namespace Resource

/-- The findings on the structure that the resource's own kind asks for. -/
def checkStructure (r : Resource) : List Finding :=
  match r.kind?.bind ResourceKind.structure? with
  | some k => k.validate r
  | none => []

/-- What checking the structure tells: that it is checked. -/
def structureNotices (r : Resource) : List Notice :=
  match r.kind?.bind ResourceKind.structure? with
  | some k => [.debug s!"Running {k.name} structure checks on {r.subject.text}"]
  | none => []

end Resource

end DeployLint
