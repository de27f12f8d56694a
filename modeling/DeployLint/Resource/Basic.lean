import DeployLint.Document.Basic
import DeployLint.Finding
import DeployLint.Json.Writer

/-!
# Resources — a document read as a cluster object

A resource is a document of a manifest together with the subject that its
findings carry. Nothing is asked of the document here: each part that is
not there, or of another type, is absent.
-/

namespace DeployLint

/-- The kinds of resources that have rules of their own, and all others by name. -/
inductive ResourceKind where
  | deployment
  | statefulSet
  | daemonSet
  | service
  | role
  | clusterRole
  | other (name : String)
deriving DecidableEq, Repr

namespace ResourceKind

/-- The kind of a name. Case matters. -/
def ofName : String → ResourceKind
  | "Deployment" => deployment
  | "StatefulSet" => statefulSet
  | "DaemonSet" => daemonSet
  | "Service" => service
  | "Role" => role
  | "ClusterRole" => clusterRole
  | name => other name

def name : ResourceKind → String
  | deployment => "Deployment"
  | statefulSet => "StatefulSet"
  | daemonSet => "DaemonSet"
  | service => "Service"
  | role => "Role"
  | clusterRole => "ClusterRole"
  | other name => name

/-- Whether a kind grants permissions by rules. -/
def isRole : ResourceKind → Bool
  | role => true
  | clusterRole => true
  | _ => false

def isOther : ResourceKind → Bool
  | other _ => true
  | _ => false

/-- The kind of a name has that name. -/
@[simp] theorem name_ofName (s : String) : (ofName s).name = s := by
  unfold ofName
  split <;> rfl

end ResourceKind

/-- A document of a manifest, with the subject of its findings. -/
structure Resource where
  document : Document
  subject : Subject

namespace Resource

/-- The position of the document within its stream; a document alone is the first. -/
def index (r : Resource) : Nat := r.subject.document.getD 0

def apiVersion? (r : Resource) : Option Document := r.document.get? "apiVersion"

/-- The text of `kind`. -/
def kindName? (r : Resource) : Option String := (r.document.get? "kind").bind Document.asString?

def kind? (r : Resource) : Option ResourceKind := r.kindName?.map ResourceKind.ofName

def metadata? (r : Resource) : Option Document := r.document.get? "metadata"

/-- The name in the metadata, as text. -/
def name? (r : Resource) : Option String :=
  (r.document.getPath? ["metadata", "name"]).bind Document.scalarText?

def labels? (r : Resource) : Option (Fields Document) :=
  (r.document.getPath? ["metadata", "labels"]).bind Document.asMapping?

def annotations? (r : Resource) : Option (Fields Document) :=
  (r.document.getPath? ["metadata", "annotations"]).bind Document.asMapping?

def spec? (r : Resource) : Option Document := r.document.get? "spec"

/-- A finding of a rule on a resource, at a path of its document. -/
def finding (r : Resource) (rule : Rule) (severity : Severity) (path : Path) (message : String) :
    Finding :=
  (Finding.graded rule severity r.subject message).atPath path

end Resource

end DeployLint
