import DeployLint.Chart.Version
import DeployLint.Json.Writer

/-!
# Charts — the descriptor

A chart is described by a document of its own: the version of its format,
its name, version and description, and the charts it depends on. The chart's
name is the name of its directory.
-/

namespace DeployLint

/-- The descriptor of a chart, with the subject of its findings. -/
structure Chart where
  document : Document
  subject : Subject

namespace Chart

/-! ## Parts -/

def apiVersion? (c : Chart) : Option String :=
  (c.document.get? "apiVersion").bind Document.scalarText?

def name? (c : Chart) : Option String := (c.document.get? "name").bind Document.scalarText?

/-- The node of the version, of whatever type. -/
def version? (c : Chart) : Option Document := c.document.get? "version"

def description? (c : Chart) : Option String :=
  (c.document.get? "description").bind Document.asString?

def dependencies? (c : Chart) : Option Document := c.document.get? "dependencies"

/-! ## Dependencies -/

/-- The fields that every dependency has. -/
def dependencyFields : List String := ["name", "version", "repository"]

/-- What the address of a repository begins with. -/
def repositorySchemes : List String := ["http://", "https://", "oci://"]

/-- The names that stand for a repository. -/
def repositoryAliases : List String := ["@stable", "@incubator"]

def isRepository (text : String) : Bool :=
  repositorySchemes.any (Text.beginsWith text) || repositoryAliases.contains text

/-- The findings on one dependency. -/
def checkDependency (subject : Subject) (position : Nat) (dependency : Document) :
    List Finding :=
  let path := (Path.ofKeys ["dependencies"]).index position
  let missing := dependencyFields.filter fun name => !dependency.hasKey name
  let fields := missing.map fun name =>
    (Finding.graded .dependencyMissingField .error subject
      s!"Dependency {position} missing {name}").atPath (path.key name)
  let repository :=
    match (dependency.get? "repository").map Document.text with
    | none => []
    | some text =>
      if isRepository text then []
      else
        [(Finding.graded .invalidRepository .error subject
          s!"Invalid repository URL: {text}").atPath (path.key "repository")]
  fields ++ repository

/-- The findings on the dependencies of a chart, if they are a sequence. -/
def checkDependencies (subject : Subject) (dependencies : Document) : List Finding :=
  (dependencies.asSequence?.getD []).zipIdx.flatMap fun (dependency, position) =>
    checkDependency subject position dependency

/-! ## The descriptor -/

/-- The fields that every descriptor has. -/
def requiredFields : List String := ["apiVersion", "name", "version", "description"]

/-- The versions of the descriptor's format. -/
def apiVersions : List String := ["v1", "v2"]

/-- The findings on a version node: it is a text, and the text a version. -/
def checkVersionNode (subject : Subject) (version : Document) : List Finding :=
  match version.asString? with
  | some text => checkVersion text subject
  | none =>
    [(Finding.graded .versionNotString .error subject
      s!"Chart version must be a string, found {version.typeName}").atPath
        (.ofKeys ["version"])]

/-- The findings on a descriptor. -/
def check (c : Chart) : List Finding :=
  let missing := requiredFields.filter fun name => !c.document.hasKey name
  let fields := missing.map fun name =>
    (Finding.graded .chartMissingField .error c.subject
      s!"Chart.yaml missing required field: {name}").atPath (.ofKeys [name])
  let format :=
    match c.apiVersion? with
    | none => []
    | some text =>
      if apiVersions.contains text then []
      else
        [(Finding.graded .invalidChartApiVersion .error c.subject
          s!"Invalid apiVersion '{text}'. Must be v1 or v2").atPath (.ofKeys ["apiVersion"])]
  fields ++ format ++
    (match c.version? with
      | some version => checkVersionNode c.subject version
      | none => []) ++
    match c.dependencies? with
    | some dependencies => checkDependencies c.subject dependencies
    | none => []

/-- The finding on the name of a chart, if it is not the name of the directory. -/
def checkName (c : Chart) (directory : String) : List Finding :=
  match c.name? with
  | none => []
  | some name =>
    if name == directory then []
    else
      [(Finding.graded .chartNameMismatch .warning c.subject
        s!"Chart name '{name}' does not match directory '{directory}'").atPath
          (.ofKeys ["name"])]

end Chart

end DeployLint
