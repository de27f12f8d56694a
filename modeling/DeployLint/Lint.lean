import DeployLint.Chart.Descriptor
import DeployLint.Chart.Values
import DeployLint.Dockerfile.Practices
import DeployLint.Document.Reading
import DeployLint.Quantity.Shape
import DeployLint.Report.Basic
import DeployLint.Resource.Metadata
import DeployLint.Resource.Permissions
import DeployLint.Resource.Structure
import DeployLint.Secret

/-!
# Linting whole artifacts

Each artifact is read, its rules are asked in a fixed order, and what they
find becomes a report. Rules know the limits and tables of the
configuration. Which rules are left out and how grave findings are is
settled afterwards, by `Config.apply`.
-/

namespace DeployLint

/-- What a configuration makes of findings: those of ignored rules are
dropped, the others get the severity that the configuration gives them. -/
def Config.apply (c : Config) (fs : List Finding) : List Finding :=
  (fs.filter fun f => !c.isIgnored f.code).map fun f =>
    { f with severity := c.effectiveSeverity f.code f.severity }

namespace Lint

/-! ## Manifests -/

/-- The findings of all rules on a resource. -/
def resource (c : Config) (r : Resource) : List Finding :=
  r.checkFields ++ r.checkVersionAndKind ++ r.checkName c.naming ++ r.checkLabels c.naming ++
    r.checkAnnotations c.naming ++ r.checkStructure ++ r.checkPermissions c.security ++
    Quantity.check r.subject r.document c.quota.depth

/-- What asking the rules on a resource tells. -/
def resourceNotices (c : Config) (r : Resource) : List Notice :=
  r.structureNotices ++ Quantity.checkNotices r.document c.quota.depth

/-- The resources of a manifest. An empty document is none, but keeps its place. -/
def resources (ds : List Document) (artifact : String) : List Resource :=
  (ds.zipIdx.filter fun (d, _) => !d.isNull).map fun (d, i) =>
    ⟨d, { artifact := artifact, document := some i }⟩

/-- The report on the documents of a manifest. -/
def documents (ds : List Document) (artifact : String) (c : Config) : Report :=
  .ofFindings (c.apply ((resources ds artifact).flatMap (resource c)))

/-- What linting the documents of a manifest tells. -/
def documentsNotices (ds : List Document) (artifact : String) (c : Config) : List Notice :=
  (resources ds artifact).flatMap (resourceNotices c)

/-- The report on the text of a manifest: on its documents, then on secrets
anywhere in the text. -/
def manifests (text artifact : String) (c : Config) : Except LintError Report := do
  let ds ← Document.parseStream text
  let secrets := Secret.scan c.security text { artifact := artifact }
  pure ((documents ds artifact c).extend (c.apply secrets))

/-- What linting the text of a manifest tells. -/
def manifestsNotices (text artifact : String) (c : Config) : List Notice :=
  Document.parseStreamNotices text ++
    match Document.parseStream text with
    | .error _ => []
    | .ok ds =>
      .debug s!"Parsed {ds.length} documents from {artifact}" ::
        documentsNotices ds artifact c ++ Secret.tableNotices c.security

/-! ## Charts -/

/-- The findings on the text of a chart's values. -/
def values (text artifact : String) (c : Config) : Except LintError (List Finding) := do
  let d ← Document.parse text
  let subject : Subject := { artifact := artifact }
  pure (Chart.checkValues d subject ++ Quantity.check subject d c.quota.depth ++
    Secret.scan c.security text subject)

/-- What linting the text of a chart's values tells. -/
def valuesNotices (text : String) (c : Config) : List Notice :=
  match Document.parse text with
  | .error _ => []
  | .ok d =>
    Chart.checkValuesNotices d ++ Quantity.checkNotices d c.quota.depth ++
      Secret.tableNotices c.security

/-- The report on a chart: on its descriptor, and on its values if it has any. -/
def chart (descriptor : String) (valuesText : Option String) (directory : String)
    (c : Config) : Except LintError Report := do
  let d ← Document.parse descriptor
  let described : Chart := ⟨d, { artifact := directory ++ "/Chart.yaml" }⟩
  let onValues ←
    match valuesText with
    | some text => values text (directory ++ "/values.yaml") c
    | none => pure []
  pure (.ofFindings (c.apply (described.check ++ described.checkName directory ++ onValues)))

/-- What linting a chart tells. -/
def chartNotices (descriptor : String) (valuesText : Option String) (c : Config) :
    List Notice :=
  match Document.parse descriptor, valuesText with
  | .ok _, some text => valuesNotices text c
  | _, _ => []

/-! ## Build files -/

/-- The report on a build file: on its lines, its instructions, the tags of
its images, and on secrets. -/
def dockerfile (text artifact : String) (c : Config) : Report :=
  let subject : Subject := { artifact := artifact }
  .ofFindings (c.apply
    (Dockerfile.checkLines text subject ++ Dockerfile.checkPractices text subject ++
      Dockerfile.checkTags text subject ++ Secret.scan c.security text subject))

/-- What linting a build file tells. -/
def dockerfileNotices (c : Config) : List Notice := Secret.tableNotices c.security

/-! ## Quotas -/

/-- What a release requests: its workloads, and all that its values hold. -/
def releaseTotals (ds values : List Document) (c : Config) : Totals :=
  Totals.ofWorkloads ds c + Totals.ofDocuments values c.quota.depth

/-- The report on what a release requests, with the totals. -/
def releaseQuota (ds values : List Document) (artifact : String) (c : Config) : Report :=
  let totals := releaseTotals ds values c
  (Report.ofFindings
    (c.apply (totals.check c.quota { artifact := artifact }))).withTotals totals

/-- The report on what the workloads of a manifest request. -/
def quota (ds : List Document) (artifact : String) (c : Config) : Report :=
  releaseQuota ds [] artifact c

/-- What counting the requests of a release tells. -/
def releaseQuotaNotices (ds values : List Document) (artifact : String) (c : Config) :
    List Notice :=
  let totals := releaseTotals ds values c
  let cores := Decimal.plain.write totals.cpuCores
  let memory := Decimal.plain.write totals.memoryMiB
  Totals.workloadsNotices ds c ++ Totals.documentsNotices values c.quota.depth ++
    [.debug s!"Workload requests in {artifact}: {cores} cores, {memory} MiB"]

end Lint

end DeployLint
