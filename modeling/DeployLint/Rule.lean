import DeployLint.Severity
import DeployLint.Text.Search

/-!
# Rules

The catalogue of what the linter checks. A rule has a code, which findings
carry and configurations name; a short name; the severity of its findings;
and a description. The first characters of a code tell its category.
-/

namespace DeployLint

/-! ## Categories -/

/-- A group of rules, by the kind of artifact and the concern. -/
inductive Category where
  | resource
  | workload
  | quantity
  | chart
  | build
  | imageTag
  | secret
  | rbac
  | aggregation
  | schema
  | external
deriving DecidableEq, Repr

namespace Category

/-- All categories, in the order in which a code is compared with them. -/
def all : List Category :=
  [resource, workload, quantity, chart, build, imageTag, secret, rbac, aggregation, schema,
    external]

/-- What the codes of a category begin with. -/
def codeStart : Category → String
  | resource => "KM1"
  | workload => "KM2"
  | quantity => "KM3"
  | chart => "HC"
  | build => "DF1"
  | imageTag => "DF2"
  | secret => "SC1"
  | rbac => "SC2"
  | aggregation => "AG1"
  | schema => "JS1"
  | external => "EX1"

/-- The name of a category in texts. -/
def title : Category → String
  | resource => "Resource Metadata"
  | workload => "Workload Structure"
  | quantity => "Resource Quantities"
  | chart => "Helm Chart"
  | build => "Dockerfile"
  | imageTag => "Image Tag"
  | secret => "Secrets"
  | rbac => "RBAC"
  | aggregation => "Quota Totals"
  | schema => "Schema"
  | external => "External Linter"

/-- The name of a category in reports for programs. -/
def slug : Category → String
  | resource => "resource"
  | workload => "workload"
  | quantity => "quantity"
  | chart => "chart"
  | build => "build"
  | imageTag => "image-tag"
  | secret => "secret"
  | rbac => "rbac"
  | aggregation => "aggregation"
  | schema => "schema"
  | external => "external"

/-- The category of a code, by how the code begins. -/
def ofCode? (code : String) : Option Category :=
  all.find? fun c => Text.beginsWith code c.codeStart

end Category

/-! ## The catalogue -/

/-- A rule. -/
inductive Rule where
  | missingName
  | nameTooLong
  | nameInvalidCharacters
  | nameHyphenEdge
  | labelKeyTooLong
  | labelValueTooLong
  | annotationPrefixTooLong
  | annotationNameTooLong
  | annotationKeyTooLong
  | missingRequiredField
  | suspiciousApiVersion
  | kindNotCapitalized
  | missingStructureField
  | emptyStructureList
  | suspiciousCpuQuantity
  | suspiciousMemoryQuantity
  | emptyVersion
  | versionTooShort
  | invalidVersionPart
  | dependencyMissingField
  | invalidRepository
  | chartMissingField
  | invalidChartApiVersion
  | chartNameMismatch
  | versionNotString
  | missingResourceLimits
  | emptyDockerfile
  | missingFrom
  | rootUser
  | addLocalFiles
  | pipCache
  | missingWorkdir
  | missingUser
  | absoluteCopySource
  | singleStage
  | missingLabels
  | missingOciLabel
  | emptyTag
  | latestTag
  | tagTooLong
  | tagInvalidCharacter
  | potentialSecret
  | wildcardVerbs
  | wildcardResources
  | dangerousSecretAccess
  | podCreation
  | highCpuTotal
  | highMemoryTotal
  | schemaMissingField
  | schemaTypeMismatch
  | externalLinterFailed
deriving DecidableEq, Repr

/-- What is known of a rule. -/
structure RuleInfo where
  code : String
  name : String
  severity : Severity
  description : String
deriving DecidableEq, Repr

namespace Rule

/-- All rules, in the order of the catalogue. -/
def all : List Rule :=
  [missingName, nameTooLong, nameInvalidCharacters, nameHyphenEdge, labelKeyTooLong,
    labelValueTooLong, annotationPrefixTooLong, annotationNameTooLong, annotationKeyTooLong,
    missingRequiredField, suspiciousApiVersion, kindNotCapitalized, missingStructureField,
    emptyStructureList, suspiciousCpuQuantity, suspiciousMemoryQuantity, emptyVersion,
    versionTooShort, invalidVersionPart, dependencyMissingField, invalidRepository,
    chartMissingField, invalidChartApiVersion, chartNameMismatch, versionNotString,
    missingResourceLimits, emptyDockerfile, missingFrom, rootUser, addLocalFiles, pipCache,
    missingWorkdir, missingUser, absoluteCopySource, singleStage, missingLabels,
    missingOciLabel, emptyTag, latestTag, tagTooLong, tagInvalidCharacter, potentialSecret,
    wildcardVerbs, wildcardResources, dangerousSecretAccess, podCreation, highCpuTotal,
    highMemoryTotal, schemaMissingField, schemaTypeMismatch, externalLinterFailed]

/-- What is known of a rule. -/
def info : Rule → RuleInfo
  | missingName =>
    ⟨"KM1001", "missing-name", .error,
      "Resource must have a non-empty metadata.name"⟩
  | nameTooLong =>
    ⟨"KM1002", "name-too-long", .error,
      "Resource name must be at most 253 characters"⟩
  | nameInvalidCharacters =>
    ⟨"KM1003", "name-invalid-characters", .error,
      "Resource name may only contain alphanumerics, '-' and '.'"⟩
  | nameHyphenEdge =>
    ⟨"KM1004", "name-hyphen-edge", .error,
      "Resource name cannot start or end with '-'"⟩
  | labelKeyTooLong =>
    ⟨"KM1005", "label-key-too-long", .warning,
      "Label keys must be at most 63 characters"⟩
  | labelValueTooLong =>
    ⟨"KM1006", "label-value-too-long", .warning,
      "Label values must be at most 63 characters"⟩
  | annotationPrefixTooLong =>
    ⟨"KM1007", "annotation-prefix-too-long", .warning,
      "Annotation key prefixes must be at most 253 characters"⟩
  | annotationNameTooLong =>
    ⟨"KM1008", "annotation-name-too-long", .warning,
      "Annotation key names must be at most 63 characters"⟩
  | annotationKeyTooLong =>
    ⟨"KM1009", "annotation-key-too-long", .warning,
      "Unprefixed annotation keys must be at most 63 characters"⟩
  | missingRequiredField =>
    ⟨"KM1010", "missing-required-field", .error,
      "Manifests need apiVersion, kind, metadata and metadata.name"⟩
  | suspiciousApiVersion =>
    ⟨"KM1011", "suspicious-api-version", .error,
      "apiVersion must be 'v1' or contain a group ('group/version')"⟩
  | kindNotCapitalized =>
    ⟨"KM1012", "kind-not-capitalized", .error,
      "kind must start with an uppercase letter"⟩
  | missingStructureField =>
    ⟨"KM2001", "missing-structure-field", .error,
      "Kind-specific required field is missing"⟩
  | emptyStructureList =>
    ⟨"KM2002", "empty-structure-list", .error,
      "Kind-specific list must be a non-empty sequence"⟩
  | suspiciousCpuQuantity =>
    ⟨"KM3001", "suspicious-cpu-quantity", .warning,
      "CPU quantity should be millicores ('500m') or a decimal"⟩
  | suspiciousMemoryQuantity =>
    ⟨"KM3002", "suspicious-memory-quantity", .warning,
      "Memory quantity should carry a unit suffix or be a byte count"⟩
  | emptyVersion =>
    ⟨"HC1001", "empty-version", .error,
      "Chart version must not be empty"⟩
  | versionTooShort =>
    ⟨"HC1002", "version-too-short", .error,
      "Chart version needs at least major.minor"⟩
  | invalidVersionPart =>
    ⟨"HC1003", "invalid-version-part", .error,
      "Chart version segments must be numeric (pre-release suffix allowed)"⟩
  | dependencyMissingField =>
    ⟨"HC1004", "dependency-missing-field", .error,
      "Dependencies need name, version and repository"⟩
  | invalidRepository =>
    ⟨"HC1005", "invalid-repository", .error,
      "Dependency repository must be an http(s)/oci URL or a reserved alias"⟩
  | chartMissingField =>
    ⟨"HC1006", "chart-missing-field", .error,
      "Chart.yaml needs apiVersion, name, version and description"⟩
  | invalidChartApiVersion =>
    ⟨"HC1007", "invalid-chart-api-version", .error,
      "Chart apiVersion must be v1 or v2"⟩
  | chartNameMismatch =>
    ⟨"HC1008", "chart-name-mismatch", .warning,
      "Chart name should match its directory"⟩
  | versionNotString =>
    ⟨"HC1009", "version-not-string", .error,
      "Chart version must be a string"⟩
  | missingResourceLimits =>
    ⟨"HC2001", "missing-resource-limits", .warning,
      "values.yaml should define resources.limits or resources.requests"⟩
  | emptyDockerfile =>
    ⟨"DF1001", "empty-dockerfile", .error,
      "Dockerfile has no instructions"⟩
  | missingFrom =>
    ⟨"DF1002", "missing-from", .error,
      "First instruction must be FROM"⟩
  | rootUser =>
    ⟨"DF1003", "root-user", .error,
      "Do not switch to the root user"⟩
  | addLocalFiles =>
    ⟨"DF1004", "add-local-files", .error,
      "Use COPY instead of ADD for local files"⟩
  | pipCache =>
    ⟨"DF1005", "pip-cache", .error,
      "pip install should use --no-cache-dir"⟩
  | missingWorkdir =>
    ⟨"DF1006", "missing-workdir", .warning,
      "Dockerfile should set WORKDIR"⟩
  | missingUser =>
    ⟨"DF1007", "missing-user", .warning,
      "Dockerfile should switch to a non-root USER"⟩
  | absoluteCopySource =>
    ⟨"DF1008", "absolute-copy-source", .warning,
      "COPY/ADD sources should be relative to the build context"⟩
  | singleStage =>
    ⟨"DF1009", "single-stage", .info,
      "Consider a multi-stage build"⟩
  | missingLabels =>
    ⟨"DF1010", "missing-labels", .warning,
      "Dockerfile should carry LABEL metadata"⟩
  | missingOciLabel =>
    ⟨"DF1011", "missing-oci-label", .info,
      "Recommended OCI image label is missing"⟩
  | emptyTag =>
    ⟨"DF2001", "empty-tag", .error,
      "Image tag must not be empty"⟩
  | latestTag =>
    ⟨"DF2002", "latest-tag", .warning,
      "Avoid the 'latest' tag in production"⟩
  | tagTooLong =>
    ⟨"DF2003", "tag-too-long", .error,
      "Image tag must be at most 128 characters"⟩
  | tagInvalidCharacter =>
    ⟨"DF2004", "tag-invalid-character", .error,
      "Image tag contains an invalid character"⟩
  | potentialSecret =>
    ⟨"SC1001", "potential-secret", .warning,
      "Line looks like a hardcoded secret"⟩
  | wildcardVerbs =>
    ⟨"SC2001", "wildcard-verbs", .warning,
      "RBAC rule grants all verbs"⟩
  | wildcardResources =>
    ⟨"SC2002", "wildcard-resources", .warning,
      "RBAC rule grants access to all resources"⟩
  | dangerousSecretAccess =>
    ⟨"SC2003", "dangerous-secret-access", .warning,
      "RBAC rule can modify secrets"⟩
  | podCreation =>
    ⟨"SC2004", "pod-creation", .warning,
      "RBAC rule can create pods"⟩
  | highCpuTotal =>
    ⟨"AG1001", "high-cpu-total", .warning,
      "Total CPU requests exceed the configured limit"⟩
  | highMemoryTotal =>
    ⟨"AG1002", "high-memory-total", .warning,
      "Total memory requests exceed the configured limit"⟩
  | schemaMissingField =>
    ⟨"JS1001", "schema-missing-field", .error,
      "Required field is missing"⟩
  | schemaTypeMismatch =>
    ⟨"JS1002", "schema-type-mismatch", .error,
      "Field has the wrong type"⟩
  | externalLinterFailed =>
    ⟨"EX1001", "external-linter-failed", .error,
      "An external linter reported a failure"⟩

def code (r : Rule) : String := r.info.code

def severity (r : Rule) : Severity := r.info.severity

/-- The rule of a code. -/
def ofCode? (code : String) : Option Rule := all.find? fun r => r.code == code

/-- Whether a code belongs to a rule. -/
def isKnownCode (code : String) : Bool := (ofCode? code).isSome

def category? (r : Rule) : Option Category := Category.ofCode? r.code

/-- The catalogue leaves no rule out. -/
theorem mem_all (r : Rule) : r ∈ all := by cases r <;> decide

end Rule

end DeployLint
