import DeployLint.Resource.Basic
import DeployLint.Config.Basic
import DeployLint.Text.Uppercase

/-!
# Resources — fields and metadata

The rules that hold for a resource of any kind: its top-level fields are
there, its version and kind look like ones, its name keeps the grammar of
names, and the texts of its labels and annotations keep their lengths.
-/

namespace DeployLint

namespace Resource

/-! ## Fields -/

/-- The fields that every resource has. -/
def requiredFields : List String := ["apiVersion", "kind", "metadata"]

/-- The findings on fields that are missing. Metadata that holds anything
has to hold a name. -/
def checkFields (r : Resource) : List Finding :=
  let missing := requiredFields.filter fun name => !r.document.hasKey name
  let top := missing.map fun name =>
    r.finding .missingRequiredField .error (.ofKeys [name])
      s!"Missing {name} in document {r.index}"
  let nameless :=
    match r.metadata? with
    | some (.mapping fields) => !fields.isEmpty && (Fields.get? "name" fields).isNone
    | _ => false
  top ++
    if nameless then
      [r.finding .missingRequiredField .error (.ofKeys ["metadata", "name"])
        s!"Missing metadata.name in document {r.index}"]
    else []

/-- Whether a text begins with a capital. -/
def isCapitalized (text : String) : Bool :=
  match text.toList with
  | c :: _ => Text.isUppercase c
  | [] => false

/-- The findings on the version and the kind, where they are there: a version
is `v1` or names a group, a kind begins with a capital. -/
def checkVersionAndKind (r : Resource) : List Finding :=
  let version :=
    match r.apiVersion?.map Document.text with
    | none => []
    | some text =>
      if text == "v1" || Text.holds text "/" then []
      else
        [r.finding .suspiciousApiVersion .error (.ofKeys ["apiVersion"])
          s!"Suspicious API version '{text}' in document {r.index}"]
  let kind :=
    match (r.document.get? "kind").map Document.text with
    | none => []
    | some text =>
      if isCapitalized text then []
      else
        [r.finding .kindNotCapitalized .error (.ofKeys ["kind"])
          s!"Kind '{text}' should be capitalized in document {r.index}"]
  version ++ kind

/-! ## Names -/

/-- Whether a character may stand in a name. -/
def isNameChar (c : Char) : Bool := c.isAlphanum || c == '-' || c == '.'

/-- The first rule that a name breaks, with the message on it. -/
def nameFault? (limits : NamingLimits) (name : String) : Option (Rule × String) :=
  let cs := name.toList
  if cs.isEmpty then some (.missingName, "Resource name is empty")
  else if limits.name < cs.length then
    some (.nameTooLong, s!"Resource name too long: {cs.length} > {limits.name}")
  else if !cs.all isNameChar || !cs.any Char.isAlphanum then
    some (.nameInvalidCharacters, s!"Resource name contains invalid characters: {name}")
  else if cs.head? == some '-' || cs.getLast? == some '-' then
    some (.nameHyphenEdge, s!"Resource name cannot start or end with hyphen: {name}")
  else none

/-- The finding on the name of a resource, if it breaks a rule. A name that
is no scalar counts as an empty one. -/
def checkName (r : Resource) (limits : NamingLimits) : List Finding :=
  match r.metadata? with
  | none => [r.finding .missingName .error (.ofKeys ["metadata"]) "Missing metadata section"]
  | some _ =>
    match nameFault? limits (r.name?.getD "") with
    | none => []
    | some (rule, message) => [r.finding rule .error (.ofKeys ["metadata", "name"]) message]

/-! ## Labels and annotations -/

/-- The findings on one label. -/
def checkLabel (r : Resource) (limits : NamingLimits) (key : String) (value : Document) :
    List Finding :=
  let path := (Path.ofKeys ["metadata", "labels"]).key key
  let text := value.text
  (if limits.label < key.length then
      [r.finding .labelKeyTooLong .warning path s!"Label key too long: {key}"]
    else []) ++
    if limits.label < text.length then
      [r.finding .labelValueTooLong .warning path s!"Label value too long: {text}"]
    else []

/-- The findings on the labels of a resource. -/
def checkLabels (r : Resource) (limits : NamingLimits) : List Finding :=
  (r.labels?.getD []).flatMap fun (key, value) => checkLabel r limits key value

/-- The findings on the key of one annotation. What precedes its last slash
names a domain, with a limit of its own. -/
def checkAnnotationKey (r : Resource) (limits : NamingLimits) (key : String) : List Finding :=
  let path := (Path.ofKeys ["metadata", "annotations"]).key key
  match Text.cutLast? '/' key with
  | some (domain, name) =>
    (if limits.annotationPrefix < domain.length then
        [r.finding .annotationPrefixTooLong .warning path s!"Annotation prefix too long: {domain}"]
      else []) ++
      if limits.annotationName < name.length then
        [r.finding .annotationNameTooLong .warning path s!"Annotation name too long: {name}"]
      else []
  | none =>
    if limits.annotationName < key.length then
      [r.finding .annotationKeyTooLong .warning path s!"Annotation key too long: {key}"]
    else []

/-- The findings on the annotations of a resource. -/
def checkAnnotations (r : Resource) (limits : NamingLimits) : List Finding :=
  (Fields.names (r.annotations?.getD [])).flatMap (checkAnnotationKey r limits)

end Resource

end DeployLint
