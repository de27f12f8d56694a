import DeployLint.Lint
import DeployLint.Proofs.Finding.Rules
import DeployLint.Proofs.Quantity.Shapes

/-!
# Resources — whose findings they are

Every finding of a check on a resource is a finding of that resource: of one
of the rules that the check asks, as grave as the catalogue has it, on the
resource's subject, at some path of its document (`Resource.Owns`). Ownership
is shown check by check, up to `ownsAll_resource`.
-/

namespace DeployLint

open Finding (All)

namespace Resource

variable {r : Resource} {asked : List Rule}

/-- A finding on the resource, of one of some rules, at some path of its document. -/
def Owns (r : Resource) (asked : List Rule) (f : Finding) : Prop :=
  ∃ rule ∈ asked, ∃ path message, f = r.finding rule rule.severity path message

theorem Owns.subject_eq {f : Finding} (h : r.Owns asked f) : f.subject = r.subject := by
  obtain ⟨_, _, _, _, rfl⟩ := h
  rfl

theorem Owns.ofRules {f : Finding} (h : r.Owns asked f) : f.OfRules asked r.subject := by
  obtain ⟨rule, hrule, _, _, rfl⟩ := h
  exact ⟨rule, hrule, rfl, rfl, rfl⟩

/-- A finding that is graded as the catalogue grades its rule is the resource's. -/
theorem owns_finding {rule : Rule} {severity : Severity} (hrule : rule ∈ asked)
    (hseverity : severity = rule.severity) (path : Path) (message : String) :
    r.Owns asked (r.finding rule severity path message) :=
  ⟨rule, hrule, path, message, by rw [hseverity]⟩

/-- All findings of a list are on the resource. -/
def OwnsAll (r : Resource) (asked : List Rule) (fs : List Finding) : Prop := All (r.Owns asked) fs

theorem OwnsAll.ofRules {fs : List Finding} (h : r.OwnsAll asked fs) :
    All (Finding.OfRules asked r.subject) fs :=
  All.imp h fun _ hf => hf.ofRules

/-- More rules own no fewer findings. -/
theorem OwnsAll.mono {fs : List Finding} {more : List Rule} (h : r.OwnsAll asked fs)
    (hsubset : asked ⊆ more) : r.OwnsAll more fs := by
  refine All.imp h fun f hf => ?_
  obtain ⟨rule, hrule, hfinding⟩ := hf
  exact ⟨rule, hsubset hrule, hfinding⟩

/-! ## Metadata -/

theorem ownsAll_checkFields (r : Resource) : r.OwnsAll [.missingRequiredField] r.checkFields := by
  rw [checkFields]
  refine All.append ?top ?nameless
  case top => exact All.map fun name _ => owns_finding (by decide) rfl _ _
  case nameless => exact All.singleton_of (owns_finding (by decide) rfl _ _)

theorem ownsAll_checkVersionAndKind (r : Resource) :
    r.OwnsAll [.suspiciousApiVersion, .kindNotCapitalized] r.checkVersionAndKind := by
  rw [checkVersionAndKind]
  refine All.append ?version ?kind
  case version =>
    split
    · exact All.nil
    · exact All.singleton_unless (owns_finding (by decide) rfl _ _)
  case kind =>
    split
    · exact All.nil
    · exact All.singleton_unless (owns_finding (by decide) rfl _ _)

/-- The rules on names. -/
def nameRules : List Rule := [.missingName, .nameTooLong, .nameInvalidCharacters, .nameHyphenEdge]

/-- What breaks a name is an error, whichever rule it is. -/
theorem severity_of_nameFault? {limits : NamingLimits} {name message : String} {rule : Rule}
    (h : nameFault? limits name = some (rule, message)) :
    rule ∈ nameRules ∧ .error = rule.severity := by
  have herror : ∀ rule ∈ nameRules, .error = rule.severity := by decide
  have hrule : rule ∈ nameRules := by
    rw [nameFault?] at h
    repeat' split at h
    all_goals simp_all [nameRules]
  exact ⟨hrule, herror rule hrule⟩

theorem ownsAll_checkName (r : Resource) (limits : NamingLimits) :
    r.OwnsAll nameRules (r.checkName limits) := by
  rw [checkName]
  split
  · exact All.singleton (owns_finding (by decide) rfl _ _)
  · split
    · exact All.nil
    · rename_i rule message hfault
      obtain ⟨hrule, hseverity⟩ := severity_of_nameFault? hfault
      exact All.singleton (owns_finding hrule hseverity _ _)

theorem ownsAll_checkLabels (r : Resource) (limits : NamingLimits) :
    r.OwnsAll [.labelKeyTooLong, .labelValueTooLong] (r.checkLabels limits) := by
  refine All.flatMap fun x _ => All.append ?key ?value
  case key => exact All.singleton_of (owns_finding (by decide) rfl _ _)
  case value => exact All.singleton_of (owns_finding (by decide) rfl _ _)

/-- The rules on the keys of annotations. -/
def annotationRules : List Rule :=
  [.annotationPrefixTooLong, .annotationNameTooLong, .annotationKeyTooLong]

theorem ownsAll_checkAnnotationKey (r : Resource) (limits : NamingLimits) (key : String) :
    r.OwnsAll annotationRules (r.checkAnnotationKey limits key) := by
  rw [checkAnnotationKey]
  split
  · refine All.append ?domain ?name
    case domain => exact All.singleton_of (owns_finding (by decide) rfl _ _)
    case name => exact All.singleton_of (owns_finding (by decide) rfl _ _)
  · exact All.singleton_of (owns_finding (by decide) rfl _ _)

theorem ownsAll_checkAnnotations (r : Resource) (limits : NamingLimits) :
    r.OwnsAll annotationRules (r.checkAnnotations limits) :=
  All.flatMap fun key _ => ownsAll_checkAnnotationKey r limits key

/-! ## Structure -/

/-- The rules on the structure of a kind. -/
def structureRules : List Rule := [.missingStructureField, .emptyStructureList]

/-- The fields that structures ask for. -/
def structureFields : List String :=
  ["spec", "selector", "template", "containers", "name", "image", "ports", "port"]

/-- A property of places that is kept on the way down a structure, and one
that the findings made on the way have because of it. -/
structure Descent (k : StructuredKind) (r : Resource) (I : Place → Prop) (P : Finding → Prop) :
    Prop where
  root : I ⟨.root, r.document⟩
  field : ∀ {place name node}, I place → name ∈ structureFields →
    place.node.get? name = some node → I ⟨place.path.key name, node⟩
  item : ∀ {place items} {x : Document × Nat}, I place → place.node = .sequence items →
    x ∈ items.zipIdx → I ⟨place.path.index x.2, x.1⟩
  missing : ∀ {place name}, I place → name ∈ structureFields → place.node.get? name = none →
    P (r.finding .missingStructureField .error (place.path.key name)
      s!"Missing {(place.path.key name).text} in {k.name} document {r.index}")
  unlisted : ∀ {place}, I place →
    P (r.finding .emptyStructureList .error place.path
      s!"{place.path.text} must be a non-empty list in {k.name} document {r.index}")

namespace Descent

variable {k : StructuredKind} {I : Place → Prop} {P : Finding → Prop} {place : Place}
variable {name : String} {below : Place → List Finding}

theorem within (h : Descent k r I P) (hplace : I place) (hname : name ∈ structureFields)
    (hbelow : ∀ p, I p → All P (below p)) : All P (k.within r place name below) := by
  rw [StructuredKind.within]
  split
  · rename_i node hnode
    exact hbelow _ (h.field hplace hname hnode)
  · rename_i hnone
    exact All.singleton (h.missing hplace hname hnone)

theorem require (h : Descent k r I P) (hplace : I place) (hname : name ∈ structureFields) :
    All P (k.require r place name) :=
  h.within hplace hname fun _ _ => All.nil

theorem withinEach (h : Descent k r I P) (hplace : I place) (hname : name ∈ structureFields)
    (hbelow : ∀ p, I p → All P (below p)) : All P (k.withinEach r place name below) := by
  refine h.within hplace hname fun list hlist => ?_
  split
  · rename_i d ds hnode
    exact All.flatMap fun x hx => hbelow _ (h.item hlist hnode hx)
  · exact All.singleton (h.unlisted hlist)

/-- **What holds of the findings at every place on the way down holds of all
findings on a structure.** -/
theorem check (h : Descent k r I P) : All P (k.check r) := by
  cases k with
  | deployment =>
    rw [StructuredKind.check]
    refine h.within h.root (by decide) fun spec hspec => ?_
    refine All.append (h.require hspec (by decide)) ?_
    refine h.within hspec (by decide) fun template htemplate => ?_
    refine h.within htemplate (by decide) fun pod hpod => ?_
    refine h.withinEach hpod (by decide) fun container hcontainer => ?_
    exact All.append (h.require hcontainer (by decide)) (h.require hcontainer (by decide))
  | service =>
    rw [StructuredKind.check]
    refine h.within h.root (by decide) fun spec hspec => ?_
    exact h.withinEach hspec (by decide) fun port hport => h.require hport (by decide)

/-- So it holds of the check that the resource's own kind asks for. -/
theorem checkStructure (h : ∀ k, Descent k r I P) : All P r.checkStructure := by
  rw [Resource.checkStructure]
  split
  · exact All.ite (h _).check All.nil
  · exact All.nil

end Descent

theorem ownsAll_checkStructure (r : Resource) : r.OwnsAll structureRules r.checkStructure := by
  refine Descent.checkStructure (I := fun _ => True) fun k => ?_
  exact {
    root := trivial
    field := fun _ _ _ => trivial
    item := fun _ _ _ => trivial
    missing := fun _ _ _ => owns_finding (by decide) rfl _ _
    unlisted := fun _ => owns_finding (by decide) rfl _ _ }

/-! ## Permissions and quantities -/

/-- The rules on what a role grants. -/
def grantRules : List Rule :=
  [.wildcardVerbs, .wildcardResources, .dangerousSecretAccess, .podCreation]

/-- What is wrong with a grant is a warning, whichever rule it is. -/
theorem severity_of_mem_faults {g : Grant} {tables : SecurityTables} {fault : Rule × String}
    (h : fault ∈ g.faults tables) : fault.1 ∈ grantRules ∧ .warning = fault.1.severity := by
  have hwarning : ∀ rule ∈ grantRules, .warning = rule.severity := by decide
  have hrule : fault.1 ∈ grantRules := by
    simp only [Grant.faults, List.mem_append, List.mem_ite_nil_right, List.mem_singleton] at h
    rcases h with ((⟨-, rfl⟩ | ⟨-, rfl⟩) | ⟨-, rfl⟩) | ⟨-, rfl⟩ <;> simp [grantRules]
  exact ⟨hrule, hwarning fault.1 hrule⟩

theorem ownsAll_checkPermissions (r : Resource) (tables : SecurityTables) :
    r.OwnsAll grantRules (r.checkPermissions tables) := by
  refine All.flatMap fun x _ => All.map fun fault hfault => ?_
  obtain ⟨hrule, hseverity⟩ := severity_of_mem_faults hfault
  exact owns_finding hrule hseverity _ _

/-- The rules on the shape of quantities. -/
def quantityRules : List Rule := [.suspiciousCpuQuantity, .suspiciousMemoryQuantity]

theorem ownsAll_shapeFinding? (r : Resource) {rule : Rule} (hrule : rule ∈ quantityRules)
    (title name : String) (isPlausible : String → Bool) (path : Path) (values : Document) :
    r.OwnsAll quantityRules
      (Quantity.shapeFinding? r.subject rule title name isPlausible path values).toList := by
  have hwarning : ∀ rule ∈ quantityRules, .warning = rule.severity := by decide
  rw [Quantity.shapeFinding?]
  split
  · exact All.nil
  · split
    · exact All.nil
    · exact All.singleton (owns_finding hrule (hwarning rule hrule) _ _)

theorem ownsAll_checkNode (r : Resource) (path : Path) (node : Document) :
    r.OwnsAll quantityRules (Quantity.checkNode r.subject path node) := by
  rw [Quantity.checkNode]
  split
  · exact All.nil
  · refine All.flatMap fun name _ => ?_
    split
    · exact All.nil
    · refine All.append ?cpu ?memory
      case cpu => exact ownsAll_shapeFinding? r (by decide) _ _ _ _ _
      case memory => exact ownsAll_shapeFinding? r (by decide) _ _ _ _ _

theorem ownsAll_checkQuantities (r : Resource) (d : Document) (depth : Nat) :
    r.OwnsAll quantityRules (Quantity.check r.subject d depth) := by
  rw [Quantity.check_eq_flatMap]
  exact All.flatMap fun x _ => ownsAll_checkNode r x.1 x.2

/-! ## All rules -/

/-- The rules that a resource is asked. -/
def rules : List Rule :=
  [.missingRequiredField, .suspiciousApiVersion, .kindNotCapitalized] ++ nameRules ++
    [.labelKeyTooLong, .labelValueTooLong] ++ annotationRules ++ structureRules ++ grantRules ++
    quantityRules

/-- **All findings of the rules on a resource are on it.** -/
theorem ownsAll_resource (c : Config) (r : Resource) : r.OwnsAll rules (Lint.resource c r) := by
  rw [Lint.resource]
  refine All.append (All.append (All.append (All.append (All.append (All.append (All.append
    ?fields ?versionAndKind) ?name) ?labels) ?annotations) ?shape) ?permissions) ?quantities
  case fields => exact (ownsAll_checkFields r).mono (by decide)
  case versionAndKind => exact (ownsAll_checkVersionAndKind r).mono (by decide)
  case name => exact (ownsAll_checkName r c.naming).mono (by decide)
  case labels => exact (ownsAll_checkLabels r c.naming).mono (by decide)
  case annotations => exact (ownsAll_checkAnnotations r c.naming).mono (by decide)
  case shape => exact (ownsAll_checkStructure r).mono (by decide)
  case permissions => exact (ownsAll_checkPermissions r c.security).mono (by decide)
  case quantities => exact (ownsAll_checkQuantities r r.document c.quota.depth).mono (by decide)

end Resource

end DeployLint
