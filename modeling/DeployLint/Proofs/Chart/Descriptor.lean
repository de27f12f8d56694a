import DeployLint.Chart.Descriptor
import DeployLint.Proofs.Chart.Version
import DeployLint.Proofs.Document.Places
import DeployLint.Proofs.Text.Case

/-!
# Charts — what is asked of a descriptor

Four checks look at a descriptor: at its fields, at the version of its format,
at its own version and at its dependencies, each at nodes of whatever type.
Together they ask for one list of things (`demands`) and report all that is
broken in its order (`check_eq_broken`). What is asked for is kept by a
descriptor that has all its fields, a known format, a text of the grammar for
its version, and nothing but complete dependencies in the list of them
(`IsDescriptor`).
-/

namespace DeployLint

namespace Chart

variable {c : Chart} {subject : Subject} {item : Document} {position : Nat}

/-! ## Dependencies -/

/-- A text that stands for a repository: an address by a known scheme, or an alias. -/
def IsRepository (text : String) : Prop :=
  (∃ scheme ∈ ["http://", "https://", "oci://"], ∃ rest, text = scheme ++ rest) ∨
    text = "@stable" ∨ text = "@incubator"

theorem isRepository_iff {text : String} : isRepository text = true ↔ IsRepository text := by
  rw [isRepository, Bool.or_eq_true, List.any_eq_true, List.contains_iff_mem, repositorySchemes,
    repositoryAliases, List.mem_pair]
  simp only [Text.beginsWith_iff_exists]
  rfl

instance : DecidablePred IsRepository := fun _ => decidable_of_iff _ isRepository_iff

/-- A complete dependency. -/
def IsDependency (item : Document) : Prop :=
  ∃ fields repository, item = .mapping fields ∧ item.hasKey "name" = true ∧
    item.hasKey "version" = true ∧ item.get? "repository" = some repository ∧
    IsRepository repository.text

/-- What is asked of the dependency at a position: its fields, and of the
repository, where it is there, that its text stands for one. -/
def dependencyDemands (subject : Subject) (position : Nat) (item : Document) : List Demand :=
  let path := (Path.ofKeys ["dependencies"]).index position
  (["name", "version", "repository"].map fun name =>
      .error subject "HC1004" (path.key name) s!"Dependency {position} missing {name}"
        (item.hasKey name = true)) ++
    match item.get? "repository" with
    | some repository =>
      [.error subject "HC1005" (path.key "repository")
        s!"Invalid repository URL: {repository.text}" (IsRepository repository.text)]
    | none => []

theorem checkDependency_eq_broken (subject : Subject) (position : Nat) (item : Document) :
    checkDependency subject position item =
      Demand.broken (dependencyDemands subject position item) := by
  rw [checkDependency, dependencyDemands, Demand.broken_append, Demand.broken_map_error_bool]
  cases item.get? "repository" with
  | none => rfl
  | some repository =>
    simp only [Option.map_some, Demand.broken_error, isRepository_iff]
    rfl

/-- Dependencies are asked one after the other. -/
theorem checkDependencies_eq_broken (subject : Subject) (items : List Document) :
    checkDependencies subject (.sequence items) =
      Demand.broken (items.zipIdx.flatMap fun x => dependencyDemands subject x.2 x.1) := by
  rw [Demand.broken_flatMap]
  exact List.flatMap_congr fun x _ => checkDependency_eq_broken subject x.2 x.1

theorem kept_dependencyDemands_iff :
    (∀ d ∈ dependencyDemands subject position item, d.Kept) ↔ IsDependency item := by
  rw [dependencyDemands, List.forall_mem_append, List.forall_mem_map]
  constructor
  · rintro ⟨hfields, hrepository⟩
    obtain ⟨repository, hget⟩ := Option.isSome_iff_exists.1 (hfields "repository" (by decide))
    obtain ⟨fields, rfl⟩ := Document.exists_fields_of_get? hget
    rw [hget] at hrepository
    exact ⟨fields, repository, rfl, hfields "name" (by decide), hfields "version" (by decide), hget,
      hrepository _ (List.mem_singleton_self _)⟩
  · rintro ⟨fields, repository, rfl, hname, hversion, hget, hrepository⟩
    have hkey : (Document.mapping fields).hasKey "repository" = true :=
      Option.isSome_iff_exists.2 ⟨repository, hget⟩
    refine ⟨?_, ?_⟩
    · simp only [List.forall_mem_cons]
      exact ⟨hname, hversion, hkey, List.forall_mem_nil _⟩
    · rw [hget]
      exact List.forall_mem_singleton.2 hrepository

/-! ## The parts of a descriptor -/

/-- The fields that a descriptor has to have. -/
def fieldDemands (c : Chart) : List Demand :=
  ["apiVersion", "name", "version", "description"].map fun name =>
    .error c.subject "HC1006" (.ofKeys [name]) s!"Chart.yaml missing required field: {name}"
      (c.document.hasKey name = true)

/-- The format, where it is a scalar, is a known one. -/
def formatDemands (c : Chart) : List Demand :=
  match c.document.get? "apiVersion" with
  | some (.scalar value) =>
    [.error c.subject "HC1007" (.ofKeys ["apiVersion"])
      s!"Invalid apiVersion '{value.text}'. Must be v1 or v2"
      (value.text = "v1" ∨ value.text = "v2")]
  | _ => []

/-- The node of the version is a text, and of the text is asked what is asked
of versions. -/
def versionNodeDemands (subject : Subject) : Document → List Demand
  | .scalar (.string version) => versionDemands version subject
  | node =>
    [.error subject "HC1009" (.ofKeys ["version"])
      s!"Chart version must be a string, found {node.typeName}" False]

/-- The version, where it is there. -/
def ownVersionDemands (c : Chart) : List Demand :=
  match c.document.get? "version" with
  | some version => versionNodeDemands c.subject version
  | none => []

/-- Of the dependencies, where they are a list, each is complete. -/
def allDependencyDemands (c : Chart) : List Demand :=
  match c.document.get? "dependencies" with
  | some (.sequence items) => items.zipIdx.flatMap fun x => dependencyDemands c.subject x.2 x.1
  | _ => []

/-- All that is asked of a descriptor, in the order in which it is asked. -/
def demands (c : Chart) : List Demand :=
  c.fieldDemands ++ c.formatDemands ++ c.ownVersionDemands ++ c.allDependencyDemands

theorem checkVersionNode_eq_broken (subject : Subject) (version : Document) :
    checkVersionNode subject version = Demand.broken (versionNodeDemands subject version) := by
  cases version with
  | scalar value =>
    cases value with
    | string text => exact checkVersion_eq_broken text subject
    | null => rfl
    | bool b => rfl
    | int n => rfl
    | float x => rfl
  | sequence items => rfl
  | mapping fields => rfl

/-- **The check asks for this and reports all that is broken.** -/
theorem check_eq_broken (c : Chart) : c.check = Demand.broken c.demands := by
  rw [check, demands, Demand.broken_append, Demand.broken_append, Demand.broken_append]
  refine congrArg₂ (· ++ ·) (congrArg₂ (· ++ ·) (congrArg₂ (· ++ ·) ?fields ?format) ?version)
    ?dependencies
  case fields =>
    rw [fieldDemands, Demand.broken_map_error_bool]
    rfl
  case format =>
    rw [apiVersion?, formatDemands]
    cases hformat : c.document.get? "apiVersion" with
    | none => rfl
    | some node =>
      cases node with
      | scalar value =>
        simp only [Option.bind_some, Document.scalarText?, Document.asScalar?, Option.map_some,
          apiVersions, List.contains_iff_mem, List.mem_pair, Demand.broken_error]
        rfl
      | sequence items => rfl
      | mapping fields => rfl
  case version =>
    rw [version?, ownVersionDemands]
    cases hversion : c.document.get? "version" with
    | none => rfl
    | some version => exact checkVersionNode_eq_broken c.subject version
  case dependencies =>
    rw [dependencies?, allDependencyDemands]
    cases hdependencies : c.document.get? "dependencies" with
    | none => rfl
    | some node =>
      cases node with
      | scalar value => rfl
      | mapping fields => rfl
      | sequence items => exact checkDependencies_eq_broken c.subject items

/-! ## Descriptors without findings -/

/-- A descriptor that has everything that is asked of it. -/
structure IsDescriptor (c : Chart) : Prop where
  fields : ∀ name ∈ ["apiVersion", "name", "version", "description"],
    c.document.hasKey name = true
  format : ∀ value, c.document.get? "apiVersion" = some (.scalar value) →
    value.text = "v1" ∨ value.text = "v2"
  version : ∃ version, c.document.get? "version" = some (.string version) ∧
    checkVersion version c.subject = []
  dependencies : ∀ items, c.document.get? "dependencies" = some (.sequence items) →
    ∀ item ∈ items, IsDependency item

theorem kept_formatDemands_iff : (∀ d ∈ c.formatDemands, d.Kept) ↔
    ∀ value, c.document.get? "apiVersion" = some (.scalar value) →
      value.text = "v1" ∨ value.text = "v2" := by
  rw [formatDemands]
  split
  · rename_i value hformat
    rw [List.forall_mem_singleton, hformat]
    simp only [Option.some.injEq, Document.scalar.injEq, forall_eq']
    rfl
  · rename_i hother
    exact iff_of_true (List.forall_mem_nil _) fun value hvalue => absurd hvalue (hother value)

theorem kept_versionNodeDemands_iff {node : Document} :
    (∀ d ∈ versionNodeDemands subject node, d.Kept) ↔
      ∃ version, node = .string version ∧ checkVersion version subject = [] := by
  unfold versionNodeDemands
  split
  · rename_i text
    rw [← Demand.broken_eq_nil_iff, ← checkVersion_eq_broken]
    simp only [Document.string, Document.scalar.injEq, Scalar.string.injEq, exists_eq_left']
  · rename_i hother
    refine iff_of_false (fun h => h _ (List.mem_singleton_self _)) ?_
    rintro ⟨text, rfl, -⟩
    exact hother text rfl

theorem kept_allDependencyDemands_iff : (∀ d ∈ c.allDependencyDemands, d.Kept) ↔
    ∀ items, c.document.get? "dependencies" = some (.sequence items) →
      ∀ item ∈ items, IsDependency item := by
  rw [allDependencyDemands]
  split
  · rename_i items hitems
    rw [List.forall_mem_flatMap, hitems]
    simp only [kept_dependencyDemands_iff, Option.some.injEq, Document.sequence.injEq, forall_eq']
    exact Document.forall_mem_zipIdx_iff
  · rename_i hother
    exact iff_of_true (List.forall_mem_nil _) fun items hitems => absurd hitems (hother items)

/-- **All is kept exactly by a descriptor that has everything.** -/
theorem kept_demands_iff : (∀ d ∈ c.demands, d.Kept) ↔ c.IsDescriptor := by
  rw [demands, List.forall_mem_append, List.forall_mem_append, List.forall_mem_append, fieldDemands,
    List.forall_mem_map, kept_formatDemands_iff, kept_allDependencyDemands_iff, ownVersionDemands]
  constructor
  · rintro ⟨⟨⟨hfields, hformat⟩, hversion⟩, hdependencies⟩
    obtain ⟨node, hnode⟩ := Option.isSome_iff_exists.1 (hfields "version" (by decide))
    rw [hnode] at hversion
    obtain ⟨version, rfl, hclean⟩ := kept_versionNodeDemands_iff.1 hversion
    exact ⟨hfields, hformat, ⟨version, hnode, hclean⟩, hdependencies⟩
  · rintro ⟨hfields, hformat, ⟨version, hversion, hclean⟩, hdependencies⟩
    refine ⟨⟨⟨hfields, hformat⟩, ?_⟩, hdependencies⟩
    rw [hversion]
    exact kept_versionNodeDemands_iff.2 ⟨version, rfl, hclean⟩

/-- **The check of a descriptor is sound and complete.** It reports nothing
exactly on a descriptor that has all its fields, a scalar of its format only if
it is a known one, a text for its version of which the check of versions
reports nothing, and, where its dependencies are a list, nothing in it but
complete ones. In every case it reports all that is broken of what is asked,
in the order of the demands: the fields, the format, the version, and of each
dependency in turn its fields and its repository. Of a version that is a text
these are the findings of the check of versions. -/
theorem check_finds_broken (c : Chart) :
    (c.check = [] ↔ c.IsDescriptor) ∧
    c.check = Demand.broken (c.fieldDemands ++ c.formatDemands ++ c.ownVersionDemands ++
      c.allDependencyDemands) ∧
    ∀ version, c.document.get? "version" = some (.string version) →
      Demand.broken c.ownVersionDemands = checkVersion version c.subject := by
  refine ⟨?_, check_eq_broken c, fun version hversion => ?_⟩
  · rw [check_eq_broken, Demand.broken_eq_nil_iff, kept_demands_iff]
  · rw [ownVersionDemands, hversion]
    exact (checkVersion_eq_broken version c.subject).symm

/-- A chart of a version, of a format and with dependencies. -/
def versioned (format version : String) (dependencies : List Document) : Chart where
  subject := { artifact := "web/Chart.yaml" }
  document :=
    .mapping [("apiVersion", .string format), ("dependencies", .sequence dependencies),
      ("description", .null), ("name", .string "web"), ("version", .string version)]

/-- A chart with a dependency by an alias, and one in which nothing is as it
has to be but the fields. -/
theorem check_finds_broken_dependencies :
    let complete : Document := .mapping [("name", .string "db"), ("repository", .string "@stable"),
      ("version", .null)]
    let distant : Document := .mapping [("name", .string "log"), ("repository", .string "ftp://log")]
    (versioned "v2" "1.0-rc" [complete]).IsDescriptor ∧
    ¬ (versioned "v3" "1.x" [.string "db", distant]).IsDescriptor ∧
    (Demand.broken (versioned "v3" "1.x" [.string "db", distant]).demands).map
        (fun f => (f.code, f.path)) =
      [("HC1007", some "apiVersion"), ("HC1003", some "version"),
        ("HC1004", some "dependencies[0].name"), ("HC1004", some "dependencies[0].version"),
        ("HC1004", some "dependencies[0].repository"),
        ("HC1004", some "dependencies[1].version"),
        ("HC1005", some "dependencies[1].repository")] ∧
    Demand.broken (versioned "v3" "1.x" [.string "db", distant]).ownVersionDemands =
      checkVersion "1.x" { artifact := "web/Chart.yaml" } := by
  intro complete distant
  obtain ⟨haccepts, -, -⟩ := check_finds_broken (versioned "v2" "1.0-rc" [complete])
  obtain ⟨hrejects, hbroken, hversion⟩ :=
    check_finds_broken (versioned "v3" "1.x" [.string "db", distant])
  have hfound : (versioned "v3" "1.x" [.string "db", distant]).check.map
      (fun f => (f.code, f.path)) =
      [("HC1007", some "apiVersion"), ("HC1003", some "version"),
        ("HC1004", some "dependencies[0].name"), ("HC1004", some "dependencies[0].version"),
        ("HC1004", some "dependencies[0].repository"),
        ("HC1004", some "dependencies[1].version"),
        ("HC1005", some "dependencies[1].repository")] := by decide +kernel
  refine ⟨haccepts.1 (by decide +kernel), fun hdescriptor => ?_, ?_, hversion "1.x" rfl⟩
  · rw [hrejects.2 hdescriptor] at hfound
    exact nomatch hfound
  · rw [hbroken] at hfound
    exact hfound

end Chart

end DeployLint
