import DeployLint.Chart.Descriptor
import DeployLint.Proofs.Document.Reading
import DeployLint.Proofs.Resource.Places
import DeployLint.Schema

/-!
# Linting — findings point where they say

The checks on a chart's descriptor and on a document under a schema write
paths down as the checks on resources do. All of them point into the document
that was checked: to a node that is there, or to a key that a node lacks, as
their rules have it (`findings_point`).
-/

namespace DeployLint

open Finding (All PointsInto pointsInto_node pointsInto_gap)
open Document (at?_key_of_get? at?_index_of_getElem? has_key lacks_of_mem_filter)

/-! ## Charts -/

namespace Chart

variable {d : Document} {s : Subject}

theorem points_checkVersion (hversion : d.Has (.ofKeys ["version"])) (version : String) :
    All (PointsInto d s) (checkVersion version s) := by
  have hfinding : ∀ {rule : Rule} (message : String), rule.target? = some .node →
      PointsInto d s ((Finding.graded rule .error s message).atPath (.ofKeys ["version"])) := by
    intro rule message hrule
    exact pointsInto_node hrule hversion _ _
  simp only [checkVersion]
  refine All.ite (All.singleton (hfinding _ rfl)) (All.append ?short ?parts)
  case short => exact All.singleton_of (hfinding _ rfl)
  case parts => exact All.map fun part _ => hfinding _ rfl

theorem points_checkVersionNode {version : Document} (hversion : d.get? "version" = some version) :
    All (PointsInto d s) (checkVersionNode s version) := by
  have hplace : d.Has (.ofKeys ["version"]) := has_key (p := .root) rfl hversion
  rw [checkVersionNode]
  split
  · exact points_checkVersion hplace _
  · exact All.singleton (pointsInto_node rfl hplace _ _)

/-- Each dependency is looked at where it stands in the list of them. -/
theorem points_checkDependency {dependency : Document} {position : Nat}
    (hplace : d.at? ((Path.ofKeys ["dependencies"]).index position) = some dependency) :
    All (PointsInto d s) (checkDependency s position dependency) := by
  rw [checkDependency]
  refine All.append ?fields ?repository
  case fields =>
    exact All.map fun name hname => pointsInto_gap rfl (lacks_of_mem_filter hplace hname) _ _
  case repository =>
    split
    · exact All.nil
    · rename_i text htext
      obtain ⟨n, hn, -⟩ := Option.map_eq_some_iff.1 htext
      exact All.singleton_unless (pointsInto_node rfl (has_key hplace hn) _ _)

theorem points_checkDependencies {dependencies : Document}
    (hdependencies : d.get? "dependencies" = some dependencies) :
    All (PointsInto d s) (checkDependencies s dependencies) := by
  have hlist : d.at? (.ofKeys ["dependencies"]) = some dependencies :=
    at?_key_of_get? (p := .root) rfl hdependencies
  cases dependencies with
  | sequence items =>
    refine All.flatMap fun x hx => points_checkDependency ?_
    exact at?_index_of_getElem? hlist (List.mem_zipIdx_iff_getElem?.1 hx)
  | scalar value => exact All.nil
  | mapping fields => exact All.nil

/-- **All findings on a descriptor point into it.** -/
theorem points_check (c : Chart) : All (PointsInto c.document c.subject) c.check := by
  rw [check]
  refine All.append (All.append (All.append ?fields ?format) ?version) ?dependencies
  case fields =>
    refine All.map fun name hname => ?_
    exact pointsInto_gap rfl (lacks_of_mem_filter (p := .root) rfl hname) _ _
  case format =>
    split
    · exact All.nil
    · rename_i text htext
      obtain ⟨n, hn, -⟩ := Option.bind_eq_some_iff.1 htext
      exact All.singleton_unless (pointsInto_node rfl (has_key (p := .root) rfl hn) _ _)
  case version =>
    split
    · rename_i version hversion
      exact points_checkVersionNode hversion
    · exact All.nil
  case dependencies =>
    split
    · rename_i dependencies hdependencies
      exact points_checkDependencies hdependencies
    · exact All.nil

end Chart

/-! ## Schemas -/

namespace Schema

variable {data : Document} {s : Subject}

theorem points_checkProperty (name : String) (property : Document) :
    All (PointsInto data s) (checkProperty data s name property) := by
  rw [checkProperty]
  split
  · rename_i value type hvalue _
    exact All.singleton_of (pointsInto_node rfl (has_key (p := .root) rfl hvalue) _ _)
  · exact All.nil

/-- **All findings under a schema point into the data.** -/
theorem points_check (data schema : Document) (s : Subject) :
    All (PointsInto data s) (check data schema s) := by
  rw [check]
  refine All.append ?required ?properties
  case required =>
    refine All.map fun name hname => ?_
    exact pointsInto_gap rfl (lacks_of_mem_filter (p := .root) rfl hname) _ _
  case properties => exact All.flatMap fun x _ => points_checkProperty x.1 x.2

end Schema

/-! ## The result -/

namespace Lint

/-- **Findings point where they say.** Every finding on a resource, on the
descriptor of a chart and on data under a schema is on the subject that was
checked, with no line, and its path is the text of one that leads to what the
rule is about: for a rule on something missing, to a key that a node of the
document does not have, for the other rules to a node (`Rule.target?`). That
the tree is ordered is no restriction: every one that is read is. -/
theorem findings_point (c : Config) {r : Resource} (hr : r.document.Ordered) (chart : Chart)
    (data schema : Document) (s : Subject) :
    All (PointsInto r.document r.subject) (Lint.resource c r) ∧
    All (PointsInto chart.document chart.subject) chart.check ∧
    All (PointsInto data s) (Schema.check data schema s) :=
  ⟨Resource.points_resource c hr, chart.points_check, Schema.points_check data schema s⟩

/-- A deployment with an image missing and a quantity that is none. -/
def unnamedDeployment : Json :=
  .object [("kind", .string "Deployment"),
    ("metadata", .object [("labels", .object [])]),
    ("resources", .object [("requests", .object [("cpu", .string "lots")])]),
    ("spec", .object [("selector", .null), ("template", .object [("spec", .object
      [("containers", .array [.object [("name", .string "web")]])])])])]

/-- A chart whose version is a number, with a dependency that has only an address. -/
def numberedChart : Json :=
  .object [("apiVersion", .string "v3"), ("version", .int 1),
    ("dependencies", .array [.object [("repository", .string "ftp://a")]])]

/-- A schema that asks for a field and for a type. -/
def nameSchema : Json :=
  .object [("required", .array [.string "name", .string "version"]),
    ("properties", .object [("version", .object [("type", .string "string")])])]

/-- The paths of what is found on the deployment, the chart and, under the
schema, on the chart. -/
theorem findings_point_unnamedDeployment :
    let place (f : Finding) : String × Option String := (f.code, f.path)
    let r : Resource := ⟨unnamedDeployment.toDocument, { artifact := "a.yaml" }⟩
    let chart : Chart := ⟨numberedChart.toDocument, { artifact := "Chart.yaml" }⟩
    let schema := nameSchema.toDocument
    ((Lint.resource {} r).map place =
      [("KM1010", some "apiVersion"), ("KM1010", some "metadata.name"),
        ("KM1001", some "metadata.name"),
        ("KM2001", some "spec.template.spec.containers[0].image"),
        ("KM3001", some "resources.requests.cpu")] ∧
      All (PointsInto r.document r.subject) (Lint.resource {} r)) ∧
    (chart.check.map place =
      [("HC1006", some "name"), ("HC1006", some "description"), ("HC1007", some "apiVersion"),
        ("HC1009", some "version"), ("HC1004", some "dependencies[0].name"),
        ("HC1004", some "dependencies[0].version"),
        ("HC1005", some "dependencies[0].repository")] ∧
      All (PointsInto chart.document chart.subject) chart.check) ∧
    (Schema.check chart.document schema chart.subject).map place =
      [("JS1001", some "name"), ("JS1002", some "version")] ∧
    All (PointsInto chart.document chart.subject)
      (Schema.check chart.document schema chart.subject) := by
  intro place r chart schema
  have hordered : r.document.Ordered := unnamedDeployment.ordered_toDocument
  obtain ⟨hresource, hchart, hschema⟩ :=
    findings_point {} hordered chart chart.document schema chart.subject
  exact ⟨⟨by decide +kernel, hresource⟩, ⟨by decide +kernel, hchart⟩, by decide +kernel, hschema⟩

end Lint

end DeployLint
