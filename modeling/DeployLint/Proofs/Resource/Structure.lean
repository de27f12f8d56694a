import DeployLint.Proofs.Document.Places
import DeployLint.Resource.Structure

/-!
# Resources — what a structure asks for

A structure is checked on the way down, and nothing is looked at below a field
that is missing. Here it is a list of fields that are required, each of a
parent (`StructuredKind.requirements`): a finding is made of a field whose
parent is there and does not have it, or has something else than a sequence
with items where items are asked for (`check_eq_filterMap_requirements`). A
structure without findings is one that has all of it (`check_deployment_eq_nil_iff`,
`check_service_eq_nil_iff`).
-/

namespace DeployLint

/-! ## Requirements -/

/-- A field that a structure asks for. -/
structure Requirement where
  /-- The path of the node that has to have the field. -/
  parent : Path
  name : String
  /-- Whether the field has to be a sequence with items. -/
  isList : Bool := false
deriving DecidableEq

namespace Requirement

/-- Where the field is to be. -/
def path (q : Requirement) : Path := q.parent.key q.name

/-- Whether a node may stand in the field. -/
def accepts (q : Requirement) : Document → Bool
  | .sequence items => !q.isList || !items.isEmpty
  | _ => !q.isList

/-- The finding on a field: where its parent is there, the field is missing,
or it is there and no sequence with items though it has to be one. -/
def fault? (k : StructuredKind) (r : Resource) (q : Requirement) : Option Finding :=
  match r.document.at? q.parent with
  | none => none
  | some parent =>
    match parent.get? q.name with
    | none =>
      some
        { code := "KM2001"
          severity := .error
          subject := r.subject
          path := some q.path.text
          message := s!"Missing {q.path.text} in {k.name} document {r.index}" }
    | some node =>
      if q.accepts node then none
      else
        some
          { code := "KM2002"
            severity := .error
            subject := r.subject
            path := some q.path.text
            message := s!"{q.path.text} must be a non-empty list in {k.name} document {r.index}" }

end Requirement

/-- The paths of the items of a sequence. -/
def Document.itemPaths (d : Document) (path : Path) : List Path :=
  match d.at? path with
  | some (.sequence items) => items.zipIdx.map fun x => path.index x.2
  | _ => []

namespace StructuredKind

/-- The fields that the structure of a document has to have, each before those
below it. -/
def requirements (k : StructuredKind) (d : Document) : List Requirement :=
  let spec := Path.root.key "spec"
  match k with
  | deployment =>
    let pod := (spec.key "template").key "spec"
    [⟨.root, "spec", false⟩, ⟨spec, "selector", false⟩, ⟨spec, "template", false⟩,
        ⟨spec.key "template", "spec", false⟩, ⟨pod, "containers", true⟩] ++
      (d.itemPaths (pod.key "containers")).flatMap fun container =>
        [⟨container, "name", false⟩, ⟨container, "image", false⟩]
  | service =>
    [⟨.root, "spec", false⟩, ⟨spec, "ports", true⟩] ++
      (d.itemPaths (spec.key "ports")).flatMap fun port => [⟨port, "port", false⟩]

/-! ## Findings as faults -/

variable {k : StructuredKind} {r : Resource} {path : Path} {node : Document} {name : String}
variable {below : Place → List Finding} {rest : List Requirement}

open Document (forall_mem_zipIdx_iff)
open Requirement (fault?)

/-- None of the parents is there. -/
def Parentless (d : Document) (qs : List Requirement) : Prop := ∀ q ∈ qs, d.at? q.parent = none

/-- Where a parent is missing, nothing is wrong with its fields. -/
theorem Parentless.filterMap_eq_nil (h : Parentless r.document rest) :
    rest.filterMap (fault? k r) = [] := by
  refine List.filterMap_eq_nil_iff.2 fun q hq => ?_
  rw [fault?, h q hq]

theorem Parentless.cons {d : Document} {isList : Bool} (h : d.at? path = none)
    (hrest : Parentless d rest) : Parentless d ([⟨path, name, isList⟩] ++ rest) :=
  List.forall_mem_cons.2 ⟨h, hrest⟩

theorem parentless_items {d : Document} (h : d.at? path = none) (each : Path → List Requirement) :
    Parentless d ((d.itemPaths path).flatMap each) := by
  rw [Document.itemPaths, h]
  exact fun q hq => nomatch hq

/-- Below what is not there nothing is. -/
theorem at?_key_eq_none {d : Document} (h : d.at? path = none) (name : String) :
    d.at? (path.key name) = none := by
  rw [Document.at?_key, h, Option.bind_none]

/-- **Below a field that is missing nothing is wrong, and above it the field
is.** What is required below is passed over with the field. -/
theorem within_eq_filterMap (hplace : r.document.at? path = some node)
    (hbelow : ∀ n, r.document.at? (path.key name) = some n →
      below ⟨path.key name, n⟩ = rest.filterMap (fault? k r))
    (hrest : r.document.at? (path.key name) = none → Parentless r.document rest) :
    k.within r ⟨path, node⟩ name below =
      ([Requirement.mk path name false] ++ rest).filterMap (fault? k r) := by
  have hstep : r.document.at? (path.key name) = node.get? name := by
    rw [Document.at?_key, hplace, Option.bind_some]
  rw [within, List.filterMap_append]
  dsimp only
  cases hget : node.get? name with
  -- what is required below has no parent then
  | none =>
    rw [(hrest (hstep.trans hget)).filterMap_eq_nil, List.append_nil,
      List.filterMap_cons, fault?, hplace]
    simp only [hget]
    rfl
  | some n =>
    have haccepts : Requirement.accepts ⟨path, name, false⟩ n = true := by cases n <;> rfl
    rw [← hbelow n (hstep.trans hget), List.filterMap_cons, fault?, hplace]
    simp only [hget, haccepts]
    rfl

theorem require_eq_filterMap (hplace : r.document.at? path = some node) :
    k.require r ⟨path, node⟩ name = [Requirement.mk path name false].filterMap (fault? k r) := by
  have hnothing : ∀ n, r.document.at? (path.key name) = some n →
      [] = ([] : List Requirement).filterMap (fault? k r) := fun _ _ => rfl
  exact within_eq_filterMap hplace hnothing fun _ q hq => nomatch hq

/-- The same for the items of a list that is required. -/
theorem withinEach_eq_filterMap {each : Path → List Requirement}
    (hplace : r.document.at? path = some node)
    (hbelow : ∀ p item, r.document.at? p = some item →
      below ⟨p, item⟩ = (each p).filterMap (fault? k r)) :
    k.withinEach r ⟨path, node⟩ name below =
      ([Requirement.mk path name true] ++
        (r.document.itemPaths (path.key name)).flatMap each).filterMap (fault? k r) := by
  have hstep : r.document.at? (path.key name) = node.get? name := by
    rw [Document.at?_key, hplace, Option.bind_some]
  rw [withinEach, within, List.filterMap_append, List.filterMap_flatMap]
  dsimp only
  cases hget : node.get? name with
  | none =>
    rw [Document.itemPaths, hstep.trans hget, List.filterMap_cons, fault?, hplace]
    simp only [hget]
    rfl
  | some list =>
    have hlist := hstep.trans hget
    rw [List.filterMap_cons, fault?, hplace]
    cases list with
    | scalar _ | mapping _ =>
      rw [Document.itemPaths, hlist]
      simp only [hget]
      rfl
    | sequence items =>
      cases items with
      -- without items there is nothing to look at, and a sequence that is asked for is not there
      | nil =>
        rw [Document.itemPaths, hlist]
        simp only [hget]
        rfl
      | cons d ds =>
        simp only [hget, Document.itemPaths, hlist, List.flatMap_map]
        refine List.flatMap_congr fun x hx => hbelow _ _ ?_
        exact Document.at?_index_of_getElem? hlist (List.mem_zipIdx_iff_getElem?.1 hx)

/-- **The findings on a structure are the faults of what it requires.** -/
theorem check_eq_filterMap_requirements (k : StructuredKind) (r : Resource) :
    k.check r = (k.requirements r.document).filterMap (fault? k r) := by
  have hroot : r.document.at? .root = some r.document := rfl
  cases k with
  | deployment =>
    let spec := Path.root.key "spec"
    let template := spec.key "template"
    let pod := template.key "spec"
    -- what is required below each of them
    let inPod := [Requirement.mk pod "containers" true] ++
      (r.document.itemPaths (pod.key "containers")).flatMap fun container =>
        [Requirement.mk container "name" false, ⟨container, "image", false⟩]
    let inTemplate := [Requirement.mk template "spec" false] ++ inPod
    have hrequirements : deployment.requirements r.document =
        [Requirement.mk .root "spec" false] ++ ([Requirement.mk spec "selector" false] ++
          ([Requirement.mk spec "template" false] ++ inTemplate)) := rfl
    have hpod : r.document.at? pod = none → Parentless r.document inPod :=
      fun h => .cons h (parentless_items (at?_key_eq_none h "containers") _)
    have htemplate : r.document.at? template = none → Parentless r.document inTemplate :=
      fun h => .cons h (hpod (at?_key_eq_none h "spec"))
    rw [check, hrequirements]
    refine within_eq_filterMap hroot (fun _ hspec => ?_)
      fun h => .cons h (.cons h (htemplate (at?_key_eq_none h "template")))
    rw [List.filterMap_append, ← require_eq_filterMap hspec]
    refine congrArg _ (within_eq_filterMap hspec (fun _ htemplate => ?_) htemplate)
    refine within_eq_filterMap htemplate (fun _ hpod => ?_) hpod
    refine withinEach_eq_filterMap hpod fun _ _ hcontainer => ?_
    rw [require_eq_filterMap hcontainer, require_eq_filterMap hcontainer, ← List.filterMap_append]
    rfl
  | service =>
    let spec := Path.root.key "spec"
    let ports := (r.document.itemPaths (spec.key "ports")).flatMap fun port =>
      [Requirement.mk port "port" false]
    have hrequirements : service.requirements r.document =
        [Requirement.mk .root "spec" false] ++
          ([Requirement.mk spec "ports" true] ++ ports) := rfl
    rw [check, hrequirements]
    refine within_eq_filterMap hroot (fun _ hspec => ?_)
      fun h => .cons h (parentless_items (at?_key_eq_none h "ports") _)
    exact withinEach_eq_filterMap hspec fun _ _ hport => require_eq_filterMap hport

/-! ## Structures without findings -/

variable {place : Place}

theorem within_eq_nil_iff :
    k.within r place name below = [] ↔
      ∃ node, place.node.get? name = some node ∧ below ⟨place.path.key name, node⟩ = [] := by
  rw [within]
  cases place.node.get? name with
  | none => exact iff_of_false (List.cons_ne_nil _ _) fun ⟨_, h, _⟩ => nomatch h
  | some node =>
    refine ⟨fun h => ⟨node, rfl, h⟩, ?_⟩
    rintro ⟨_, ⟨⟩, h⟩
    exact h

theorem require_eq_nil_iff : k.require r place name = [] ↔ place.node.hasKey name = true := by
  rw [require, within_eq_nil_iff, Document.hasKey, Option.isSome_iff_exists]
  exact exists_congr fun node => and_iff_left rfl

theorem withinEach_eq_nil_iff :
    k.withinEach r place name below = [] ↔
      ∃ items, place.node.get? name = some (.sequence items) ∧ items ≠ [] ∧
        ∀ x ∈ items.zipIdx, below ⟨(place.path.key name).index x.2, x.1⟩ = [] := by
  rw [withinEach, within_eq_nil_iff]
  constructor
  · rintro ⟨list, hlist, h⟩
    split at h
    · rename_i d ds hitems
      obtain rfl : list = .sequence (d :: ds) := hitems
      exact ⟨d :: ds, hlist, List.cons_ne_nil d ds, List.flatMap_eq_nil_iff.1 h⟩
    · exact nomatch h
  · rintro ⟨items, hlist, hne, h⟩
    obtain ⟨d, ds, rfl⟩ := List.exists_cons_of_ne_nil hne
    exact ⟨_, hlist, List.flatMap_eq_nil_iff.2 h⟩

/-- **A deployment without findings** has a selector and containers, each with
a name and an image. -/
theorem check_deployment_eq_nil_iff :
    deployment.check r = [] ↔ ∃ spec template pod containers,
      r.document.get? "spec" = some spec ∧ spec.hasKey "selector" = true ∧
      spec.get? "template" = some template ∧ template.get? "spec" = some pod ∧
      pod.get? "containers" = some (.sequence containers) ∧ containers ≠ [] ∧
      ∀ c ∈ containers, c.hasKey "name" = true ∧ c.hasKey "image" = true := by
  simp only [check, within_eq_nil_iff, withinEach_eq_nil_iff, require_eq_nil_iff,
    List.append_eq_nil_iff]
  constructor
  · rintro ⟨spec, hspec, hselector, template, htemplate, pod, hpod, containers, hlist, hne, h⟩
    exact ⟨spec, template, pod, containers, hspec, hselector, htemplate, hpod, hlist, hne,
      forall_mem_zipIdx_iff.1 h⟩
  · rintro ⟨spec, template, pod, containers, hspec, hselector, htemplate, hpod, hlist, hne, h⟩
    exact ⟨spec, hspec, hselector, template, htemplate, pod, hpod, containers, hlist, hne,
      forall_mem_zipIdx_iff.2 h⟩

/-- **A service without findings** has ports. -/
theorem check_service_eq_nil_iff :
    service.check r = [] ↔ ∃ spec ports, r.document.get? "spec" = some spec ∧
      spec.get? "ports" = some (.sequence ports) ∧ ports ≠ [] ∧
      ∀ p ∈ ports, p.hasKey "port" = true := by
  simp only [check, within_eq_nil_iff, withinEach_eq_nil_iff, require_eq_nil_iff]
  constructor
  · rintro ⟨spec, hspec, ports, hlist, hne, h⟩
    exact ⟨spec, ports, hspec, hlist, hne, forall_mem_zipIdx_iff.1 h⟩
  · rintro ⟨spec, ports, hspec, hlist, hne, h⟩
    exact ⟨spec, hspec, ports, hlist, hne, forall_mem_zipIdx_iff.2 h⟩

/-! ## No field twice -/

theorem index_injective (path : Path) : Function.Injective path.index := by
  intro i j h
  have hsegments : path.segments ++ [Segment.index i] = path.segments ++ [.index j] :=
    congrArg Path.segments h
  rw [List.append_cancel_left_eq, List.cons.injEq, Segment.index.injEq] at hsegments
  exact hsegments.1

theorem nodup_itemPaths (d : Document) (path : Path) : (d.itemPaths path).Nodup := by
  rw [Document.itemPaths]
  split
  · rename_i items _
    have hpositions : items.zipIdx.map (fun x => path.index x.2) =
        (List.range' 0 items.length).map path.index := by
      rw [← List.zipIdx_map_snd 0 items, List.map_map]
      rfl
    rw [hpositions]
    exact List.Nodup.map (index_injective path) List.nodup_range'
  · exact List.nodup_nil

theorem depth_of_mem_itemPaths {d : Document} {p : Path} (h : p ∈ d.itemPaths path) :
    p.depth = path.depth + 1 := by
  rw [Document.itemPaths] at h
  split at h
  · obtain ⟨x, -, rfl⟩ := List.mem_map.1 h
    exact Path.depth_child path _
  · exact nomatch h

/-- Fields above a list of items and fields of the items, none of them twice. -/
theorem nodup_append_items {above : List Requirement} (d : Document) (names : List String)
    (habove : above.Nodup) (hnames : names.Nodup)
    (hdepth : ∀ q ∈ above, q.parent.depth ≤ path.depth) :
    (above ++ (d.itemPaths path).flatMap fun p =>
      names.map fun name => Requirement.mk p name false).Nodup := by
  have hparent : ∀ p, ∀ q ∈ names.map fun name => Requirement.mk p name false, q.parent = p := by
    intro p q hq
    obtain ⟨name, -, rfl⟩ := List.mem_map.1 hq
    rfl
  refine List.nodup_append.2 ⟨habove, List.nodup_flatMap.2 ⟨fun p _ => ?_, ?_⟩, ?_⟩
  · refine hnames.map fun name other h => ?_
    exact congrArg Requirement.name h
  · refine (nodup_itemPaths d path).imp fun {p p'} hne q hq hq' => hne ?_
    rw [← hparent p q hq, hparent p' q hq']
  -- a field of an item is one level further down
  · rintro q hq _ hq' rfl
    obtain ⟨p, hp, hfield⟩ := List.mem_flatMap.1 hq'
    have hshort := hdepth q hq
    rw [hparent p q hfield, depth_of_mem_itemPaths hp] at hshort
    omega

/-- No field is required twice. -/
theorem nodup_requirements (k : StructuredKind) (d : Document) : (k.requirements d).Nodup := by
  cases k with
  | deployment =>
    exact nodup_append_items d ["name", "image"] (by decide) (by decide) (by decide)
  | service => exact nodup_append_items d ["port"] (by decide) (by decide) (by decide)

/-! ## The structure of the resource's own kind -/

theorem validate_eq (k : StructuredKind) (r : Resource) :
    k.validate r = if r.kindName? = some k.name then k.check r else [] := by
  rw [validate]
  cases r.kindName? with
  | none => rfl
  | some name =>
    simp [kindNames]

end StructuredKind

namespace Resource

open StructuredKind (deployment service validate_eq)

variable {r : Resource}

/-- Other names are of no kind with a structure. -/
theorem structure?_ofName_eq_none {name : String} (hdeployment : name ≠ "Deployment")
    (hservice : name ≠ "Service") : (ResourceKind.ofName name).structure? = none := by
  unfold ResourceKind.ofName
  split
  · exact absurd rfl hdeployment
  · rfl
  · rfl
  · exact absurd rfl hservice
  · rfl
  · rfl
  · rfl

/-- **The resource's own kind picks the one structure that applies.** -/
theorem checkStructure_eq_append (r : Resource) :
    r.checkStructure = deployment.validate r ++ service.validate r := by
  rw [checkStructure, kind?, validate_eq, validate_eq]
  cases hkind : r.kindName? with
  | none => rfl
  | some name =>
    by_cases hdeployment : name = "Deployment"
    · subst hdeployment
      change deployment.validate r = _
      rw [validate_eq, hkind]
      exact (List.append_nil _).symm
    · by_cases hservice : name = "Service"
      · subst hservice
        change service.validate r = _
        rw [validate_eq, hkind]
        rfl
      · have hdeployment' : some name ≠ some deployment.name := mt Option.some.inj hdeployment
        have hservice' : some name ≠ some service.name := mt Option.some.inj hservice
        rw [Option.map_some, Option.bind_some, structure?_ofName_eq_none hdeployment hservice,
          if_neg hdeployment', if_neg hservice']
        rfl

theorem checkStructure_eq_check {k : StructuredKind} (h : r.kindName? = some k.name) :
    r.checkStructure = k.check r := by
  have hapart : some deployment.name ≠ some service.name := by decide
  rw [checkStructure_eq_append, validate_eq, validate_eq, h]
  cases k with
  | deployment => rw [if_pos rfl, if_neg hapart, List.append_nil]
  | service => rw [if_neg hapart.symm, if_pos rfl, List.nil_append]

/-- **The check of a structure is sound and complete.** It reports nothing on a
deployment or a service exactly when all that is asked for is there, and
nothing on any other kind. Otherwise it reports what is wrong with the fields
that are required, in their order, each field once: one that its parent does
not have, and one that has to be a list with items and is not. Of fields whose
parent is not there it reports nothing. The check that the kind picks is also
what the checks of all structures come to together. -/
theorem checkStructure_finds_faults (r : Resource) :
    (r.kindName? = some "Deployment" →
      (r.checkStructure = [] ↔ ∃ spec template pod containers,
        r.document.get? "spec" = some spec ∧ spec.hasKey "selector" = true ∧
        spec.get? "template" = some template ∧ template.get? "spec" = some pod ∧
        pod.get? "containers" = some (.sequence containers) ∧ containers ≠ [] ∧
        ∀ c ∈ containers, c.hasKey "name" = true ∧ c.hasKey "image" = true)) ∧
    (r.kindName? = some "Service" →
      (r.checkStructure = [] ↔ ∃ spec ports, r.document.get? "spec" = some spec ∧
        spec.get? "ports" = some (.sequence ports) ∧ ports ≠ [] ∧
        ∀ p ∈ ports, p.hasKey "port" = true)) ∧
    (r.kindName? ≠ some "Deployment" → r.kindName? ≠ some "Service" → r.checkStructure = []) ∧
    (∀ k : StructuredKind, r.kindName? = some k.name →
      r.checkStructure = (k.requirements r.document).filterMap (Requirement.fault? k r)) ∧
    (∀ k : StructuredKind, (k.requirements r.document).Nodup) ∧
    r.checkStructure = deployment.validate r ++ service.validate r := by
  refine ⟨fun h => ?deployment, fun h => ?service, fun hdeployment hservice => ?other,
    fun k h => ?faults, fun k => StructuredKind.nodup_requirements k _, checkStructure_eq_append r⟩
  case deployment =>
    rw [checkStructure_eq_check (k := deployment) h]
    exact StructuredKind.check_deployment_eq_nil_iff
  case service =>
    rw [checkStructure_eq_check (k := service) h]
    exact StructuredKind.check_service_eq_nil_iff
  case other =>
    have hdeployment' : r.kindName? ≠ some deployment.name := hdeployment
    have hservice' : r.kindName? ≠ some service.name := hservice
    rw [checkStructure_eq_append, validate_eq, validate_eq, if_neg hdeployment', if_neg hservice',
      List.append_nil]
  case faults =>
    rw [checkStructure_eq_check h]
    exact StructuredKind.check_eq_filterMap_requirements k r

/-- A deployment without a selector, the second of its containers without an image. -/
def selectorless : Resource where
  subject := { artifact := "in" }
  document :=
    .mapping [("kind", .string "Deployment"), ("spec", .mapping [("template", .mapping [("spec",
      .mapping [("containers", .sequence
        [.mapping [("image", .string "web:1"), ("name", .string "web")],
          .mapping [("name", .string "log")]])])])])]

/-- A resource of a kind, with nothing else. -/
def bareOf (kind : String) : Resource where
  subject := { artifact := "in" }
  document := .mapping [("kind", .string kind)]

/-- Both are reported, the selector first, and a structure with a fault is not
clean. A service with nothing else is not either, and a map of settings is. -/
theorem checkStructure_finds_faults_selectorless :
    selectorless.kindName? = some "Deployment" ∧
      selectorless.checkStructure.map (fun f => (f.code, f.path)) =
        [("KM2001", some "spec.selector"),
          ("KM2001", some "spec.template.spec.containers[1].image")] ∧
      selectorless.checkStructure ≠ [] ∧
      (bareOf "Service").checkStructure ≠ [] ∧ (bareOf "ConfigMap").checkStructure = [] := by
  have hkind : selectorless.kindName? = some "Deployment" := rfl
  obtain ⟨hclean, -, -, hfaults, -, -⟩ := checkStructure_finds_faults selectorless
  obtain ⟨-, hservice, -, -, -, -⟩ := checkStructure_finds_faults (bareOf "Service")
  obtain ⟨-, -, hother, -, -, -⟩ := checkStructure_finds_faults (bareOf "ConfigMap")
  refine ⟨hkind, ?_, fun hnil => ?_, fun hnil => ?_, hother (by decide) (by decide)⟩
  · rw [hfaults deployment hkind]
    decide
  · obtain ⟨spec, template, pod, containers, hspec, hselector, -⟩ := (hclean hkind).1 hnil
    obtain rfl := Option.some.inj hspec
    exact absurd hselector (by decide)
  · obtain ⟨spec, ports, hspec, -⟩ := (hservice rfl).1 hnil
    exact nomatch hspec

end Resource

end DeployLint
