import DeployLint.Proofs.Finding.Places
import DeployLint.Proofs.Resource.Findings

/-!
# Resources — where their findings point

A check on a resource looks parts of its document up and writes a path down
beside each look-up. The two agree at every place where a finding is made:
check by check, all findings point into the document (`Points`), up to
`points_resource`. Only the quantities need the document to be ordered, since
they are found by a walk and not by look-ups.
-/

namespace DeployLint

open Finding (All PointsInto pointsInto_node pointsInto_gap pointsInto_untold)
open Document (at?_key_of_get? has_key lacks_key lacks_of_mem_filter)

namespace Resource

variable {r : Resource}

/-- A finding points into the resource's document. -/
def Points (r : Resource) (f : Finding) : Prop := f.PointsInto r.document r.subject

/-! ## Metadata -/

theorem points_checkFields (r : Resource) : All r.Points r.checkFields := by
  rw [checkFields]
  refine All.append ?top ?nameless
  case top =>
    refine All.map fun name hname => ?_
    have hlacks : r.document.Lacks (Path.root.key name) := lacks_of_mem_filter rfl hname
    exact pointsInto_gap rfl hlacks _ _
  case nameless =>
    split
    · rename_i fields hmetadata
      have hplace : r.document.at? (Path.root.key "metadata") = some (.mapping fields) :=
        at?_key_of_get? rfl hmetadata
      split
      · rename_i hnameless
        rw [Bool.and_eq_true, Option.isNone_iff_eq_none] at hnameless
        obtain ⟨-, hnone⟩ := hnameless
        exact All.singleton (pointsInto_gap rfl (lacks_key hplace hnone) _ _)
      · exact All.nil
    · exact All.nil

theorem points_checkVersionAndKind (r : Resource) : All r.Points r.checkVersionAndKind := by
  have hfinding : ∀ {name text : String} {rule : Rule} {message : String},
      rule.target? = some .node → (r.document.get? name).map Document.text = some text →
        r.Points (r.finding rule .error (.ofKeys [name]) message) := by
    intro name text rule message hrule htext
    obtain ⟨n, hn, -⟩ := Option.map_eq_some_iff.1 htext
    exact pointsInto_node hrule (has_key (p := .root) rfl hn) _ _
  rw [checkVersionAndKind]
  refine All.append ?version ?kind
  case version =>
    split
    · exact All.nil
    · rename_i text htext
      exact All.singleton_unless (hfinding rfl htext)
  case kind =>
    split
    · exact All.nil
    · rename_i text htext
      exact All.singleton_unless (hfinding rfl htext)

/-- The rule that a name breaks is about a name that is missing, or about
one that is there. -/
theorem name_ne_empty_of_nameFault? {limits : NamingLimits} {name message : String} {rule : Rule}
    (h : nameFault? limits name = some (rule, message)) :
    rule = .missingName ∨ rule.target? = some .node ∧ name ≠ "" := by
  rw [nameFault?] at h
  split at h
  · exact .inl (Prod.mk.inj (Option.some.inj h)).1.symm
  · rename_i hname
    have hne : name ≠ "" := by
      rintro rfl
      exact hname rfl
    have htarget : ∀ {other : Rule} {text : String}, some (other, text) = some (rule, message) →
        other.target? = some .node → rule.target? = some .node := by
      intro other text heq hother
      obtain rfl := (Prod.mk.inj (Option.some.inj heq)).1
      exact hother
    have hrule : rule.target? = some .node := by
      split at h
      · exact htarget h rfl
      · split at h
        · exact htarget h rfl
        · split at h
          · exact htarget h rfl
          · cases h
    exact .inr ⟨hrule, hne⟩

/-- A name that is not empty is the text of a node. -/
theorem has_name (h : r.name?.getD "" ≠ "") :
    r.document.Has (.ofKeys ["metadata", "name"]) := by
  cases hname : r.name? with
  | none =>
    rw [hname] at h
    exact absurd rfl h
  | some name =>
    obtain ⟨n, hn, -⟩ := Option.bind_eq_some_iff.1 hname
    exact ⟨n, (Document.at?_ofKeys _ _).trans hn⟩

theorem points_checkName (r : Resource) (limits : NamingLimits) :
    All r.Points (r.checkName limits) := by
  rw [checkName]
  split
  · exact All.singleton (pointsInto_untold rfl _ _)
  · split
    · exact All.nil
    · rename_i rule message hfault
      rcases name_ne_empty_of_nameFault? hfault with rfl | ⟨hrule, hname⟩
      · exact All.singleton (pointsInto_untold rfl _ _)
      · exact All.singleton (pointsInto_node hrule (has_name hname) _ _)

/-- An entry of a mapping that two keys lead to is at the path of its name. -/
theorem has_entry {outer inner name : String} {fields : Fields Document}
    (hfields : (r.document.getPath? [outer, inner]).bind Document.asMapping? = some fields)
    (hname : name ∈ fields.names) : r.document.Has ((Path.ofKeys [outer, inner]).key name) := by
  obtain ⟨n, hn, hmapping⟩ := Option.bind_eq_some_iff.1 hfields
  obtain rfl := Document.asMapping?_eq_some_iff.1 hmapping
  have hplace : r.document.at? (.ofKeys [outer, inner]) = some (.mapping fields) :=
    (Document.at?_ofKeys _ _).trans hn
  obtain ⟨m, hm⟩ := Fields.exists_get?_of_mem_names hname
  exact has_key hplace hm

theorem points_checkLabels (r : Resource) (limits : NamingLimits) :
    All r.Points (r.checkLabels limits) := by
  rw [checkLabels]
  cases hlabels : r.labels? with
  | none => exact All.nil
  | some fields =>
    refine All.flatMap fun x hx => ?_
    have hplace : r.document.Has ((Path.ofKeys ["metadata", "labels"]).key x.1) :=
      has_entry hlabels (List.mem_map_of_mem hx)
    refine All.append ?key ?value
    case key => exact All.singleton_of (pointsInto_node rfl hplace _ _)
    case value => exact All.singleton_of (pointsInto_node rfl hplace _ _)

theorem points_checkAnnotations (r : Resource) (limits : NamingLimits) :
    All r.Points (r.checkAnnotations limits) := by
  rw [checkAnnotations]
  cases hannotations : r.annotations? with
  | none => exact All.nil
  | some fields =>
    refine All.flatMap fun key hkey => ?_
    have hplace : r.document.Has ((Path.ofKeys ["metadata", "annotations"]).key key) :=
      has_entry hannotations hkey
    rw [checkAnnotationKey]
    split
    · refine All.append ?domain ?name
      case domain => exact All.singleton_of (pointsInto_node rfl hplace _ _)
      case name => exact All.singleton_of (pointsInto_node rfl hplace _ _)
    · exact All.singleton_of (pointsInto_node rfl hplace _ _)

/-! ## Structure -/

/-- A place of the resource: its path leads to its node. -/
def IsPlace (r : Resource) (place : Place) : Prop :=
  r.document.at? place.path = some place.node

/-- **Looking down a structure keeps to the document.** A field that is there
is a place to look at, and the finding on one that is not points to where it
is missing. -/
theorem descent_isPlace (k : StructuredKind) (r : Resource) : Descent k r r.IsPlace r.Points where
  root := rfl
  field := fun hplace _ hnode => at?_key_of_get? hplace hnode
  item := fun hplace hnode hx =>
    Document.at?_index_of_getElem? (hplace.trans (congrArg some hnode))
      (List.mem_zipIdx_iff_getElem?.1 hx)
  missing := fun hplace _ hnone => pointsInto_gap rfl (lacks_key hplace hnone) _ _
  unlisted := fun hplace => pointsInto_node rfl ⟨_, hplace⟩ _ _

theorem points_checkStructure (r : Resource) : All r.Points r.checkStructure :=
  Descent.checkStructure fun k => descent_isPlace k r

/-! ## Permissions and quantities -/

/-- A rule of a role is at its position in the list of rules. -/
theorem at?_rule {x : Document × Nat} (hx : x ∈ r.roleRules.zipIdx) :
    r.document.at? ((Path.ofKeys ["rules"]).index x.2) = some x.1 := by
  have hitem : r.roleRules[x.2]? = some x.1 := List.mem_zipIdx_iff_getElem?.1 hx
  rw [roleRules] at hitem
  split at hitem
  · cases hrules : (r.document.get? "rules").bind Document.asSequence? with
    | none =>
      rw [hrules] at hitem
      exact nomatch hitem
    | some items =>
      rw [hrules] at hitem
      obtain ⟨n, hn, hsequence⟩ := Option.bind_eq_some_iff.1 hrules
      obtain rfl := Document.asSequence?_eq_some_iff.1 hsequence
      have hplace : r.document.at? (.ofKeys ["rules"]) = some (.sequence items) :=
        at?_key_of_get? (p := .root) rfl hn
      exact Document.at?_index_of_getElem? hplace hitem
  · exact nomatch hitem

theorem points_checkPermissions (r : Resource) (tables : SecurityTables) :
    All r.Points (r.checkPermissions tables) := by
  have hnode : ∀ rule ∈ grantRules, rule.target? = some .node := by decide
  refine All.flatMap fun x hx => All.map fun fault hfault => ?_
  exact pointsInto_node (hnode _ (severity_of_mem_faults hfault).1) ⟨x.1, at?_rule hx⟩ _ _

theorem points_shapeFinding? {rule : Rule} (hrule : rule.target? = some .node)
    (title name : String) (isPlausible : String → Bool) {path : Path} {values : Document}
    (hvalues : r.document.at? path = some values) :
    All r.Points
      (Quantity.shapeFinding? r.subject rule title name isPlausible path values).toList := by
  rw [Quantity.shapeFinding?]
  split
  · exact All.nil
  · rename_i text htext
    split
    · exact All.nil
    · obtain ⟨n, hn, -⟩ := Option.bind_eq_some_iff.1 htext
      exact All.singleton (pointsInto_node hrule (has_key hvalues hn) _ _)

/-- The quantities of an ordered document are looked for in its places: what
holds of the findings on every section that a path leads to holds of them all. -/
theorem all_checkQuantities {P : Finding → Prop} (hr : r.document.Ordered) (depth : Nat)
    (h : ∀ path values, r.document.at? path = some values →
      All P (Quantity.checkSection r.subject path values)) :
    All P (Quantity.check r.subject r.document depth) := by
  rw [Quantity.check_eq_flatMap]
  refine All.flatMap fun x hx => ?_
  obtain ⟨path, node⟩ := x
  -- the nodes that a walk meets are at their paths where the tree is ordered
  obtain ⟨-, hnode⟩ := (Document.mem_nodes_iff hr).1 hx
  simp only [Quantity.checkNode]
  split
  · exact All.nil
  · rename_i resources hresources
    have hplace : r.document.at? (path.key "resources") = some resources :=
      at?_key_of_get? hnode (Document.mappingAt?_eq_some_iff.1 hresources).1
    refine All.flatMap fun name _ => ?_
    split
    · exact All.nil
    · rename_i values hvalues
      exact h _ values (at?_key_of_get? hplace (Document.mappingAt?_eq_some_iff.1 hvalues).1)

theorem points_checkQuantities (hr : r.document.Ordered) (depth : Nat) :
    All r.Points (Quantity.check r.subject r.document depth) := by
  refine all_checkQuantities hr depth fun path values hvalues => All.append ?cpu ?memory
  case cpu => exact points_shapeFinding? rfl _ _ _ hvalues
  case memory => exact points_shapeFinding? rfl _ _ _ hvalues

/-! ## All rules -/

/-- **All findings of the rules on a resource point into its document.** -/
theorem points_resource (c : Config) (hr : r.document.Ordered) :
    All r.Points (Lint.resource c r) := by
  rw [Lint.resource]
  refine All.append (All.append (All.append (All.append (All.append (All.append (All.append
    ?fields ?versionAndKind) ?name) ?labels) ?annotations) ?shape) ?permissions) ?quantities
  case fields => exact points_checkFields r
  case versionAndKind => exact points_checkVersionAndKind r
  case name => exact points_checkName r c.naming
  case labels => exact points_checkLabels r c.naming
  case annotations => exact points_checkAnnotations r c.naming
  case shape => exact points_checkStructure r
  case permissions => exact points_checkPermissions r c.security
  case quantities => exact points_checkQuantities hr c.quota.depth

end Resource

end DeployLint
