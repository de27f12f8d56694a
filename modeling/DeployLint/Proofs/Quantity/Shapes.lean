import DeployLint.Proofs.Quantity.Totals
import DeployLint.Quantity.Shape

/-!
# Quantities — which texts are looked at

The rules on shapes look at the texts that stand for quantities in a document,
its `mentions`: at each node that a walk meets, those of its requests and then
those of its limits, processor time before memory. A finding is made of each
mention that does not look like a quantity (`check_eq_filterMap_mentions`), and
the mentions among the requests are the texts that the totals read
(`texts_requestsWithin`).
-/

namespace DeployLint

namespace Quantity

/-! ## The check as a list -/

/-- **The findings on a document are those on its nodes**, in the order of a walk. -/
theorem check_eq_flatMap (subject : Subject) (d : Document) (depth : Nat) :
    check subject d depth = (d.nodes depth).flatMap fun x => checkNode subject x.1 x.2 := by
  rw [check, List.flatMap_eq_foldl]
  have hvisit : ∀ p n found, addFindings subject p n found =
      .goOn (found ++ checkNode subject (p, n).1 (p, n).2) := fun _ _ _ => rfl
  exact congrArg Progress.state (Document.walk_goOn hvisit d depth [])

/-! ## Mentions -/

/-- What a quantity measures. -/
inductive Measure where
  | cpu
  | memory
deriving DecidableEq

namespace Measure

/-- The name of a quantity in a section. -/
def entry : Measure → String
  | cpu => "cpu"
  | memory => "memory"

/-- The rule on the shape of the texts. -/
def shapeRule : Measure → Rule
  | cpu => .suspiciousCpuQuantity
  | memory => .suspiciousMemoryQuantity

/-- The name in messages. -/
def title : Measure → String
  | cpu => "CPU"
  | memory => "memory"

def isPlausible : Measure → String → Bool
  | cpu => isPlausibleCpu
  | memory => isPlausibleMemory

end Measure

/-- A section of a node's resources. -/
inductive Section where
  | requests
  | limits
deriving DecidableEq

def Section.name : Section → String
  | requests => "requests"
  | limits => "limits"

/-- A text that stands for a quantity in a document. -/
structure Mention where
  /-- The path of the node whose resources it belongs to. -/
  owner : Path
  part : Section
  measure : Measure
  text : String

namespace Mention

/-- Where the text stands. -/
def path (q : Mention) : Path :=
  ((q.owner.key "resources").key q.part.name).key q.measure.entry

/-- The finding on a mention, if it does not look like a quantity. -/
def fault? (subject : Subject) (q : Mention) : Option Finding :=
  if q.measure.isPlausible q.text then none
  else
    some
      { code := q.measure.shapeRule.code
        severity := .warning
        subject := subject
        path := some q.path.text
        message := s!"Suspicious {q.measure.title} value '{q.text}'" }

/-- The order of mentions: by their owners in pre-order, then requests before
limits, then processor time before memory. -/
def Before (q r : Mention) : Prop :=
  q.owner.Before r.owner ∨ q.owner = r.owner ∧
    (q.part = .requests ∧ r.part = .limits ∨
      q.part = r.part ∧ q.measure = .cpu ∧ r.measure = .memory)

end Mention

/-- The text for a quantity of a node's resources. -/
def mentioned? (node : Document) (part : Section) (m : Measure) : Option String :=
  (node.mappingAt? "resources").bind fun resources =>
    (resources.mappingAt? part.name).bind fun values =>
      (values.get? m.entry).bind Document.asString?

/-- What a node mentions, in order. -/
def mentionsOf (owner : Path) (node : Document) : List Mention :=
  [Section.requests, .limits].flatMap fun part =>
    [Measure.cpu, .memory].filterMap fun m => (mentioned? node part m).map (⟨owner, part, m, ·⟩)

/-- What the nodes of a document mention, in the order of a walk. -/
def mentions (d : Document) (depth : Nat) : List Mention :=
  (d.nodes depth).flatMap fun x => mentionsOf x.1 x.2

variable {d node : Document} {owner : Path} {part : Section} {m : Measure} {text : String}
variable {depth : Nat} {q : Mention}

/-- A text is mentioned where there is a mapping, a mapping within, and the text within that. -/
theorem mentioned?_eq_some_iff :
    mentioned? node part m = some text ↔ ∃ resources values,
      node.get? "resources" = some resources ∧ resources.isMapping = true ∧
      resources.get? part.name = some values ∧ values.isMapping = true ∧
      values.get? m.entry = some (.string text) := by
  rw [mentioned?]
  constructor
  · intro h
    obtain ⟨resources, hresources, h⟩ := Option.bind_eq_some_iff.1 h
    obtain ⟨values, hvalues, h⟩ := Option.bind_eq_some_iff.1 h
    obtain ⟨value, hvalue, htext⟩ := Option.bind_eq_some_iff.1 h
    obtain ⟨hget, hmapping⟩ := Document.mappingAt?_eq_some_iff.1 hresources
    obtain ⟨hget', hmapping'⟩ := Document.mappingAt?_eq_some_iff.1 hvalues
    obtain rfl := Document.asString?_eq_some_iff.1 htext
    exact ⟨resources, values, hget, hmapping, hget', hmapping', hvalue⟩
  · rintro ⟨resources, values, hget, hmapping, hget', hmapping', hvalue⟩
    rw [Document.mappingAt?_eq_some_iff.2 ⟨hget, hmapping⟩, Option.bind_some,
      Document.mappingAt?_eq_some_iff.2 ⟨hget', hmapping'⟩, Option.bind_some, hvalue,
      Option.bind_some]
    exact Document.asString?_eq_some_iff.2 rfl

theorem mem_mentionsOf_iff :
    q ∈ mentionsOf owner node ↔
      q.owner = owner ∧ mentioned? node q.part q.measure = some q.text := by
  have hpart : q.part ∈ [Section.requests, .limits] := by cases q.part <;> decide
  have hmeasure : q.measure ∈ [Measure.cpu, .memory] := by cases q.measure <;> decide
  rw [mentionsOf, List.mem_flatMap]
  constructor
  · rintro ⟨part, -, hq⟩
    obtain ⟨m, -, hq⟩ := List.mem_filterMap.1 hq
    obtain ⟨text, htext, rfl⟩ := Option.map_eq_some_iff.1 hq
    exact ⟨rfl, htext⟩
  · rintro ⟨rfl, htext⟩
    refine ⟨q.part, hpart, List.mem_filterMap.2 ⟨q.measure, hmeasure, ?_⟩⟩
    rw [htext]
    rfl

/-- **The mentions of a document are the texts at their places**, down to the depth. -/
theorem mem_mentions_iff (hd : d.Ordered) :
    q ∈ mentions d depth ↔ q.owner.depth ≤ depth ∧
      ∃ node, d.at? q.owner = some node ∧ mentioned? node q.part q.measure = some q.text := by
  rw [mentions, List.mem_flatMap]
  constructor
  · rintro ⟨⟨owner, node⟩, hnode, hq⟩
    obtain ⟨rfl, htext⟩ := mem_mentionsOf_iff.1 hq
    obtain ⟨hdepth, hat⟩ := (Document.mem_nodes_iff hd).1 hnode
    exact ⟨hdepth, node, hat, htext⟩
  · rintro ⟨hdepth, node, hat, htext⟩
    exact ⟨(q.owner, node), (Document.mem_nodes_iff hd).2 ⟨hdepth, hat⟩,
      mem_mentionsOf_iff.2 ⟨rfl, htext⟩⟩

theorem mentionsOf_pairwise (owner : Path) (node : Document) :
    (mentionsOf owner node).Pairwise Mention.Before := by
  have hparts : [Section.requests, .limits].Pairwise fun p p' => p = .requests ∧ p' = .limits := by
    decide
  have hmeasures : [Measure.cpu, .memory].Pairwise fun m m' => m = .cpu ∧ m' = .memory := by
    decide
  refine List.pairwise_flatMap.2 ⟨fun part _ => ?measures, hparts.imp ?parts⟩
  case measures =>
    refine List.pairwise_filterMap.2 (hmeasures.imp ?_)
    rintro _ _ ⟨rfl, rfl⟩ q hq q' hq'
    obtain ⟨text, -, rfl⟩ := Option.map_eq_some_iff.1 hq
    obtain ⟨text', -, rfl⟩ := Option.map_eq_some_iff.1 hq'
    exact .inr ⟨rfl, .inr ⟨rfl, rfl, rfl⟩⟩
  case parts =>
    rintro _ _ ⟨rfl, rfl⟩ q hq q' hq'
    obtain ⟨m, -, hq⟩ := List.mem_filterMap.1 hq
    obtain ⟨m', -, hq'⟩ := List.mem_filterMap.1 hq'
    obtain ⟨text, -, rfl⟩ := Option.map_eq_some_iff.1 hq
    obtain ⟨text', -, rfl⟩ := Option.map_eq_some_iff.1 hq'
    exact .inr ⟨rfl, .inl ⟨rfl, rfl⟩⟩

/-- **The mentions of a document come in order.** -/
theorem mentions_pairwise (hd : d.Ordered) (depth : Nat) :
    (mentions d depth).Pairwise Mention.Before := by
  refine List.pairwise_flatMap.2 ⟨fun x _ => mentionsOf_pairwise x.1 x.2,
    (Document.nodesFrom_pairwise_before hd).imp fun {x y} hbefore q hq r hr => .inl ?_⟩
  rwa [(mem_mentionsOf_iff.1 hq).1, (mem_mentionsOf_iff.1 hr).1]

/-! ## The rules look at the mentions -/

theorem shapeFinding?_eq (subject : Subject) (owner : Path) (part : Section) (m : Measure)
    (values : Document) :
    shapeFinding? subject m.shapeRule m.title m.entry m.isPlausible
        ((owner.key "resources").key part.name) values =
      ((values.get? m.entry).bind Document.asString?).bind fun text =>
        Mention.fault? subject ⟨owner, part, m, text⟩ := by
  rw [shapeFinding?]
  cases (values.get? m.entry).bind Document.asString? with
  | none => rfl
  | some text => rfl

/-- **The findings on a node are those on what it mentions.** -/
theorem checkNode_eq_filterMap (subject : Subject) (owner : Path) (node : Document) :
    checkNode subject owner node =
      (mentionsOf owner node).filterMap (Mention.fault? subject) := by
  have hsections : sections = [Section.requests, .limits].map Section.name := rfl
  rw [checkNode, mentionsOf, List.filterMap_flatMap, hsections]
  cases hresources : node.mappingAt? "resources" with
  | none => simp [mentioned?, hresources]
  | some resources =>
    dsimp only
    rw [List.flatMap_map]
    refine List.flatMap_congr fun part _ => ?_
    cases hvalues : resources.mappingAt? part.name with
    | none => simp [mentioned?, hresources, hvalues]
    | some values =>
      have hread : ∀ m, mentioned? node part m = (values.get? m.entry).bind Document.asString? := by
        intro m
        rw [mentioned?, hresources, Option.bind_some, hvalues, Option.bind_some]
      have hfinding : ∀ m : Measure,
          shapeFinding? subject m.shapeRule m.title m.entry m.isPlausible
              ((owner.key "resources").key part.name) values =
            ((mentioned? node part m).map (⟨owner, part, m, ·⟩)).bind (Mention.fault? subject) := by
        intro m
        rw [shapeFinding?_eq, hread, Option.bind_map]
        rfl
      rw [List.filterMap_filterMap, List.filterMap_eq_flatMap_toList]
      simp only [← hfinding, List.flatMap_cons, List.flatMap_nil, List.append_nil]
      rfl

/-- **The findings on a document are those on what it mentions.** -/
theorem check_eq_filterMap_mentions (subject : Subject) (d : Document) (depth : Nat) :
    check subject d depth = (mentions d depth).filterMap (Mention.fault? subject) := by
  rw [check_eq_flatMap, mentions, List.filterMap_flatMap]
  simp only [checkNode_eq_filterMap]

/-! ## The totals read the mentions among the requests -/

/-- What a node requests and what it mentions are read in the same mapping. -/
theorem bind_requests?_eq (node : Document) (m : Measure) :
    ((Totals.requests? node).bind fun requests =>
        (requests.get? m.entry).bind Document.asString?) = mentioned? node .requests m :=
  Option.bind_assoc _ _ _

theorem texts_mentionsOf (owner : Path) (node : Document) (m : Measure) :
    ((mentionsOf owner node).filter fun q => q.part = .requests ∧ q.measure = m).map Mention.text =
      (mentioned? node .requests m).toList := by
  -- of the texts that a node may mention the filter keeps those of one section and measure
  have hone : ∀ (part : Section) (other : Measure),
      (((mentioned? node part other).map (Mention.mk owner part other)).toList.filter fun q =>
          q.part = .requests ∧ q.measure = m).map Mention.text =
        if part = .requests ∧ other = m then (mentioned? node part other).toList else [] := by
    intro part other
    cases mentioned? node part other with
    | none => exact (ite_self _).symm
    | some text =>
      by_cases h : part = .requests ∧ other = m
      · simp [h]
      · simp only [Option.map_some, Option.toList_some, List.filter_cons, decide_eq_true_eq, h,
          if_false, List.filter_nil, List.map_nil]
  simp only [mentionsOf, List.filterMap_eq_flatMap_toList, List.flatMap_cons, List.flatMap_nil,
    List.append_nil, List.filter_append, List.map_append, hone]
  cases m <;> simp

/-- **The texts that the totals read are the mentions among the requests.** -/
theorem texts_requestsWithin (d : Document) (depth : Nat) (m : Measure) :
    ((Totals.requestsWithin d depth).filterMap fun requests =>
        (requests.get? m.entry).bind Document.asString?) =
      ((mentions d depth).filter fun q => q.part = .requests ∧ q.measure = m).map Mention.text := by
  rw [Totals.requestsWithin, List.filterMap_filterMap, mentions, List.filter_flatMap,
    List.map_flatMap, List.filterMap_eq_flatMap_toList]
  simp only [bind_requests?_eq, texts_mentionsOf]

/-- **The rules on shapes find exactly the mentions of another shape**, down to
the depth and in their order. What is mentioned is said without the check: a
text in a section of the resources of a node, all of them mappings. The total
of the document is a sum over what its nodes request, and the texts that it is
read from are the mentions among the requests, in the same order. -/
theorem check_finds_mentions (subject : Subject) (hd : d.Ordered) (depth : Nat) :
    check subject d depth = (mentions d depth).filterMap (Mention.fault? subject) ∧
    (∀ q, q ∈ mentions d depth ↔ q.owner.depth ≤ depth ∧ ∃ node resources values,
      d.at? q.owner = some node ∧
      node.get? "resources" = some resources ∧ resources.isMapping = true ∧
      resources.get? q.part.name = some values ∧ values.isMapping = true ∧
      values.get? q.measure.entry = some (.string q.text)) ∧
    (mentions d depth).Pairwise Mention.Before ∧
    Totals.ofDocument d depth =
      (Totals.requestsWithin d depth).foldl
        (fun total requests => total + Totals.ofRequests requests) Totals.zero ∧
    ∀ m : Measure,
      ((Totals.requestsWithin d depth).filterMap fun requests =>
          (requests.get? m.entry).bind Document.asString?) =
        ((mentions d depth).filter fun q => q.part = .requests ∧ q.measure = m).map
          Mention.text := by
  refine ⟨check_eq_filterMap_mentions subject d depth, fun q => ?_, mentions_pairwise hd depth,
    Totals.ofDocument_eq d depth, texts_requestsWithin d depth⟩
  rw [mem_mentions_iff hd]
  refine and_congr_right fun _ => exists_congr fun node => ?_
  simp only [mentioned?_eq_some_iff, exists_and_left]

/-- A document with a fault in each section. -/
def twoFaults : Document :=
  .mapping [("resources", .mapping
    [("limits", .mapping [("cpu", .scalar (.int 2)), ("memory", .string "lots")]),
      ("requests", .mapping [("cpu", .string "half"), ("memory", .string "1Gi")])])]

/-- Requests come before limits, and a number is not looked at. -/
theorem check_finds_mentions_twoFaults :
    twoFaults.Ordered ∧
      (check ⟨"in", none⟩ twoFaults 64).map (fun f => (f.code, f.path)) =
        [("KM3001", some "resources.requests.cpu"), ("KM3002", some "resources.limits.memory")] ∧
      ((Totals.requestsWithin twoFaults 64).filterMap fun requests =>
        (requests.get? Measure.cpu.entry).bind Document.asString?) = ["half"] := by
  have hordered : twoFaults.Ordered := by
    refine .mapping (by decide) (List.forall_mem_singleton.2 ?_)
    refine .mapping (by decide) (List.forall_mem_cons.2 ⟨?_, List.forall_mem_singleton.2 ?_⟩)
    · refine .mapping (by decide) (List.forall_mem_cons.2 ⟨.scalar _, ?_⟩)
      exact List.forall_mem_singleton.2 (.scalar _)
    · refine .mapping (by decide) (List.forall_mem_cons.2 ⟨.scalar _, ?_⟩)
      exact List.forall_mem_singleton.2 (.scalar _)
  obtain ⟨hcheck, -, -, -, hread⟩ := check_finds_mentions ⟨"in", none⟩ hordered 64
  refine ⟨hordered, ?_, ?_⟩
  · rw [hcheck]
    decide
  · rw [hread]
    decide

end Quantity

end DeployLint
