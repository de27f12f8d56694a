import DeployLint.Lint
import DeployLint.Proofs.Config.Apply
import DeployLint.Proofs.Document.Walk

/-!
# Quantities — what the totals are sums of

A document is counted by a walk that carries a total along. The walk never
ends early, so the total it leaves is a sum from the left, over the requests
of the nodes in the order of the walk (`Totals.ofDocument_eq`). The totals
of a release are two more such sums, over the documents whose kind counts
and over the values. Amounts are added as floating-point numbers, for which
the order of a sum matters; so it is told, and not only what is added.
-/

namespace DeployLint

namespace Totals

variable {c : Config}

/-! ## What is counted -/

/-- A node requests what the mapping `requests` of its mapping `resources` holds. -/
theorem requests?_eq_some_iff {node requests : Document} :
    requests? node = some requests ↔ ∃ resources,
      node.get? "resources" = some resources ∧ resources.isMapping = true ∧
      resources.get? "requests" = some requests ∧ requests.isMapping = true := by
  constructor
  · intro h
    obtain ⟨resources, hresources, hrequests⟩ := Option.bind_eq_some_iff.1 h
    obtain ⟨hget, hismapping⟩ := Document.mappingAt?_eq_some_iff.1 hresources
    exact ⟨resources, hget, hismapping, Document.mappingAt?_eq_some_iff.1 hrequests⟩
  · rintro ⟨resources, hget, hismapping, hrequests⟩
    exact Option.bind_eq_some_iff.2
      ⟨resources, Document.mappingAt?_eq_some_iff.2 ⟨hget, hismapping⟩,
        Document.mappingAt?_eq_some_iff.2 hrequests⟩

/-- A document counts when its kind is a text, and one of the kinds that do. -/
theorem isWorkload_iff {d : Document} :
    isWorkload c d = true ↔ ∃ kind ∈ c.workloadKinds, d.get? "kind" = some (.string kind) := by
  rw [isWorkload, Option.any_eq_true]
  constructor
  · rintro ⟨kind, hkind, hcounts⟩
    obtain ⟨node, hnode, htext⟩ := Option.bind_eq_some_iff.1 hkind
    rw [Document.asString?_eq_some_iff.1 htext] at hnode
    exact ⟨kind, List.contains_iff_mem.1 hcounts, hnode⟩
  · rintro ⟨kind, hcounts, hnode⟩
    have hkind : (d.get? "kind").bind Document.asString? = some kind := by
      rw [hnode]
      rfl
    exact ⟨kind, hkind, List.contains_iff_mem.2 hcounts⟩

/-! ## What it comes to -/

/-- **A document's total is a sum from the left**, over what its nodes
request, in the order of a walk. -/
theorem ofDocument_eq (d : Document) (depth : Nat) :
    ofDocument d depth =
      (requestsWithin d depth).foldl (fun total requests => total + ofRequests requests) zero := by
  rw [requestsWithin, List.foldl_filterMap]
  refine congrArg Progress.state (Document.walk_goOn (fun p n total => ?_) d depth zero)
  cases hread : requests? n with
  | none => simp only [addNode, hread]
  | some requests => simp only [addNode, hread]

/-- The total of a list of documents is a sum from the left as well. -/
theorem ofDocuments_eq (ds : List Document) (depth : Nat) :
    ofDocuments ds depth = ds.foldl (fun total d => total + ofDocument d depth) zero :=
  List.foldl_map

/-- **The findings on totals**: one for each that is over its limit, that on
processor time first. -/
theorem map_code_check (t : Totals) (limits : QuotaLimits) (subject : Subject) :
    (t.check limits subject).map Finding.code =
      (if limits.cpuCores < t.cpuCores then ["AG1001"] else []) ++
        if limits.memoryMiB < t.memoryMiB then ["AG1002"] else [] := by
  rw [check, List.map_append, apply_ite (List.map Finding.code),
    apply_ite (List.map Finding.code)]
  rfl

end Totals

namespace Lint

open Totals (isWorkload requests? requestsWithin ofDocument)

/-- Documents that do not count are nothing to the report. -/
theorem releaseQuota_congr {ds ds' : List Document} {c : Config}
    (h : ds.filter (isWorkload c) = ds'.filter (isWorkload c)) (vs : List Document)
    (artifact : String) : releaseQuota ds vs artifact c = releaseQuota ds' vs artifact c := by
  have htotals : releaseTotals ds vs c = releaseTotals ds' vs c := by
    rw [releaseTotals, releaseTotals, Totals.ofWorkloads, Totals.ofWorkloads, h]
  rw [releaseQuota, releaseQuota, htotals]

/-- **What the report on a release counts.** Its totals are a sum from the
left over the documents whose kind counts, in their order, and one over the
values. In both, a document adds the sum from the left over the requests of
its nodes down to the depth limit, in pre-order, where an amount that is
absent or cannot be read is zero. The findings, before the configuration
settles them, are one for each total over its limit. So a document whose
kind does not count is nothing to the report, wherever it stands. -/
theorem releaseQuota_counts (ds vs : List Document) (artifact : String) (c : Config) :
    (releaseQuota ds vs artifact c).totals =
      some ((ds.filter (isWorkload c)).foldl
          (fun total d => total + ofDocument d c.quota.depth) ⟨0.0, 0.0⟩ +
        vs.foldl (fun total d => total + ofDocument d c.quota.depth) ⟨0.0, 0.0⟩) ∧
    (∀ d, isWorkload c d = true ↔
      ∃ kind ∈ c.workloadKinds, d.get? "kind" = some (.string kind)) ∧
    (∀ d, ofDocument d c.quota.depth =
      ((d.nodes c.quota.depth).filterMap fun x => requests? x.2).foldl
        (fun total requests => total +
          ⟨((requests.get? "cpu").bind Quantity.cores?).getD 0.0,
            ((requests.get? "memory").bind Quantity.miB?).getD 0.0⟩) ⟨0.0, 0.0⟩) ∧
    (∀ node requests, requests? node = some requests ↔ ∃ resources,
      node.get? "resources" = some resources ∧ resources.isMapping = true ∧
      resources.get? "requests" = some requests ∧ requests.isMapping = true) ∧
    (∀ d : Document, d.Ordered →
      (∀ p n, (p, n) ∈ d.nodes c.quota.depth ↔ p.depth ≤ c.quota.depth ∧ d.at? p = some n) ∧
      (d.nodes c.quota.depth).Pairwise fun x y => x.1.Before y.1) ∧
    (∃ found, (releaseQuota ds vs artifact c).findings = c.apply found ∧
      ∀ total ∈ (releaseQuota ds vs artifact c).totals, found.map Finding.code =
        (if c.quota.cpuCores < total.cpuCores then ["AG1001"] else []) ++
          if c.quota.memoryMiB < total.memoryMiB then ["AG1002"] else []) ∧
    (∀ before d after, isWorkload c d = false →
      releaseQuota (before ++ d :: after) vs artifact c =
        releaseQuota (before ++ after) vs artifact c) := by
  refine ⟨?totals, fun d => Totals.isWorkload_iff, fun d => Totals.ofDocument_eq d _,
    fun node requests => Totals.requests?_eq_some_iff, ?nodes, ?findings, ?others⟩
  case totals =>
    rw [← Totals.zero, ← Totals.ofDocuments_eq, ← Totals.ofDocuments_eq]
    rfl
  case nodes =>
    intro d hd
    exact ⟨fun p n => Document.mem_nodes_iff hd, Document.nodesFrom_pairwise_before hd⟩
  case findings =>
    refine ⟨(releaseTotals ds vs c).check c.quota { artifact := artifact },
      Report.findings_ofFindings _, ?_⟩
    intro total htotal
    obtain rfl := Option.some.inj htotal
    exact Totals.map_code_check _ _ _
  case others =>
    intro before d after hd
    refine releaseQuota_congr ?_ vs artifact
    rw [List.filter_append, List.filter_append, List.filter_cons_of_neg (by simp [hd])]

/-- A document of a kind, which requests a core. -/
def requestOf (kind : String) : Document :=
  .mapping [("kind", .string kind),
    ("resources", .mapping [("requests", .mapping [("cpu", .string "1")])])]

/-- Between two documents that count stands one that does not; the report is
the one without it. Its own node that requests is at the root. -/
theorem releaseQuota_counts_deployments :
    Totals.isWorkload {} (requestOf "Deployment") = true ∧
    releaseQuota [requestOf "Deployment", requestOf "Service", requestOf "Deployment"] [] "in" {} =
      releaseQuota [requestOf "Deployment", requestOf "Deployment"] [] "in" {} ∧
    (requestOf "Service").Ordered ∧ (.root, requestOf "Service") ∈ (requestOf "Service").nodes 64 ∧
    requests? (requestOf "Service") = some (.mapping [("cpu", .string "1")]) := by
  obtain ⟨-, hcounts, -, hrequests, hnodes, -, hothers⟩ :=
    releaseQuota_counts [requestOf "Deployment"] [] "in" {}
  have hordered : (requestOf "Service").Ordered := by
    refine .mapping (by decide) (List.forall_mem_cons.2 ⟨.scalar _, List.forall_mem_singleton.2 ?_⟩)
    refine .mapping (by decide) (List.forall_mem_singleton.2 ?_)
    exact .mapping (by decide) (List.forall_mem_singleton.2 (.scalar _))
  refine ⟨(hcounts _).2 ⟨"Deployment", by decide, rfl⟩, ?_, hordered, ?_, ?_⟩
  · exact hothers [requestOf "Deployment"] _ [requestOf "Deployment"] (by decide)
  · exact ((hnodes _ hordered).1 _ _).2 ⟨Nat.zero_le _, rfl⟩
  · exact (hrequests _ _).2 ⟨_, rfl, rfl, rfl, rfl⟩

end Lint

end DeployLint
