import DeployLint.Proofs.Chart.Limits
import DeployLint.Proofs.Quantity.Totals

/-!
# Charts — the search for limits beside the sum of requests

Two walks look at the resources of the same nodes. The search for limits ends
at the first node that sets any, and takes `limits` and `requests` of any
kind; the sum of requests goes on to the end, and reads `requests` only where
it is a mapping. So whatever is summed has been found before
(`hasLimits_of_requests`), and where the search finds nothing the sum is zero.
The search is also told node by node: up to the first that sets limits, and no
further (`walk_search_of_first`).
-/

namespace DeployLint

namespace Chart

open Progress (GoesOn)
open Totals (requests? requestsWithin)

variable {values node requests : Document} {depth deeper : Nat}

/-! ## One node -/

/-- What the search does at a node: it ends if the node limits resources. -/
def search (_ : Path) (node : Document) (_ : Unit) : Progress Unit :=
  if setsLimits node then .halt () else .goOn ()

theorem search_of_setsLimits (h : SetsLimits node) (p : Path) : search p node () = .halt () :=
  if_pos (setsLimits_iff.2 h)

theorem search_of_not_setsLimits (h : ¬ SetsLimits node) (p : Path) :
    search p node () = .goOn () :=
  if_neg (mt setsLimits_iff.1 h)

/-- **A node that requests something limits resources.** -/
theorem setsLimits_of_requests (h : requests? node = some requests) : SetsLimits node := by
  obtain ⟨resources, hresources, hmapping, hrequests, -⟩ := Totals.requests?_eq_some_iff.1 h
  refine ⟨resources, hresources, hmapping, .inr ?_⟩
  rw [Document.hasKey, hrequests]
  rfl

/-! ## The nodes of a walk -/

/-- The search goes on over nodes that set no limits. -/
theorem goesOn_search {nodes : List (Path × Document)} (h : ∀ x ∈ nodes, ¬ SetsLimits x.2) :
    GoesOn (fun x => search x.1 x.2) nodes () () := by
  induction nodes with
  | nil => exact .nil ()
  | cons x nodes ih =>
    obtain ⟨hx, hnodes⟩ := List.forall_mem_cons.1 h
    exact .cons (search_of_not_setsLimits hx x.1) (ih hnodes)

/-- **The search is called on the nodes up to the first that sets limits**,
and ends there. -/
theorem walk_search_of_first {before after : List (Path × Document)} {x : Path × Document}
    (hnodes : values.nodes depth = before ++ x :: after) (hx : SetsLimits x.2)
    (hbefore : ∀ y ∈ before, ¬ SetsLimits y.2) :
    values.walk depth (Document.recording search) ((), []) = .halt ((), before ++ [x]) := by
  have hrun : values.walk depth (Document.recording search) ((), []) =
      Progress.runAll (Progress.recorded fun x => search x.1 x.2) (values.nodes depth) ((), []) :=
    Document.walk_eq values depth ((), [])
  rw [hrun, Progress.runAll_recorded_eq_halt_iff]
  exact ⟨before, x, after, (), hnodes, rfl, goesOn_search hbefore, search_of_setsLimits hx x.1⟩

/-- A deeper search finds what a shallower one does. -/
theorem hasLimits_mono (hvalues : values.Ordered) (hdepth : depth ≤ deeper)
    (h : hasLimits values depth = true) : hasLimits values deeper = true :=
  (hasLimits_iff hvalues).2 (((hasLimits_iff hvalues).1 h).mono hdepth)

/-! ## The sum of requests -/

/-- **Whatever is summed is found**, at the same depth. -/
theorem hasLimits_of_requests (h : requests ∈ requestsWithin values depth) :
    hasLimits values depth = true := by
  obtain ⟨x, hx, hrequests⟩ := List.mem_filterMap.1 h
  rw [hasLimits_eq_any, List.any_eq_true]
  exact ⟨x, hx, setsLimits_iff.2 (setsLimits_of_requests hrequests)⟩

/-- So where the search finds nothing there is nothing to sum. -/
theorem ofDocument_of_not_hasLimits (h : hasLimits values depth = false) :
    Totals.ofDocument values depth = Totals.zero := by
  have hnone : requestsWithin values depth = [] :=
    List.eq_nil_iff_forall_not_mem.2 fun requests hmem =>
      Bool.false_ne_true (h.symm.trans (hasLimits_of_requests hmem))
  rw [Totals.ofDocument_eq, hnone, List.foldl_nil]

/-- **A search for limits finds what there is, and all that is summed.** It
succeeds exactly if some place no deeper than its depth holds a mapping
`resources` with `limits` or `requests`, though it ends at the first such node
of the walk; a deeper one succeeds where it does. The sum of the requests of
the same document down to the same depth runs over the mappings `requests`
that the nodes have; where there is one the search succeeds, so where it does
not the sum is zero. -/
theorem hasLimits_finds (hvalues : values.Ordered) (depth : Nat) :
    (hasLimits values depth = true ↔ ∃ p n resources, p.depth ≤ depth ∧ values.at? p = some n ∧
      n.get? "resources" = some resources ∧ resources.isMapping = true ∧
      (resources.hasKey "limits" = true ∨ resources.hasKey "requests" = true)) ∧
    (∀ before x after, values.nodes depth = before ++ x :: after → SetsLimits x.2 →
      (∀ y ∈ before, ¬ SetsLimits y.2) →
      values.walk depth (Document.recording search) ((), []) = .halt ((), before ++ [x])) ∧
    (∀ deeper, depth ≤ deeper → hasLimits values depth = true →
      hasLimits values deeper = true) ∧
    (Totals.ofDocument values depth = (requestsWithin values depth).foldl
      (fun total requests => total + Totals.ofRequests requests) Totals.zero) ∧
    ((∃ requests, requests ∈ requestsWithin values depth) → hasLimits values depth = true) ∧
    (hasLimits values depth = false → Totals.ofDocument values depth = Totals.zero) := by
  refine ⟨?found, fun _ _ _ => walk_search_of_first, fun _ => hasLimits_mono hvalues,
    Totals.ofDocument_eq values depth, ?summed, ofDocument_of_not_hasLimits⟩
  case found =>
    rw [hasLimits_iff hvalues]
    simp only [LimitsWithin, SetsLimits, exists_and_left]
  case summed =>
    rintro ⟨requests, hrequests⟩
    exact hasLimits_of_requests hrequests

/-- Values with a sidecar whose requests lie three steps below the root. -/
def sidecar : Document :=
  .mapping [("worker", .mapping [("sidecars", .sequence
    [.mapping [("name", .string "proxy"),
      ("resources", .mapping [("requests", .mapping [("cpu", .string "100m")])])]])])]

/-- Down to depth three the requests are summed and found, and deeper, too.
Above them neither sees anything. -/
theorem hasLimits_finds_sidecar :
    sidecar.Ordered ∧
      requestsWithin sidecar 3 = [.mapping [("cpu", .string "100m")]] ∧
      hasLimits sidecar 3 = true ∧ hasLimits sidecar 64 = true ∧
      hasLimits sidecar 2 = false ∧ Totals.ofDocument sidecar 2 = Totals.zero := by
  have hrequests : (Document.mapping [("requests", .mapping [("cpu", .string "100m")])]).Ordered := by
    refine .mapping (by decide) (List.forall_mem_singleton.2 ?_)
    exact .mapping (by decide) (List.forall_mem_singleton.2 (.scalar _))
  have hordered : sidecar.Ordered := by
    refine .mapping (by decide) (List.forall_mem_singleton.2 ?_)
    refine .mapping (by decide) (List.forall_mem_singleton.2 (.sequence ?_))
    refine List.forall_mem_singleton.2 (.mapping (by decide) ?_)
    exact List.forall_mem_cons.2 ⟨.scalar _, List.forall_mem_singleton.2 hrequests⟩
  obtain ⟨-, -, hdeeper, -, hsummed, -⟩ := hasLimits_finds hordered 3
  obtain ⟨-, -, -, -, -, hzero⟩ := hasLimits_finds hordered 2
  have hfound : hasLimits sidecar 3 = true := hsummed ⟨_, List.mem_singleton.2 rfl⟩
  have hmissed : hasLimits sidecar 2 = false := by decide
  exact ⟨hordered, rfl, hfound, hdeeper 64 (by decide) hfound, hmissed, hzero hmissed⟩

end Chart

end DeployLint
