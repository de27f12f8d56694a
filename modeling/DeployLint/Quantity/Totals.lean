import DeployLint.Quantity.Basic
import DeployLint.Config.Basic
import DeployLint.Document.Walk
import DeployLint.Finding
import DeployLint.Json.Writer

/-!
# Quantities — totals of what is requested

Wherever a document holds a mapping `resources` with a mapping `requests`,
what it requests counts toward the totals. Sums run from zero upward, in
the order of a walk and then in the order of the documents; a quantity that
cannot be read counts as zero.
-/

namespace DeployLint

/-- Amounts of processor time and memory. -/
structure Totals where
  cpuCores : Float := 0.0
  memoryMiB : Float := 0.0

namespace Totals

def zero : Totals := {}

def isZero (t : Totals) : Bool := t.cpuCores == 0.0 && t.memoryMiB == 0.0

instance : Add Totals where
  add a b := ⟨a.cpuCores + b.cpuCores, a.memoryMiB + b.memoryMiB⟩

/-- The sum of a list, from the left. -/
def sum (ts : List Totals) : Totals := ts.foldl (· + ·) zero

/-! ## Requests -/

/-- What a node requests: the mapping `requests` of its mapping `resources`. -/
def requests? (node : Document) : Option Document := do
  let resources ← node.mappingAt? "resources"
  resources.mappingAt? "requests"

/-- All that is requested within a document, in the order of a walk. -/
def requestsWithin (d : Document) (depth : Nat) : List Document :=
  (d.nodes depth).filterMap fun (_, node) => requests? node

/-- The amounts of one request. -/
def ofRequests (requests : Document) : Totals where
  cpuCores := ((requests.get? "cpu").bind Quantity.cores?).getD 0.0
  memoryMiB := ((requests.get? "memory").bind Quantity.miB?).getD 0.0

/-- What a walk does at a node: it adds what the node requests to the total so far. -/
def addNode (_ : Path) (node : Document) (total : Totals) : Progress Totals :=
  match requests? node with
  | some requests => .goOn (total + ofRequests requests)
  | none => .goOn total

/-- The total of a document, as a walk from zero leaves it. -/
def ofDocument (d : Document) (depth : Nat) : Totals := (d.walk depth addNode zero).state

/-- The total of a list of documents. -/
def ofDocuments (ds : List Document) (depth : Nat) : Totals :=
  sum (ds.map fun d => ofDocument d depth)

/-- Whether a document's kind counts toward quota totals. -/
def isWorkload (c : Config) (d : Document) : Bool :=
  ((d.get? "kind").bind Document.asString?).any c.isWorkloadKind

/-- The total of the documents whose kind counts. -/
def ofWorkloads (ds : List Document) (c : Config) : Totals :=
  ofDocuments (ds.filter (isWorkload c)) c.quota.depth

/-! ## What counting tells -/

/-- What counting one request tells: which of its quantities cannot be read. -/
def requestNotices (requests : Document) : List Notice :=
  let cpu :=
    match requests.get? "cpu" with
    | none => []
    | some node =>
      if (Quantity.cores? node).isSome then []
      else [.debug s!"Skipping unparseable CPU request: {node.text}"]
  let memory :=
    match requests.get? "memory" with
    | none => []
    | some node =>
      Quantity.miBNotices node ++
        if (Quantity.miB? node).isSome then []
        else [.debug s!"Skipping unparseable memory request: {node.text}"]
  cpu ++ memory

/-- What counting within a document tells. -/
def documentNotices (depth : Nat) (d : Document) : List Notice :=
  d.walkNotices depth (fun _ _ => false) ++ (requestsWithin d depth).flatMap requestNotices

/-- What counting within a list of documents tells. -/
def documentsNotices (ds : List Document) (depth : Nat) : List Notice :=
  ds.flatMap (documentNotices depth)

/-- What counting the documents whose kind counts tells. -/
def workloadsNotices (ds : List Document) (c : Config) : List Notice :=
  documentsNotices (ds.filter (isWorkload c)) c.quota.depth

/-! ## Limits -/

/-- The findings on totals: one for each that is over its limit. -/
def check (t : Totals) (limits : QuotaLimits) (subject : Subject) : List Finding :=
  let amount := Decimal.plain.write
  let cpu :=
    if limits.cpuCores < t.cpuCores then
      [Finding.graded .highCpuTotal .warning subject
        s!"High total CPU requests: {amount t.cpuCores} cores (limit {amount limits.cpuCores})"]
    else []
  let memory :=
    if limits.memoryMiB < t.memoryMiB then
      [Finding.graded .highMemoryTotal .warning subject
        (s!"High total memory requests: {amount t.memoryMiB}MiB " ++
          s!"(limit {amount limits.memoryMiB}MiB)")]
    else []
  cpu ++ memory

end Totals

end DeployLint
