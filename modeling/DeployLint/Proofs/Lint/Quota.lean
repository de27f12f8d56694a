import DeployLint.Proofs.Chart.Limits
import DeployLint.Proofs.Decimal.Sums
import DeployLint.Proofs.Quantity.Amounts
import DeployLint.Proofs.Quantity.Shapes

/-!
# Linting — a quota and one document more

A total that is over its limit stays over it when a document is added to a
manifest, as long as the document's own total is not below zero
(`quota_reports_append`). That is so of every document whose amounts are not
below zero; but amounts are read with their signs, and a document that
requests less than nothing makes room for the others
(`not_quota_reports_append`).
-/

namespace DeployLint

namespace Quantity.Measure

open Totals (ofRequests ofDocument requestsWithin zero)

variable (m : Measure)

/-! ## What a quota limits -/

/-- The rule on totals over the limit. -/
def totalRule : Measure → Rule
  | cpu => .highCpuTotal
  | memory => .highMemoryTotal

/-- The amount that a node stands for. -/
def read? : Measure → Document → Option Float
  | cpu => cores?
  | memory => miB?

def total : Measure → Totals → Float
  | cpu => Totals.cpuCores
  | memory => Totals.memoryMiB

def limit : Measure → QuotaLimits → Float
  | cpu => QuotaLimits.cpuCores
  | memory => QuotaLimits.memoryMiB

theorem total_zero : m.total zero = 0.0 := by cases m <;> rfl

theorem total_add (a b : Totals) : m.total (a + b) = m.total a + m.total b := by
  cases m <;> rfl

theorem total_ofRequests (requests : Document) :
    m.total (ofRequests requests) = ((requests.get? m.entry).bind m.read?).getD 0.0 := by
  cases m <;> rfl

/-- An amount is zero or above, unless its text may lower a total. -/
theorem nonneg_or_mayLower {node : Document} {amount : Float} (h : m.read? node = some amount) :
    0.0 ≤ amount ∨ ∃ text, text? node = some text ∧ MayLower text.toList := by
  cases m with
  | cpu => exact nonneg_or_mayLower_of_cores? h
  | memory => exact nonneg_or_mayLower_of_miB? h

/-- A rule on totals reports those over its limit. -/
theorem reports_check_iff {t : Totals} {limits : QuotaLimits} {subject : Subject} :
    Finding.Reports (t.check limits subject) m.totalRule ↔ m.limit limits < m.total t := by
  have hother : Rule.highMemoryTotal.code ≠ Rule.highCpuTotal.code := by decide
  rw [Totals.check, Finding.reports_append, Finding.reports_ite_iff, Finding.reports_ite_iff]
  cases m with
  | cpu => exact (or_iff_left fun h => hother h.2).trans (and_iff_left rfl)
  | memory => exact (or_iff_right fun h => hother h.2.symm).trans (and_iff_left rfl)

/-! ## Which documents may lower a total -/

/-- A sum from the left that begins at zero or above stays there, unless a
request is below. -/
theorem exists_of_not_nonneg_foldl {requested : List Document} {start : Totals}
    (hstart : 0.0 ≤ m.total start)
    (h : ¬ 0.0 ≤ m.total (requested.foldl (fun total r => total + ofRequests r) start)) :
    ∃ requests ∈ requested, ¬ 0.0 ≤ m.total (ofRequests requests) := by
  -- a request that is not below leaves a start from which the rest is summed
  induction requested generalizing start with
  | nil => exact absurd hstart h
  | cons requests rest ih =>
    by_cases hfirst : 0.0 ≤ m.total (ofRequests requests)
    · have hnext : 0.0 ≤ m.total (start + ofRequests requests) := by
        rw [total_add]
        exact Decimal.add_nonneg_of_nonneg hstart hfirst
      obtain ⟨r, hr, hbelow⟩ := ih hnext h
      exact ⟨r, List.mem_cons_of_mem _ hr, hbelow⟩
    · exact ⟨requests, List.mem_cons_self, hfirst⟩

/-- **A document's total is below zero, or no number, only by a request that
is**, and only a text that may lower a total is read as one. -/
theorem exists_of_not_nonneg_ofDocument {d : Document} {depth : Nat}
    (h : ¬ 0.0 ≤ m.total (ofDocument d depth)) :
    ∃ requests ∈ requestsWithin d depth, ∃ node amount text,
      requests.get? m.entry = some node ∧ m.read? node = some amount ∧ ¬ 0.0 ≤ amount ∧
      text? node = some text ∧ MayLower text.toList := by
  have hzero : 0.0 ≤ m.total zero := by
    rw [total_zero]
    decide
  rw [Totals.ofDocument_eq] at h
  obtain ⟨requests, hrequests, hbelow⟩ := m.exists_of_not_nonneg_foldl hzero h
  rw [total_ofRequests] at hbelow
  cases hread : (requests.get? m.entry).bind m.read? with
  | none =>
    rw [hread] at hbelow
    exact absurd (by decide) hbelow
  | some amount =>
    rw [hread] at hbelow
    obtain ⟨node, hnode, hamount⟩ := Option.bind_eq_some_iff.1 hread
    obtain ⟨text, htext, hlower⟩ := (m.nonneg_or_mayLower hamount).resolve_left hbelow
    exact ⟨requests, hrequests, node, amount, text, hnode, hamount, hbelow, htext, hlower⟩

end Quantity.Measure

namespace Lint

open Finding (Reports)
open Quantity (Measure MayLower text?)
open Totals (isWorkload requestsWithin ofDocument ofWorkloads)

variable {c : Config} {ds : List Document} {artifact : String} {m : Measure}

/-- A quota is reported as exceeded where the workloads' total is over the
limit, unless the rule is ignored. -/
theorem reports_quota_iff :
    Reports (quota ds artifact c).findings m.totalRule ↔
      c.isIgnored m.totalRule.code = false ∧ m.limit c.quota < m.total (ofWorkloads ds c) := by
  have hfindings : (quota ds artifact c).findings =
      c.apply ((releaseTotals ds [] c).check c.quota { artifact := artifact }) :=
    Report.findings_ofFindings _
  have htotal : m.total (releaseTotals ds [] c) = m.total (ofWorkloads ds c) + 0.0 := by
    rw [← m.total_zero, ← Measure.total_add]
    rfl
  have hover : Reports ((releaseTotals ds [] c).check c.quota { artifact := artifact }) m.totalRule ↔
      m.limit c.quota < m.total (ofWorkloads ds c) := by
    rw [Measure.reports_check_iff, htotal, Decimal.lt_add_zero_iff]
  rw [hfindings]
  constructor
  · intro h
    obtain ⟨f, hf, hcode⟩ := h
    obtain ⟨g, -, hreported, rfl⟩ := Config.mem_apply_iff.1 hf
    have hrule : g.code = m.totalRule.code := hcode
    rw [hrule] at hreported
    exact ⟨hreported, hover.1 ((Config.reports_apply_iff hreported).1 ⟨_, hf, hcode⟩)⟩
  · rintro ⟨hreported, h⟩
    exact (Config.reports_apply_iff hreported).2 (hover.2 h)

/-- One more document adds its total, if its kind counts. -/
theorem ofWorkloads_append (d : Document) :
    ofWorkloads (ds ++ [d]) c =
      if isWorkload c d then ofWorkloads ds c + ofDocument d c.quota.depth
      else ofWorkloads ds c := by
  rw [ofWorkloads, ofWorkloads, List.filter_append, Totals.ofDocuments_eq, Totals.ofDocuments_eq,
    List.foldl_append]
  cases hcounts : isWorkload c d with
  | true =>
    rw [List.filter_cons_of_pos hcounts]
    rfl
  | false =>
    rw [List.filter_cons_of_neg (by simp [hcounts])]
    rfl

/-- **A quota that is exceeded stays exceeded when a document is added**,
unless the document lowers the total: its kind counts, its own total is below
zero or no number, and so is an amount that it requests, whose text begins
with a minus sign or with the word for no number. -/
theorem quota_reports_append (d : Document)
    (h : Reports (quota ds artifact c).findings m.totalRule) :
    Reports (quota (ds ++ [d]) artifact c).findings m.totalRule ∨
      isWorkload c d = true ∧ ¬ 0.0 ≤ m.total (ofDocument d c.quota.depth) ∧
      ∃ requests ∈ requestsWithin d c.quota.depth, ∃ node amount text,
        requests.get? m.entry = some node ∧ m.read? node = some amount ∧ ¬ 0.0 ≤ amount ∧
        text? node = some text ∧ MayLower text.toList := by
  obtain ⟨hreported, hover⟩ := reports_quota_iff.1 h
  by_cases hcounts : isWorkload c d = true
  · by_cases hnonneg : 0.0 ≤ m.total (ofDocument d c.quota.depth)
    · refine .inl (reports_quota_iff.2 ⟨hreported, ?_⟩)
      rw [ofWorkloads_append, if_pos hcounts, Measure.total_add]
      exact Decimal.lt_add_of_nonneg hover hnonneg
    · exact .inr ⟨hcounts, hnonneg, m.exists_of_not_nonneg_ofDocument hnonneg⟩
  · refine .inl (reports_quota_iff.2 ⟨hreported, ?_⟩)
    rwa [ofWorkloads_append, if_neg hcounts]

/-- A deployment that requests processor time. -/
def deployment (cores : String) : Document :=
  .mapping [("kind", .string "Deployment"),
    ("resources", .mapping [("requests", .mapping [("cpu", .string cores)])])]

/-- Twenty-one cores are more than a quota leaves by default. -/
theorem reports_quota_deployment :
    Reports (quota [deployment "21"] "in" {}).findings Measure.cpu.totalRule :=
  reports_quota_iff.2 ⟨by decide, by decide⟩

/-- One core more than twenty-one is no less. -/
theorem quota_reports_append_core :
    Reports (quota [deployment "21"] "in" {}).findings Measure.cpu.totalRule ∧
      Reports (quota ([deployment "21"] ++ [deployment "1"]) "in" {}).findings
        Measure.cpu.totalRule := by
  refine ⟨reports_quota_deployment,
    (quota_reports_append (deployment "1") reports_quota_deployment).resolve_right ?_⟩
  rintro ⟨-, hbelow, -⟩
  exact hbelow (by decide)

/-- **A document may hide that a quota is exceeded**: one that requests less
than nothing. -/
theorem not_quota_reports_append :
    ¬ ∀ (m : Measure) (c : Config) (ds : List Document) (d : Document) (artifact : String),
      c.isIgnored m.totalRule.code = false →
      Reports (quota ds artifact c).findings m.totalRule →
      Reports (quota (ds ++ [d]) artifact c).findings m.totalRule := by
  intro h
  have hmore := h .cpu {} [deployment "21"] (deployment "-2") "in" (by decide)
    reports_quota_deployment
  exact absurd (reports_quota_iff.1 hmore).2 (by decide)

end Lint

end DeployLint
