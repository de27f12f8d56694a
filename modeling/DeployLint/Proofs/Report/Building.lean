import DeployLint.Proofs.Report.Gate

/-!
# Reports — however they are put together

A report counts its findings by severity while they are added, and keeps the
counts beside the findings. `Counted` says that the counts are those of the
findings; each operation keeps it so, and with it every report that is put
together by them (`Building.counted_report`), merged ones included. What a
report answers is then told by what was added to it, in order, and by
nothing else (`report_of_building`).
-/

namespace DeployLint

/-! ## Counts -/

namespace Tally

/-- How many findings of a list there are of each severity. -/
def of (fs : List Finding) : Tally where
  errors := fs.countP fun f => f.severity = .error
  warnings := fs.countP fun f => f.severity = .warning
  infos := fs.countP fun f => f.severity = .info

theorem of_append_singleton (fs : List Finding) (f : Finding) :
    of (fs ++ [f]) = (of fs).add f.severity := by
  simp only [of, List.countP_append, List.countP_singleton]
  cases f.severity <;> rfl

/-- Every finding is of one severity. -/
theorem sum_of (fs : List Finding) :
    (of fs).errors + (of fs).warnings + (of fs).infos = fs.length := by
  induction fs with
  | nil => rfl
  | cons f fs ih =>
    simp only [of, List.countP_cons, List.length_cons] at ih ⊢
    cases f.severity <;> simp <;> omega

end Tally

namespace Severity

theorem le_antisymm {a b : Severity} (hab : a ≤ b) (hba : b ≤ a) : a = b :=
  rank_injective (Nat.le_antisymm hab hba)

/-- Nothing is less grave than an info. -/
theorem info_le (a : Severity) : info ≤ a := Nat.zero_le a.rank

end Severity

namespace Report

variable {r other : Report}

/-- The counts of a report are those of its findings. -/
def Counted (r : Report) : Prop := r.tally = Tally.of r.findings

namespace Counted

theorem push (h : r.Counted) (f : Finding) : (r.push f).Counted := by
  have htally : (r.push f).tally = r.tally.add f.severity := rfl
  have hfindings : (r.push f).findings = r.findings ++ [f] := rfl
  rw [Counted, htally, hfindings, Tally.of_append_singleton, h]

theorem extend (h : r.Counted) (fs : List Finding) : (r.extend fs).Counted := by
  induction fs generalizing r with
  | nil => exact h
  | cons f fs ih => exact ih (h.push f)

/-- A merge counts the other report's findings anew, whatever that report has counted. -/
theorem merge (h : r.Counted) (other : Report) : (r.merge other).Counted := by
  have htotals : ({ r with totals := mergeTotals r.totals other.totals } : Report).Counted := h
  exact htotals.extend other.findings

theorem hasErrors_iff (h : r.Counted) :
    r.hasErrors = true ↔ ∃ f ∈ r.findings, f.severity = .error := by
  rw [hasErrors, h, decide_eq_true_iff, Tally.of, List.countP_pos_iff]
  simp only [decide_eq_true_eq]

theorem hasWarnings_iff (h : r.Counted) :
    r.hasWarnings = true ↔ ∃ f ∈ r.findings, f.severity = .warning := by
  rw [hasWarnings, h, decide_eq_true_iff, Tally.of, List.countP_pos_iff]
  simp only [decide_eq_true_eq]

end Counted

/-! ## The gravest severity -/

/-- The gravest severity reaches what some finding reaches. -/
theorem le_maxSeverity?_iff {s : Severity} (h : r.maxSeverity? = some s) (t : Severity) :
    t ≤ s ↔ ∃ f ∈ r.findings, t ≤ f.severity := by
  have hgate := shouldFail_iff (r := r) (c := { failureThreshold := t })
  rw [shouldFail, h, Option.any_some, decide_eq_true_iff] at hgate
  exact hgate

/-- Only an empty report has none. -/
theorem maxSeverity?_eq_none_iff : r.maxSeverity? = none ↔ r.isEmpty = true := by
  rw [isEmpty, List.isEmpty_iff]
  constructor
  · intro h
    have hgate := shouldFail_iff (r := r) (c := { failureThreshold := .info })
    rw [shouldFail, h] at hgate
    refine List.eq_nil_iff_forall_not_mem.2 fun f hf => ?_
    exact Bool.false_ne_true (hgate.2 ⟨f, hf, f.severity.info_le⟩)
  · intro h
    rw [maxSeverity?, h]
    rfl

/-- **The gravest severity is one that occurs, and no finding is graver.** -/
theorem maxSeverity?_eq_some_iff {s : Severity} :
    r.maxSeverity? = some s ↔
      (∃ f ∈ r.findings, f.severity = s) ∧ ∀ f ∈ r.findings, f.severity ≤ s := by
  have hgreatest : ∀ s, r.maxSeverity? = some s →
      (∃ f ∈ r.findings, f.severity = s) ∧ ∀ f ∈ r.findings, f.severity ≤ s := by
    intro s h
    have hbound : ∀ f ∈ r.findings, f.severity ≤ s :=
      fun f hf => (le_maxSeverity?_iff h f.severity).2 ⟨f, hf, Severity.le_refl _⟩
    obtain ⟨f, hf, hle⟩ := (le_maxSeverity?_iff h s).1 (Severity.le_refl s)
    exact ⟨⟨f, hf, Severity.le_antisymm (hbound f hf) hle⟩, hbound⟩
  refine ⟨hgreatest s, ?_⟩
  rintro ⟨⟨f, hf, rfl⟩, hbound⟩
  cases hmax : r.maxSeverity? with
  | none =>
    rw [maxSeverity?_eq_none_iff, isEmpty, List.isEmpty_iff] at hmax
    rw [hmax] at hf
    exact absurd hf List.not_mem_nil
  | some s =>
    obtain ⟨⟨g, hg, rfl⟩, hgreater⟩ := hgreatest s hmax
    exact congrArg some (Severity.le_antisymm (hbound g hg) (hgreater f hf))

/-! ## Merging -/

theorem findings_merge (r other : Report) :
    (r.merge other).findings = r.findings ++ other.findings :=
  findings_extend _ _

theorem totals_merge (r other : Report) :
    (r.merge other).totals = mergeTotals r.totals other.totals :=
  totals_extend _ _

/-- The totals of two reports are a sum where both have them. -/
theorem mergeTotals_eq (a b : Option Totals) : mergeTotals a b = a.merge (· + ·) b := by
  cases a <;> cases b <;> rfl

/-! ## Building -/

/-- A way in which a report is put together. -/
inductive Building where
  | new
  | ofFindings (fs : List Finding)
  | push (b : Building) (f : Finding)
  | extend (b : Building) (fs : List Finding)
  | setTotals (b : Building) (totals : Option Totals)
  | merge (b other : Building)

namespace Building

/-- The report that is put together. -/
def report : Building → Report
  | new => {}
  | ofFindings fs => .ofFindings fs
  | push b f => b.report.push f
  | extend b fs => b.report.extend fs
  | setTotals b totals => { b.report with totals := totals }
  | merge b other => b.report.merge other.report

/-- The findings that are added, in order. -/
def added : Building → List Finding
  | new => []
  | ofFindings fs => fs
  | push b f => b.added ++ [f]
  | extend b fs => b.added ++ fs
  | setTotals b _ => b.added
  | merge b other => b.added ++ other.added

/-- **A report holds what was added to it, in order.** -/
theorem findings_report (b : Building) : b.report.findings = b.added := by
  induction b with
  | new => rfl
  | ofFindings fs => exact findings_ofFindings fs
  | push b f ih => exact congrArg (· ++ [f]) ih
  | extend b fs ih => rw [report, findings_extend, ih, added]
  | setTotals b totals ih => exact ih
  | merge b other ih ihother => rw [report, findings_merge, ih, ihother, added]

/-- **No operation forgets to count.** -/
theorem counted_report (b : Building) : b.report.Counted := by
  have hempty : ({} : Report).Counted := rfl
  induction b with
  | new => exact hempty
  | ofFindings fs => exact hempty.extend fs
  | push b f ih => exact ih.push f
  | extend b fs ih => exact ih.extend fs
  | setTotals b totals ih => exact ih
  | merge b other ih _ => exact ih.merge other.report

theorem tally_report (b : Building) : b.report.tally = Tally.of b.added := by
  have hcounted : b.report.tally = Tally.of b.report.findings := b.counted_report
  rw [hcounted, findings_report]

end Building

/-- **A report is told by what was added to it**, in whatever way it was put
together. Its findings are those, in order; its counts are theirs, and so
are its answers to whether there are errors or warnings, to how grave the
gravest is and to the gate. Merging is associative, and the totals of a
merge are there where one side has them, and are the sum where both do. -/
theorem report_of_building (b : Building) (c : Config) :
    b.report.findings = b.added ∧
    b.report.tally =
      ⟨b.added.countP fun f => f.severity = .error, b.added.countP fun f => f.severity = .warning,
        b.added.countP fun f => f.severity = .info⟩ ∧
    b.report.tally.errors + b.report.tally.warnings + b.report.tally.infos = b.report.size ∧
    (b.report.hasErrors = true ↔ ∃ f ∈ b.added, f.severity = .error) ∧
    (b.report.hasWarnings = true ↔ ∃ f ∈ b.added, f.severity = .warning) ∧
    (b.report.maxSeverity? = none ↔ b.report.isEmpty = true) ∧
    (b.report.isEmpty = true ↔ b.added = []) ∧
    (∀ s, b.report.maxSeverity? = some s ↔
      (∃ f ∈ b.added, f.severity = s) ∧ ∀ f ∈ b.added, f.severity ≤ s) ∧
    (b.report.shouldFail c = true ↔ ∃ f ∈ b.added, c.failureThreshold ≤ f.severity) ∧
    (∀ x y : Building,
      ((b.merge x).merge y).report.findings = (b.merge (x.merge y)).report.findings ∧
      ((b.merge x).merge y).report.tally = (b.merge (x.merge y)).report.tally) ∧
    (∀ x : Building, (b.merge x).report.totals.isSome =
      (b.report.totals.isSome || x.report.totals.isSome)) ∧
    (∀ x : Building, (b.merge x).report.totals =
      b.report.totals.merge (· + ·) x.report.totals) := by
  have htotals : ∀ x : Building,
      (b.merge x).report.totals = b.report.totals.merge (· + ·) x.report.totals := by
    intro x
    rw [Building.report, totals_merge, mergeTotals_eq]
  refine ⟨b.findings_report, b.tally_report, ?sum, ?errors, ?warnings, maxSeverity?_eq_none_iff,
    ?empty, ?gravest, ?gate, ?associative, ?present, htotals⟩
  case sum => rw [b.tally_report, size, b.findings_report, Tally.sum_of]
  case errors => rw [b.counted_report.hasErrors_iff, b.findings_report]
  case warnings => rw [b.counted_report.hasWarnings_iff, b.findings_report]
  case empty => rw [isEmpty, List.isEmpty_iff, b.findings_report]
  case gravest =>
    intro s
    rw [maxSeverity?_eq_some_iff, b.findings_report]
  case gate => rw [shouldFail_iff, b.findings_report]
  case associative =>
    intro x y
    have hadded : ((b.merge x).merge y).added = (b.merge (x.merge y)).added :=
      List.append_assoc _ _ _
    exact ⟨by rw [Building.findings_report, Building.findings_report, hadded],
      by rw [Building.tally_report, Building.tally_report, hadded]⟩
  case present =>
    intro x
    rw [htotals]
    cases b.report.totals <;> cases x.report.totals <;> rfl

/-- A warning, and then a report on an error with nothing requested. -/
def warnedThenFailed : Building :=
  .merge (.push .new (.of .missingUser { artifact := "Dockerfile" } "no user"))
    (.setTotals (.ofFindings [.of .rootUser { artifact := "Dockerfile" } "root"]) (some .zero))

/-- The error is the gravest, and it stops the report. -/
theorem report_of_warnedThenFailed :
    warnedThenFailed.report.tally = ⟨1, 1, 0⟩ ∧
    warnedThenFailed.report.maxSeverity? = some .error ∧
    warnedThenFailed.report.shouldFail {} = true := by
  obtain ⟨-, htally, -, -, -, -, -, hgravest, hgate, -⟩ := report_of_building warnedThenFailed {}
  have herror : ∃ f ∈ warnedThenFailed.added, f.severity = .error :=
    ⟨_, List.mem_cons_of_mem _ List.mem_cons_self, rfl⟩
  refine ⟨htally, (hgravest .error).2 ⟨herror, fun f _ => f.severity.le_error⟩, hgate.2 ?_⟩
  obtain ⟨f, hf, hseverity⟩ := herror
  exact ⟨f, hf, hseverity ▸ Severity.le_refl _⟩

end Report

end DeployLint
