import Mathlib.Data.List.Basic
import DeployLint.Report.Basic

/-!
# Reports — what a report holds, and its gate

A report holds the findings it was given, in order, and keeps its totals as
findings are added. The gate reads the gravest severity only; it stops a
delivery exactly when some finding is as grave as the threshold
(`shouldFail_iff`).
-/

namespace DeployLint

namespace Severity

theorem le_refl (a : Severity) : a ≤ a := Nat.le_refl a.rank

theorem le_trans {a b c : Severity} (hab : a ≤ b) (hbc : b ≤ c) : a ≤ c :=
  Nat.le_trans hab hbc

/-- Nothing is graver than an error. -/
theorem le_error (a : Severity) : a ≤ error := by
  cases a <;> decide

/-- The graver of two severities reaches what one of them reaches. -/
theorem le_max_iff {a b c : Severity} : a ≤ b.max c ↔ a ≤ b ∨ a ≤ c := by
  cases a <;> cases b <;> cases c <;> decide

end Severity

namespace Report

/-! ## What a report holds -/

@[simp] theorem findings_extend (r : Report) (fs : List Finding) :
    (r.extend fs).findings = r.findings ++ fs := by
  induction fs generalizing r with
  | nil => exact (List.append_nil _).symm
  | cons f fs ih =>
    have hpush : (r.push f).findings = r.findings ++ [f] := rfl
    rw [extend, List.foldl_cons, ← extend, ih, hpush, List.append_assoc, List.singleton_append]

@[simp] theorem totals_extend (r : Report) (fs : List Finding) :
    (r.extend fs).totals = r.totals := by
  induction fs generalizing r with
  | nil => rfl
  | cons f fs ih => exact ih (r.push f)

@[simp] theorem findings_ofFindings (fs : List Finding) : (ofFindings fs).findings = fs := by
  rw [ofFindings, findings_extend]
  rfl

@[simp] theorem totals_ofFindings (fs : List Finding) : (ofFindings fs).totals = none := by
  rw [ofFindings, totals_extend]

/-! ## The gate -/

/-- The gravest severity so far reaches a threshold exactly when the one
before does or a finding since. -/
theorem any_foldl_max_iff (threshold worst : Severity) (fs : List Finding) :
    (fs.foldl (fun worst f => some ((worst.map (Severity.max · f.severity)).getD f.severity))
        (some worst)).any (fun s => decide (threshold ≤ s)) = true ↔
      threshold ≤ worst ∨ ∃ f ∈ fs, threshold ≤ f.severity := by
  induction fs generalizing worst with
  | nil => simp
  | cons f fs ih =>
    rw [List.foldl_cons]
    refine (ih (worst.max f.severity)).trans ?_
    rw [Severity.le_max_iff, List.exists_mem_cons_iff, or_assoc]

/-- **The gate stops a report exactly when some finding is as grave as the
threshold.** -/
theorem shouldFail_iff {r : Report} {c : Config} :
    r.shouldFail c = true ↔ ∃ f ∈ r.findings, c.failureThreshold ≤ f.severity := by
  rw [shouldFail, maxSeverity?]
  -- from the first finding on there is a gravest severity
  cases r.findings with
  | nil => simp
  | cons f fs =>
    rw [List.foldl_cons, List.exists_mem_cons_iff]
    exact any_foldl_max_iff c.failureThreshold f.severity fs

end Report

end DeployLint
