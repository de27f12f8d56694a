import Mathlib.Data.List.Forall2
import DeployLint.Lint
import DeployLint.Proofs.Report.Gate

/-!
# Configuration — what it makes of findings

`Config.apply` leaves out the findings of ignored rules and settles the
severity of the others. It looks at one finding at a time, and what it looks
at, the code, it leaves as it is: so it goes through a concatenation
(`apply_append`), and applying it again changes nothing (`apply_apply`).
-/

namespace DeployLint

namespace Config

variable {c c' : Config}

/-- A finding with the severity that a configuration gives it. -/
def settle (c : Config) (f : Finding) : Finding :=
  { f with severity := c.effectiveSeverity f.code f.severity }

theorem apply_eq (c : Config) (fs : List Finding) :
    c.apply fs = (fs.filter fun f => !c.isIgnored f.code).map c.settle := rfl

theorem apply_append (c : Config) (fs gs : List Finding) :
    c.apply (fs ++ gs) = c.apply fs ++ c.apply gs := by
  rw [apply_eq, List.filter_append, List.map_append]
  rfl

theorem apply_flatMap {α : Type} (c : Config) (g : α → List Finding) (xs : List α) :
    c.apply (xs.flatMap g) = xs.flatMap fun x => c.apply (g x) := by
  induction xs with
  | nil => rfl
  | cons x xs ih => rw [List.flatMap_cons, apply_append, ih, List.flatMap_cons]

theorem mem_apply_iff {fs : List Finding} {g : Finding} :
    g ∈ c.apply fs ↔ ∃ f ∈ fs, c.isIgnored f.code = false ∧ c.settle f = g := by
  rw [apply_eq, List.mem_map]
  refine exists_congr fun f => ?_
  rw [List.mem_filter, Bool.not_eq_true', and_assoc]

/-! ## Severities -/

/-- **A settled severity is settled.** An override does not look at the
severity, and what `strict` promotes is no warning any more. -/
theorem effectiveSeverity_effectiveSeverity (c : Config) (code : String) (s : Severity) :
    c.effectiveSeverity code (c.effectiveSeverity code s) = c.effectiveSeverity code s := by
  rw [effectiveSeverity, effectiveSeverity]
  cases c.severityOverrides.get? code with
  | some override => rfl
  | none => cases c.strict <;> cases s <;> rfl

theorem settle_settle (c : Config) (f : Finding) : c.settle (c.settle f) = c.settle f := by
  have h := effectiveSeverity_effectiveSeverity c f.code f.severity
  rw [settle, settle, h]

/-- **Applying a configuration twice is applying it once.** -/
theorem apply_apply (c : Config) (fs : List Finding) : c.apply (c.apply fs) = c.apply fs := by
  -- settling keeps the code, and a rule is ignored by its code
  have hcode : ((fun f : Finding => !c.isIgnored f.code) ∘ c.settle) =
      fun f => !c.isIgnored f.code := rfl
  rw [apply_eq, apply_eq, List.filter_map, hcode, List.filter_filter, List.map_map]
  simp only [Bool.and_self]
  exact List.map_congr_left fun f _ => settle_settle c f

/-- **Under `strict` a warning is one by an override.** -/
theorem get?_overrides_of_warning (hstrict : c.strict = true) {fs : List Finding} {f : Finding}
    (hf : f ∈ c.apply fs) (hwarning : f.severity = .warning) :
    c.severityOverrides.get? f.code = some .warning := by
  obtain ⟨g, -, -, rfl⟩ := mem_apply_iff.1 hf
  change c.effectiveSeverity g.code g.severity = .warning at hwarning
  change c.severityOverrides.get? g.code = some .warning
  rw [effectiveSeverity] at hwarning
  cases hoverride : c.severityOverrides.get? g.code with
  | some override =>
    rw [hoverride] at hwarning
    rw [show override = .warning from hwarning]
  | none =>
    rw [hoverride, hstrict] at hwarning
    cases hs : g.severity <;> rw [hs] at hwarning <;> exact nomatch hwarning

/-- **What is applied are the findings that are not ignored**, in order, one
for one, with nothing but the severity changed. -/
theorem apply_forall₂ (c : Config) (fs : List Finding) :
    List.Forall₂ (fun f g => g = { f with severity := g.severity })
      (fs.filter fun f => !c.isIgnored f.code) (c.apply fs) := by
  rw [apply_eq, List.forall₂_map_right_iff]
  exact List.forall₂_same.2 fun f _ => rfl

/-! ## Two configurations -/

/-- The configuration that leaves findings as the rules make them. The tables
and limits that rules read stay. -/
def bare (c : Config) : Config :=
  { c with ignoredRules := [], severityOverrides := [], strict := false }

@[simp] theorem apply_bare (c : Config) (fs : List Finding) : c.bare.apply fs = fs := by
  have hkeep : (fs.filter fun f => !c.bare.isIgnored f.code) = fs :=
    List.filter_eq_self.2 fun _ _ => rfl
  have hsettle : c.bare.settle = id := rfl
  rw [apply_eq, hkeep, hsettle, List.map_id]

/-- Two configurations agree on everything that rules read. -/
structure SameTables (c c' : Config) : Prop where
  security : c.security = c'.security
  naming : c.naming = c'.naming
  quota : c.quota = c'.quota
  workloadKinds : c.workloadKinds = c'.workloadKinds

theorem sameTables_bare (c : Config) : c.SameTables c.bare := ⟨rfl, rfl, rfl, rfl⟩

/-- A configuration is tightened to another: the other ignores no rule that
this one asks, is strict where this one is, and fails from the same severity
or a lower one. In all else the two agree. -/
structure TightenedTo (c c' : Config) : Prop extends SameTables c c' where
  ignored : ∀ code, c'.isIgnored code = true → c.isIgnored code = true
  strict : c.strict = true → c'.strict = true
  threshold : c'.failureThreshold ≤ c.failureThreshold
  overrides : ∀ code, c'.severityOverrides.get? code = c.severityOverrides.get? code

/-- **Tightening never lowers a severity.** -/
theorem TightenedTo.effectiveSeverity_le (h : c.TightenedTo c') (code : String) (s : Severity) :
    c.effectiveSeverity code s ≤ c'.effectiveSeverity code s := by
  rw [effectiveSeverity, effectiveSeverity, h.overrides]
  cases c.severityOverrides.get? code with
  | some override => exact override.le_refl
  | none =>
    cases hc : c.strict with
    | true => rw [h.strict hc]; exact Severity.le_refl _
    | false =>
      change s ≤ if c'.strict && s == .warning then .error else s
      split
      · exact s.le_error
      · exact s.le_refl

/-- A finding that reaches the threshold still does, under a tighter
configuration, and is still there. -/
theorem TightenedTo.exists_mem_apply (h : c.TightenedTo c') {fs : List Finding}
    (hfs : ∃ f ∈ c.apply fs, c.failureThreshold ≤ f.severity) :
    ∃ f ∈ c'.apply fs, c'.failureThreshold ≤ f.severity := by
  obtain ⟨g, hg, hgrave⟩ := hfs
  obtain ⟨f, hf, hkept, rfl⟩ := mem_apply_iff.1 hg
  have hkept' : c'.isIgnored f.code = false :=
    Bool.eq_false_iff.2 fun hignored => by rw [h.ignored _ hignored] at hkept; exact nomatch hkept
  -- the threshold has not risen, and the severity of the finding has not fallen
  refine ⟨c'.settle f, mem_apply_iff.2 ⟨f, hf, hkept', rfl⟩, ?_⟩
  have hbefore : c'.failureThreshold ≤ c.effectiveSeverity f.code f.severity :=
    Severity.le_trans h.threshold hgrave
  exact Severity.le_trans hbefore (h.effectiveSeverity_le f.code f.severity)

end Config

end DeployLint
