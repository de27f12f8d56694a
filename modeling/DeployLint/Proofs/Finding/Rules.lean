import DeployLint.Finding

/-!
# Findings — the rules they are of

A check says of each finding which rule it is of and how grave it is; the
catalogue says it once more. `OfRules` holds of a finding for which the two
agree, and whose rule is one of a list. Checks put lists of findings
together, so a property of findings is shown to go through the ways in which
lists are put together (`All`), and then check by check.
-/

namespace DeployLint

/-! ## The catalogue -/

namespace Rule

/-- **A rule is found by its code**: no two rules have the same. -/
theorem ofCode?_code (rule : Rule) : ofCode? rule.code = some rule := by
  have hall : ∀ rule ∈ all, ofCode? rule.code = some rule := by decide
  exact hall rule rule.mem_all

/-- Codes tell rules apart. -/
theorem code_injective {rule other : Rule} (h : rule.code = other.code) : rule = other := by
  have hfound : ofCode? rule.code = some other := h ▸ other.ofCode?_code
  exact Option.some.inj (rule.ofCode?_code.symm.trans hfound)

end Rule

namespace Finding

variable {P Q : Finding → Prop} {f : Finding} {fs gs : List Finding}
variable {rules : List Rule} {subject : Subject}

/-! ## Lists of findings -/

/-- All findings of a list have a property. -/
def All (P : Finding → Prop) (fs : List Finding) : Prop := ∀ f ∈ fs, P f

namespace All

theorem nil : All P [] := fun _ hf => absurd hf List.not_mem_nil

theorem singleton (hf : P f) : All P [f] := List.forall_mem_singleton.2 hf

theorem append (hfs : All P fs) (hgs : All P gs) : All P (fs ++ gs) :=
  List.forall_mem_append.2 ⟨hfs, hgs⟩

theorem map {α : Type} {xs : List α} {g : α → Finding} (h : ∀ x ∈ xs, P (g x)) :
    All P (xs.map g) :=
  List.forall_mem_map.2 h

theorem flatMap {α : Type} {xs : List α} {g : α → List Finding} (h : ∀ x ∈ xs, All P (g x)) :
    All P (xs.flatMap g) :=
  List.forall_mem_flatMap.2 h

theorem ite {p : Prop} [Decidable p] (hfs : All P fs) (hgs : All P gs) :
    All P (if p then fs else gs) := by
  split
  · exact hfs
  · exact hgs

/-- A list with a finding where a condition holds. -/
theorem singleton_of {p : Prop} [Decidable p] (hf : P f) : All P (if p then [f] else []) :=
  (singleton hf).ite nil

/-- A list with a finding unless a condition holds. -/
theorem singleton_unless {p : Prop} [Decidable p] (hf : P f) : All P (if p then [] else [f]) :=
  nil.ite (singleton hf)

theorem imp (hfs : All P fs) (h : ∀ f, P f → Q f) : All Q fs := fun f hf => h f (hfs f hf)

end All

/-! ## Findings of rules -/

/-- A finding on a subject, of one of some rules, with the code and the
severity that the catalogue gives the rule. -/
def OfRules (rules : List Rule) (subject : Subject) (f : Finding) : Prop :=
  ∃ rule ∈ rules, f.code = rule.code ∧ f.severity = rule.severity ∧ f.subject = subject

namespace OfRules

/-- A check that grades a finding as the catalogue does makes a finding of the rule. -/
theorem graded {rule : Rule} {severity : Severity} (hrule : rule ∈ rules)
    (hseverity : severity = rule.severity) (message : String) :
    OfRules rules subject (Finding.graded rule severity subject message) :=
  ⟨rule, hrule, rfl, hseverity, rfl⟩

/-- More rules have the same findings. -/
theorem mono {more : List Rule} (hf : f.OfRules rules subject) (h : rules ⊆ more) :
    f.OfRules more subject := by
  obtain ⟨rule, hrule, hfields⟩ := hf
  exact ⟨rule, h hrule, hfields⟩

theorem atPath (hf : f.OfRules rules subject) (path : Path) :
    (f.atPath path).OfRules rules subject := hf

theorem onLine (hf : f.OfRules rules subject) (line : UInt32) :
    (f.onLine line).OfRules rules subject := hf

/-- What the codes of all the rules have, the finding's code has. -/
theorem of_code {P : String → Prop} (hf : f.OfRules rules subject)
    (h : ∀ rule ∈ rules, P rule.code) : P f.code := by
  obtain ⟨rule, hrule, hcode, -, -⟩ := hf
  exact hcode ▸ h rule hrule

/-- A rule that is none of them has another code. -/
theorem code_ne (hf : f.OfRules rules subject) {rule : Rule} (hrule : rule ∉ rules) :
    f.code ≠ rule.code :=
  hf.of_code (P := (· ≠ rule.code)) fun _ hother heq => hrule (Rule.code_injective heq ▸ hother)

end OfRules

/-! ## Reported rules -/

/-- Some finding of a list is of a rule. -/
def Reports (fs : List Finding) (rule : Rule) : Prop := ∃ f ∈ fs, f.code = rule.code

theorem reports_append {rule : Rule} :
    Reports (fs ++ gs) rule ↔ Reports fs rule ∨ Reports gs rule := by
  simp only [Reports, List.mem_append, or_and_right, exists_or]

theorem reports_ite_iff {p : Prop} [Decidable p] {rule : Rule} :
    Reports (if p then [f] else []) rule ↔ p ∧ f.code = rule.code := by
  split
  · rename_i hp
    simp only [Reports, List.mem_singleton, exists_eq_left, hp, true_and]
  · rename_i hp
    exact iff_of_false (fun h => nomatch h) fun h => hp h.1

theorem reports_unless_iff {p : Prop} [Decidable p] {rule : Rule} :
    Reports (if p then [] else [f]) rule ↔ ¬ p ∧ f.code = rule.code := by
  rw [← ite_not]
  exact reports_ite_iff

/-- Findings of other rules do not report a rule. -/
theorem All.not_reports (hfs : All (OfRules rules subject) fs) {rule : Rule}
    (hrule : rule ∉ rules) : ¬ Reports fs rule := by
  rintro ⟨f, hf, hcode⟩
  exact (hfs f hf).code_ne hrule hcode

/-- Some finding of a list is of a rule and on a line. -/
def ReportsOn (fs : List Finding) (rule : Rule) (n : UInt32) : Prop :=
  ∃ f ∈ fs, f.code = rule.code ∧ f.line = some n

instance (fs : List Finding) (rule : Rule) : Decidable (Reports fs rule) :=
  inferInstanceAs (Decidable (∃ f ∈ fs, _))

instance (fs : List Finding) (rule : Rule) (n : UInt32) : Decidable (ReportsOn fs rule n) :=
  inferInstanceAs (Decidable (∃ f ∈ fs, _))

end Finding

end DeployLint
