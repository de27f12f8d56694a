import DeployLint.Chart.Descriptor
import DeployLint.Chart.Values
import DeployLint.Proofs.Finding.Rules

/-!
# Charts — whose findings they are

Every finding on a chart's descriptor is of one of the rules on descriptors,
and a finding on its values, where they limit nothing, of the one rule on
values. No finding of the other checks can be taken for that one.
-/

namespace DeployLint

open Finding (All OfRules)

namespace Chart

/-- The rules that a descriptor is asked. -/
def rules : List Rule :=
  [.emptyVersion, .versionTooShort, .invalidVersionPart, .dependencyMissingField,
    .invalidRepository, .chartMissingField, .invalidChartApiVersion, .chartNameMismatch,
    .versionNotString]

/-! ## Versions and dependencies -/

theorem ofRules_checkVersion (version : String) (subject : Subject) :
    All (OfRules rules subject) (checkVersion version subject) := by
  have herror : ∀ rule ∈ [Rule.emptyVersion, .versionTooShort, .invalidVersionPart],
      rule ∈ rules ∧ .error = rule.severity := by decide
  have hfinding : ∀ rule ∈ [Rule.emptyVersion, .versionTooShort, .invalidVersionPart],
      ∀ message, OfRules rules subject
        ((Finding.graded rule .error subject message).atPath (.ofKeys ["version"])) := by
    intro rule hrule message
    obtain ⟨hmem, hseverity⟩ := herror rule hrule
    exact (OfRules.graded hmem hseverity message).atPath _
  simp only [checkVersion]
  refine All.ite (All.singleton (hfinding _ (by decide) _)) (All.append ?_ ?_)
  · exact All.singleton_of (hfinding _ (by decide) _)
  · exact All.map fun part _ => hfinding _ (by decide) _

theorem ofRules_checkVersionNode (subject : Subject) (version : Document) :
    All (OfRules rules subject) (checkVersionNode subject version) := by
  rw [checkVersionNode]
  split
  · exact ofRules_checkVersion _ subject
  · exact All.singleton ((OfRules.graded (by decide) rfl _).atPath _)

theorem ofRules_checkDependency (subject : Subject) (position : Nat) (dependency : Document) :
    All (OfRules rules subject) (checkDependency subject position dependency) := by
  rw [checkDependency]
  refine All.append (All.map fun name _ => (OfRules.graded (by decide) rfl _).atPath _) ?_
  split
  · exact All.nil
  · exact All.singleton_unless ((OfRules.graded (by decide) rfl _).atPath _)

theorem ofRules_checkDependencies (subject : Subject) (dependencies : Document) :
    All (OfRules rules subject) (checkDependencies subject dependencies) := by
  refine All.flatMap fun x _ => ?_
  exact ofRules_checkDependency subject x.2 x.1

/-! ## The descriptor and the values -/

/-- **All findings on a descriptor are of its rules.** -/
theorem ofRules_check (c : Chart) : All (OfRules rules c.subject) c.check := by
  rw [check]
  refine All.append (All.append (All.append ?fields ?format) ?version) ?dependencies
  case fields => exact All.map fun name _ => (OfRules.graded (by decide) rfl _).atPath _
  case format =>
    split
    · exact All.nil
    · exact All.singleton_unless ((OfRules.graded (by decide) rfl _).atPath _)
  case version =>
    split
    · exact ofRules_checkVersionNode c.subject _
    · exact All.nil
  case dependencies =>
    split
    · exact ofRules_checkDependencies c.subject _
    · exact All.nil

theorem ofRules_checkName (c : Chart) (directory : String) :
    All (OfRules rules c.subject) (c.checkName directory) := by
  rw [checkName]
  split
  · exact All.nil
  · exact All.singleton_unless ((OfRules.graded (by decide) rfl _).atPath _)

theorem ofRules_checkValues (values : Document) (subject : Subject) :
    All (OfRules [.missingResourceLimits] subject) (checkValues values subject) := by
  rw [checkValues]
  exact All.singleton_unless (OfRules.graded (by decide) rfl _)

end Chart

end DeployLint
