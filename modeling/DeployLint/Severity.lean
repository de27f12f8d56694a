import DeployLint.Text.Uppercase

/-!
# Severity

How much a finding weighs: an error is meant to stop a delivery, a warning
to be fixed, an info to be known. Severities are ordered from info to error.
-/

namespace DeployLint

/-- How much a finding weighs. -/
inductive Severity where
  | info
  | warning
  | error
deriving DecidableEq, Repr

namespace Severity

/-- The place of a severity in their order. -/
def rank : Severity → Nat
  | info => 0
  | warning => 1
  | error => 2

instance : LE Severity := ⟨fun a b => a.rank ≤ b.rank⟩

instance : LT Severity := ⟨fun a b => a.rank < b.rank⟩

instance (a b : Severity) : Decidable (a ≤ b) := inferInstanceAs (Decidable (a.rank ≤ b.rank))

instance (a b : Severity) : Decidable (a < b) := inferInstanceAs (Decidable (a.rank < b.rank))

instance : Ord Severity := ⟨fun a b => compare a.rank b.rank⟩

/-- The graver of two severities. -/
def max (a b : Severity) : Severity := if a ≤ b then b else a

def text : Severity → String
  | info => "info"
  | warning => "warning"
  | error => "error"

instance : ToString Severity := ⟨text⟩

/-- The severity that a word names, in any case. -/
def parse? (s : String) : Option Severity :=
  match Text.lower s with
  | "error" => some error
  | "warning" => some warning
  | "warn" => some warning
  | "info" => some info
  | _ => none

/-- A severity is told by its rank. -/
theorem rank_injective {a b : Severity} (h : a.rank = b.rank) : a = b := by
  cases a <;> cases b <;> simp_all [rank]

end Severity

end DeployLint
