import DeployLint.Proofs.Quantity.Leading

/-!
# Quantities — how texts are read

The blanks around a text do not count. With a unit that is converted, a text is
read as what stands before the unit, if that is a literal; without one it is read
as a whole. A text of memory without such a unit that is no literal is read as
the number that it begins with.
-/

namespace DeployLint

namespace Quantity

open Decimal

variable {text amount : String} {unit : MemoryUnit}

theorem literal?_eq_none_iff : literal? text = none ↔ ¬ IsLiteral text.toList :=
  literalChars?_eq_none_iff

/-! ## Processor time -/

theorem cores?_string (text : String) :
    cores? (.string text) = coresOfText? (Text.trim text) := by
  rw [cores?, Document.string, text?, Option.bind_some]

theorem coresOfText?_unit_eq_none_iff :
    coresOfText? (amount ++ "m") = none ↔ ¬ IsLiteral amount.toList := by
  rw [coresOfText?, Text.beforeEnd?_eq_some_iff.2 rfl, Option.map_eq_none_iff,
    literal?_eq_none_iff]

theorem coresOfText?_eq_none_iff (h : Text.endsWith text "m" = false) :
    coresOfText? text = none ↔ ¬ IsLiteral text.toList := by
  rw [coresOfText?, Text.beforeEnd?_eq_none_iff.2 h, literal?_eq_none_iff]

/-! ## Memory -/

theorem miB?_string (text : String) : miB? (.string text) = miBOfText? (Text.trim text) := by
  rw [miB?, Document.string, text?, Option.bind_some]

/-- A text has two endings only where one of them is an ending of the other. -/
theorem endsWith_eq_false {tail other : String} (h : Text.endsWith text tail = true)
    (hother : ¬ tail.toList <:+ other.toList) (htail : ¬ other.toList <:+ tail.toList) :
    Text.endsWith text other = false := by
  rw [← Bool.not_eq_true]
  intro hends
  rw [Text.endsWith, List.isSuffixOf_iff_suffix] at h hends
  rcases List.suffix_or_suffix_of_suffix h hends with hsuffix | hsuffix
  · exact hother hsuffix
  · exact htail hsuffix

theorem unit?_append (amount : String) (unit : MemoryUnit) :
    unit? (amount ++ unit.suffix) = some (amount, unit) := by
  have hself : Text.beforeEnd? (amount ++ unit.suffix) unit.suffix = some amount :=
    Text.beforeEnd?_eq_some_iff.2 rfl
  have hother : ∀ other : MemoryUnit, unit ≠ other →
      Text.beforeEnd? (amount ++ unit.suffix) other.suffix = none := by
    intro other hne
    refine Text.beforeEnd?_eq_none_iff.2
      (endsWith_eq_false (Text.endsWith_iff.2 ⟨amount, rfl⟩) ?_ ?_)
    · cases unit <;> cases other <;> first | exact absurd rfl hne | decide
    · cases unit <;> cases other <;> first | exact absurd rfl hne | decide
  cases unit with
  | kibi => simp [unit?, hself]
  | mebi => simp [unit?, hself, hother .kibi (by decide)]
  | gibi => simp [unit?, hself, hother .kibi (by decide), hother .mebi (by decide)]

theorem miBOfText?_unit_eq_none_iff :
    miBOfText? (amount ++ unit.suffix) = none ↔ ¬ IsLiteral amount.toList := by
  rw [miBOfText?, unit?_append, Option.map_eq_none_iff, literal?_eq_none_iff]

section NoUnit

variable (hunit : ∀ unit : MemoryUnit, Text.endsWith text unit.suffix = false)

include hunit

theorem unit?_eq_none : unit? text = none := by
  rw [unit?, List.findSome?_eq_none_iff]
  intro unit _
  rw [Text.beforeEnd?_eq_none_iff.2 (hunit unit), Option.map_none]

/-- A literal is read as what it stands for. -/
theorem miBOfText?_of_isLiteral (hliteral : IsLiteral text.toList) :
    miBOfText? text = literalChars? text.toList := by
  obtain ⟨amount, hamount⟩ := Option.isSome_iff_exists.1 (isSome_literalChars?_iff.2 hliteral)
  rw [miBOfText?, unit?_eq_none hunit, literal?, hamount, Option.some_or]

/-- Another text is read as the number that is found at its beginning, if that is a literal. -/
theorem miBOfText?_of_not_isLiteral (hliteral : ¬ IsLiteral text.toList) :
    miBOfText? text = (leadingNumber? text.toList).bind literalChars? := by
  rw [miBOfText?, unit?_eq_none hunit, literal?_eq_none_iff.2 hliteral, Option.none_or]

end NoUnit

end Quantity

end DeployLint
