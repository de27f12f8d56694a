import DeployLint.Proofs.Decimal.Signs
import DeployLint.Proofs.Quantity.Leading
import DeployLint.Quantity.Totals

/-!
# Quantities — amounts that may lower a total

A quantity is read with a sign, so an amount may be below zero; and the word
for no number is read as well, which compares with nothing. Both are told by
how a text begins (`MayLower`): what is read of any other text is zero or
above (`nonneg_or_mayLower_of_cores?`, `nonneg_or_mayLower_of_miB?`).
-/

namespace DeployLint

namespace Quantity

open Decimal

variable {cs ds : List Char} {text : String} {node : Document} {x : Float}

/-- A text that begins with a minus sign, or with the word for no number in
any case, with a plus sign in front of it or with none. -/
def MayLower (cs : List Char) : Prop :=
  ['-'] <+: cs ∨ ['+', 'n', 'a', 'n'] <+: cs.map Char.toLower ∨
    ['n', 'a', 'n'] <+: cs.map Char.toLower

theorem MayLower.of_prefix (h : MayLower cs) (hlead : cs <+: ds) : MayLower ds :=
  h.imp (fun h => h.trans hlead)
    (Or.imp (fun h => h.trans (hlead.map _)) fun h => h.trans (hlead.map _))

theorem nonneg_or_mayLower (h : literalChars? cs = some x) : 0.0 ≤ x ∨ MayLower cs := by
  refine (nonneg_of_literalChars? h).imp_right ?_
  rintro (⟨rest, rfl⟩ | ⟨rest, rfl, hword⟩ | hword)
  · exact .inl ⟨rest, rfl⟩
  · refine .inr (.inl ?_)
    rw [List.map_cons, hword]
    exact List.prefix_refl _
  · refine .inr (.inr ?_)
    rw [hword]

/-! ## What precedes a unit -/

/-- What precedes the end of a text is how it begins. -/
theorem prefix_of_beforeEnd? {tail start : String} (h : Text.beforeEnd? text tail = some start) :
    start.toList <+: text.toList := by
  rw [Text.beforeEnd?_eq_some_iff.1 h, String.toList_append]
  exact List.prefix_append _ _

theorem prefix_of_unit? {amount : String} {unit : MemoryUnit}
    (h : unit? text = some (amount, unit)) : amount.toList <+: text.toList := by
  obtain ⟨other, -, hother⟩ := List.exists_of_findSome?_eq_some h
  obtain ⟨start, hstart, heq⟩ := Option.map_eq_some_iff.1 hother
  obtain ⟨rfl, -⟩ := Prod.mk.inj heq
  exact prefix_of_beforeEnd? hstart

/-! ## What is read -/

theorem nonneg_or_mayLower_of_coresOfText? (h : coresOfText? text = some x) :
    0.0 ≤ x ∨ MayLower text.toList := by
  rw [coresOfText?] at h
  split at h
  · rename_i thousandths hunit
    obtain ⟨amount, hamount, rfl⟩ := Option.map_eq_some_iff.1 h
    refine (nonneg_or_mayLower hamount).imp (fun hnonneg => ?_) fun hlower => ?_
    · exact div_nonneg_of_isPositive hnonneg (by decide)
    · exact hlower.of_prefix (prefix_of_beforeEnd? hunit)
  · exact nonneg_or_mayLower h

theorem inMiB_nonneg (hx : 0.0 ≤ x) (unit : MemoryUnit) : 0.0 ≤ unit.inMiB x := by
  cases unit with
  | kibi => exact div_nonneg_of_isPositive hx (by decide)
  | mebi => exact hx
  | gibi => exact mul_nonneg_of_isPositive hx (by decide)

theorem nonneg_or_mayLower_of_miBOfText? (h : miBOfText? text = some x) :
    0.0 ≤ x ∨ MayLower text.toList := by
  rw [miBOfText?] at h
  split at h
  · rename_i amount unit hunit
    obtain ⟨n, hn, rfl⟩ := Option.map_eq_some_iff.1 h
    refine (nonneg_or_mayLower hn).imp (fun hnonneg => inMiB_nonneg hnonneg unit) fun hlower => ?_
    exact hlower.of_prefix (prefix_of_unit? hunit)
  · rcases Option.or_eq_some_iff.1 h with hliteral | ⟨-, hleading⟩
    · exact nonneg_or_mayLower hliteral
    · obtain ⟨number, hnumber, hread⟩ := Option.bind_eq_some_iff.1 hleading
      exact (nonneg_or_mayLower hread).imp_right fun hlower =>
        hlower.of_prefix (leadingNumber?_eq_some_iff.1 hnumber).begins

/-- **Processor time is read as zero or above**, but for texts that may lower
a total. -/
theorem nonneg_or_mayLower_of_cores? (h : cores? node = some x) :
    0.0 ≤ x ∨ ∃ text, text? node = some text ∧ MayLower text.toList := by
  obtain ⟨text, htext, hread⟩ := Option.bind_eq_some_iff.1 h
  exact (nonneg_or_mayLower_of_coresOfText? hread).imp_right fun hlower => ⟨text, htext, hlower⟩

/-- **Memory is read as zero or above**, but for texts that may lower a total. -/
theorem nonneg_or_mayLower_of_miB? (h : miB? node = some x) :
    0.0 ≤ x ∨ ∃ text, text? node = some text ∧ MayLower text.toList := by
  obtain ⟨text, htext, hread⟩ := Option.bind_eq_some_iff.1 h
  exact (nonneg_or_mayLower_of_miBOfText? hread).imp_right fun hlower => ⟨text, htext, hlower⟩

end Quantity

end DeployLint
