import DeployLint.Proofs.Quantity.Reading

/-!
# Quantities — memory without a converted unit

A text of memory that ends with none of the converted units is the number that
it is as a whole, and else the number that it begins with, whatever unit follows
it. `miB?_reads_longest_number` says which number that is, and which texts are
read as none. One kind of them begins with a number all the same: where a digit
of another script follows, the reader of beginnings takes it for a part of the
number, and the reader of literals does not (`not_isLiteral_of_leads`).
-/

namespace DeployLint

namespace Quantity

open Decimal

variable {text : String}

/-- **How memory without a converted unit is read.** A literal is read as what it
stands for. Every other text is read as the longest decimal number that it
begins with, unless a digit of another script follows that number; such a text
is read as none, like one that begins with no number. -/
theorem miB?_reads_longest_number
    (hunit : ∀ unit : MemoryUnit, Text.endsWith (Text.trim text) unit.suffix = false) :
    let cs := (Text.trim text).toList
    (IsLiteral cs → (literalChars? cs).isSome = true ∧ miB? (.string text) = literalChars? cs) ∧
    ((∃ number, Leads (Signed IsDecimal) number cs) ↔
      ∃ number, Signed IsDecimal number ∧ number <+: cs) ∧
    (¬ IsLiteral cs → ∀ number rest, cs = number ++ rest → Leads (Signed IsDecimal) number cs →
      (literalChars? number).isSome = true ∧
      miB? (.string text) =
        if rest.head?.any Text.isDecimalDigit then none else literalChars? number) ∧
    (¬ IsLiteral cs → (∀ number, Signed IsDecimal number → ¬ number <+: cs) →
      miB? (.string text) = none) := by
  intro cs
  refine ⟨fun hliteral => ?literal, exists_leads_iff, fun hliteral number rest hcs hleads => ?number,
    fun hliteral hnone => ?none⟩
  case literal =>
    rw [miB?_string]
    exact ⟨isSome_literalChars?_iff.2 hliteral, miBOfText?_of_isLiteral hunit hliteral⟩
  case number =>
    refine ⟨isSome_literalChars?_iff.2 hleads.isNumber.isLiteral, ?_⟩
    rw [miB?_string, miBOfText?_of_not_isLiteral hunit hliteral]
    change (leadingNumber? cs).bind literalChars? = _
    rw [hcs] at hleads ⊢
    exact bind_leadingNumber?_of_leads hleads
  case none =>
    rw [miB?_string, miBOfText?_of_not_isLiteral hunit hliteral]
    exact bind_leadingNumber?_eq_none hnone

/-- A number before a unit, a literal, a number that a digit of another script
follows, and no number. -/
theorem miB?_reads_longest_number_fourTexts :
    ((literalChars? ['1', '2', '.', '5']).isSome = true ∧
      miB? (.string " 12.5K") = literalChars? ['1', '2', '.', '5']) ∧
    ((literalChars? ['1', 'e', '3']).isSome = true ∧
      miB? (.string "1e3") = literalChars? ['1', 'e', '3']) ∧
    miB? (.string "5\uff10M") = none ∧ miB? (.string "K5") = none := by
  have hunits : ∀ text ∈ [" 12.5K", "1e3", "5\uff10M", "K5"], ∀ unit : MemoryUnit,
      Text.endsWith (Text.trim text) unit.suffix = false := by
    intro text htext unit
    revert text htext
    cases unit <;> decide
  have hreads (text : String) (htext : text ∈ [" 12.5K", "1e3", "5\uff10M", "K5"]) :=
    miB?_reads_longest_number (hunits text htext)
  have hnot : ∀ {cs}, (literalChars? cs).isSome = false → ¬ IsLiteral cs := fun hcs hliteral =>
    Bool.false_ne_true (hcs.symm.trans (isSome_literalChars?_iff.2 hliteral))
  refine ⟨?twelve, ?thousand, ?five, ?none⟩
  case twelve =>
    have htrim : (Text.trim " 12.5K").toList = ['1', '2', '.', '5'] ++ ['K'] := by decide
    have hnumber : IsDecimal ['1', '2', '.', '5'] :=
      @IsDecimal.point ['1', '2'] ['5'] ⟨List.cons_ne_nil _ _, List.all_eq_true.1 rfl⟩
    have hleads : Leads (Signed IsDecimal) ['1', '2', '.', '5'] (['1', '2', '.', '5'] ++ ['K']) :=
      leads_isDecimal_iff.2 ⟨.bare hnumber, fun c hc => Option.some.inj hc ▸ by decide⟩
    exact (hreads " 12.5K" (by decide)).2.2.1 (hnot (by decide)) _ _ htrim (htrim ▸ hleads)
  case thousand =>
    exact (hreads "1e3" (by decide)).1 (isSome_literalChars?_iff.1 (by decide))
  case five =>
    have htrim : (Text.trim "5\uff10M").toList = ['5'] ++ ['\uff10', 'M'] := by decide
    have hnumber : IsDecimal ['5'] := .whole ⟨List.cons_ne_nil _ _, List.all_eq_true.1 rfl⟩
    have hleads : Leads (Signed IsDecimal) ['5'] (['5'] ++ ['\uff10', 'M']) :=
      leads_isDecimal_iff.2 ⟨.bare hnumber, fun c hc => Option.some.inj hc ▸ by decide⟩
    have hread := (hreads "5\uff10M" (by decide)).2.2.1 (hnot (by decide)) _ _ htrim
      (htrim ▸ hleads)
    exact hread.2.trans (if_pos (by decide +kernel))
  case none =>
    refine (hreads "K5" (by decide)).2.2.2 (hnot (by decide)) fun number hnumber hbegins => ?_
    have htrim : (Text.trim "K5").toList = ['K', '5'] := by decide
    rw [htrim] at hbegins
    cases hnumber with
    | bare h =>
      obtain ⟨c, rest, hc, rfl | rfl⟩ := h.head
      · obtain rfl := (List.cons_prefix_cons.1 hbegins).1
        exact absurd hc (by decide)
      · exact absurd (List.cons_prefix_cons.1 hbegins).1 (by decide)
    | plus _ => exact absurd (List.cons_prefix_cons.1 hbegins).1 (by decide)
    | minus _ => exact absurd (List.cons_prefix_cons.1 hbegins).1 (by decide)

/-- **Not every text that begins with a number is read**: a digit of another
script behind it takes it away. -/
theorem not_read_of_leading_number :
    ¬ ∀ text : String,
      (∀ unit : MemoryUnit, Text.endsWith (Text.trim text) unit.suffix = false) →
      (∃ number, Signed IsDecimal number ∧ number <+: (Text.trim text).toList) →
      (miB? (.string text)).isSome = true := by
  intro hall
  have hunits : ∀ unit : MemoryUnit, Text.endsWith (Text.trim "5\uff10M") unit.suffix = false := by
    intro unit
    cases unit <;> decide
  have hnumber : IsDecimal ['5'] := .whole ⟨List.cons_ne_nil _ _, List.all_eq_true.1 rfl⟩
  have htrim : (Text.trim "5\uff10M").toList = ['5', '\uff10', 'M'] := by decide
  have hread := hall "5\uff10M" hunits ⟨['5'], .bare hnumber, ['\uff10', 'M'], htrim.symm⟩
  exact absurd hread (by decide +kernel)

end Quantity

end DeployLint
