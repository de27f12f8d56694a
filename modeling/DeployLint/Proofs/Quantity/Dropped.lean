import DeployLint.Proofs.Quantity.Reading
import DeployLint.Proofs.Quantity.Shapes

/-!
# Quantities — which requests the totals drop

The rules on shapes and the sums read the same texts with two recognisers. A
shape is told by the end of a text or by its characters, a number by the
grammar of literals. The texts on which the two part are those of
`CpuDropped` and `MemoryDropped`: they look like a quantity and are read as
none. Where the rules report nothing, these are all that is dropped
(`requests_read_of_clean`), and there are such, as `lotsm`
(`not_read_of_clean`).
-/

namespace DeployLint

namespace Quantity

open Decimal

variable {text : String}

/-! ## Texts that pass the rules -/

theorem plausible_of_shapeFinding?_eq_none {subject : Subject} {rule : Rule} {title name : String}
    {isPlausible : String → Bool} {path : Path} {values : Document}
    (h : shapeFinding? subject rule title name isPlausible path values = none) {text : String}
    (hget : values.get? name = some (.string text)) : isPlausible text = true := by
  rw [shapeFinding?, hget] at h
  by_contra hnot
  simp [Document.asString?, Document.string, hnot] at h

/-- What a document requests is what the rules have looked at. -/
theorem plausible_of_check_eq_nil {subject : Subject} {d : Document} {depth : Nat}
    (hclean : check subject d depth = []) {requests : Document}
    (hrequests : requests ∈ Totals.requestsWithin d depth) (text : String) :
    (requests.get? "cpu" = some (.string text) → isPlausibleCpu text = true) ∧
      (requests.get? "memory" = some (.string text) → isPlausibleMemory text = true) := by
  obtain ⟨⟨path, node⟩, hnode, hread⟩ := List.mem_filterMap.1 hrequests
  obtain ⟨resources, hresources, hread⟩ := Option.bind_eq_some_iff.1 hread
  rw [check_eq_flatMap] at hclean
  have hsections := List.flatMap_eq_nil_iff.1 hclean (path, node) hnode
  simp only [checkNode, hresources, List.flatMap_eq_nil_iff] at hsections
  have hsection := hsections "requests" List.mem_cons_self
  rw [hread] at hsection
  obtain ⟨hcpu, hmemory⟩ := List.append_eq_nil_iff.1 hsection
  rw [Option.toList_eq_nil_iff] at hcpu hmemory
  exact ⟨plausible_of_shapeFinding?_eq_none hcpu, plausible_of_shapeFinding?_eq_none hmemory⟩

/-! ## Processor time -/

/-- The texts of processor time that look like a quantity and are read as none:
those with no number before the unit, and digits with more than one point
among them. -/
inductive CpuDropped (text : String) : Prop
  | unit {amount : String} :
      Text.trim text = amount ++ "m" → ¬ IsLiteral amount.toList → CpuDropped text
  | points : (∀ c ∈ text.toList, c.isDigit = true ∨ c = '.') → 2 ≤ text.toList.count '.' →
      CpuDropped text

section Unitless

variable (hchars : ∀ c ∈ text.toList, c.isDigit = true ∨ c = '.')

include hchars

/-- Digits and points have no blanks around them. -/
theorem trim_eq_self_of_digits : Text.trim text = text := by
  have hblank : ∀ c ∈ text.toList, Text.isBlank c = false := by
    intro c hc
    rcases hchars c hc with h | rfl
    · exact Text.isBlank_eq_false_of_isDigit h
    · rfl
  exact Text.trim_eq_self (fun c hc => hblank c (List.mem_of_mem_head? hc))
    fun c hc => hblank c (List.mem_of_getLast? hc)

/-- And no unit behind them. -/
theorem endsWith_eq_false_of_digits {tail : String}
    (htail : ∃ c ∈ tail.toList, c.isDigit = false ∧ c ≠ '.') : Text.endsWith text tail = false := by
  obtain ⟨c, hc, hdigit, hpoint⟩ := htail
  refine Bool.eq_false_iff.2 fun hends => ?_
  obtain ⟨start, rfl⟩ := Text.endsWith_iff.1 hends
  rw [String.toList_append] at hchars
  rcases hchars c (List.mem_append_right _ hc) with h | h
  · exact Bool.false_ne_true (hdigit.symm.trans h)
  · exact hpoint h

theorem cores?_of_digits_eq_none_iff :
    cores? (.string text) = none ↔ ¬ IsLiteral text.toList := by
  rw [cores?_string, trim_eq_self_of_digits hchars,
    coresOfText?_eq_none_iff (endsWith_eq_false_of_digits hchars ⟨'m', by decide⟩)]

end Unitless

theorem CpuDropped.cores?_eq_none (h : CpuDropped text) : cores? (.string text) = none := by
  cases h with
  | unit htrim hamount => rw [cores?_string, htrim, coresOfText?_unit_eq_none_iff.2 hamount]
  | points hchars hcount =>
    refine (cores?_of_digits_eq_none_iff hchars).2 fun hliteral => ?_
    have hpoint := (isDecimal_iff.1 (isDecimal_of_isLiteral hchars hliteral)).point
    omega

/-- **No other plausible text of processor time is dropped.** -/
theorem cpuDropped_of_isPlausibleCpu (h : isPlausibleCpu text = true)
    (hnone : cores? (.string text) = none) : CpuDropped text := by
  cases hunit : Text.endsWith text "m" with
  | true =>
    have htrim : Text.endsWith (Text.trim text) "m" = true :=
      Text.endsWith_trim (by decide) (by decide) hunit
    obtain ⟨amount, hamount⟩ := Text.endsWith_iff.1 htrim
    rw [cores?_string, hamount, coresOfText?_unit_eq_none_iff] at hnone
    exact .unit hamount hnone
  | false =>
    rw [isPlausibleCpu, hunit, Bool.false_or, Bool.and_eq_true, Bool.not_eq_true',
      List.isEmpty_eq_false_iff_exists_mem] at h
    obtain ⟨⟨c, hc⟩, hall⟩ := h
    rw [List.all_eq_true] at hall
    have hdigit : ∃ c ∈ text.toList, c.isDigit = true :=
      ⟨c, List.mem_of_mem_filter hc, hall c hc⟩
    have hchars : ∀ c ∈ text.toList, c.isDigit = true ∨ c = '.' := by
      intro c hc
      by_cases hpoint : c = '.'
      · exact .inr hpoint
      · exact .inl (hall c (List.mem_filter.2 ⟨hc, bne_iff_ne.2 hpoint⟩))
    refine .points hchars (Nat.lt_of_not_le fun hcount => ?_)
    exact (cores?_of_digits_eq_none_iff hchars).1 hnone
      (.bare (isDecimal_of_count_point_le hchars hdigit hcount).isMagnitude)

/-! ## Memory -/

/-- The units that memory usually has and that are not converted. -/
def otherUnits : List String := ["Ti", "K", "M", "G", "T"]

/-- The texts of memory that look like a quantity and are read as none: those
with no number before a converted unit; and with another unit, those that begin
with no number and those where a digit of another script follows the longest
number in ASCII that they begin with. -/
inductive MemoryDropped (text : String) : Prop
  | unit {amount : String} {unit : MemoryUnit} :
      Text.trim text = amount ++ unit.suffix → ¬ IsLiteral amount.toList → MemoryDropped text
  | noNumber {unit : String} : unit ∈ otherUnits → Text.endsWith text unit = true →
      (∀ number, Signed IsDecimal number → ¬ number <+: (Text.trim text).toList) →
      MemoryDropped text
  | otherScript {unit : String} {number rest : List Char} : unit ∈ otherUnits →
      Text.endsWith text unit = true → (Text.trim text).toList = number ++ rest →
      Leads (Signed IsDecimal) number (number ++ rest) →
      rest.head?.any Text.isDecimalDigit = true → MemoryDropped text

/-- A text of memory with another unit is read as the number that is found at its beginning. -/
theorem miB?_of_otherUnit {unit : String} (hunit : unit ∈ otherUnits)
    (h : Text.endsWith text unit = true) :
    miB? (.string text) = (leadingNumber? (Text.trim text).toList).bind literalChars? := by
  have hblanks : ∀ unit ∈ otherUnits,
      unit.toList ≠ [] ∧ unit.toList.any Text.isBlank = false := by decide
  obtain ⟨hne, hblank⟩ := hblanks unit hunit
  have htrim : Text.endsWith (Text.trim text) unit = true := Text.endsWith_trim hne hblank h
  have hconverted : ∀ other : MemoryUnit, Text.endsWith (Text.trim text) other.suffix = false := by
    have hapart : ∀ unit ∈ otherUnits, ∀ other ∈ [MemoryUnit.kibi, .mebi, .gibi],
        ¬ unit.toList <:+ other.suffix.toList ∧ ¬ other.suffix.toList <:+ unit.toList := by decide
    intro other
    obtain ⟨hother, htail⟩ := hapart unit hunit other (by cases other <;> decide)
    exact endsWith_eq_false htrim hother htail
  have hliteral : ¬ IsLiteral (Text.trim text).toList := by
    have hletter : ∀ unit ∈ otherUnits, unit.toList.getLast?.any isFinal = false := by decide
    intro hliteral
    obtain ⟨init, last, hinit, hend⟩ := hliteral.endsLiteral
    obtain ⟨start, hstart⟩ := Text.endsWith_iff.1 htrim
    have hlast : unit.toList.getLast? = some last := by
      rw [← List.getLast?_append_of_ne_nil start.toList hne, ← String.toList_append, ← hstart,
        hinit, List.getLast?_concat]
    rw [(Option.any_eq_false _ _).1 (hletter unit hunit) last hlast] at hend
    exact Bool.false_ne_true hend
  rw [miB?_string, miBOfText?_of_not_isLiteral hconverted hliteral]

theorem MemoryDropped.miB?_eq_none (h : MemoryDropped text) : miB? (.string text) = none := by
  cases h with
  | unit htrim hamount => rw [miB?_string, htrim, miBOfText?_unit_eq_none_iff.2 hamount]
  | noNumber hunit hends hnone =>
    rw [miB?_of_otherUnit hunit hends, bind_leadingNumber?_eq_none hnone]
  | otherScript hunit hends htrim hleads hfollows =>
    rw [miB?_of_otherUnit hunit hends, htrim, bind_leadingNumber?_of_leads hleads, if_pos hfollows]

/-- **No other text of memory with another unit is dropped.** -/
theorem memoryDropped_of_otherUnit {unit : String} (hunit : unit ∈ otherUnits)
    (hends : Text.endsWith text unit = true) (hnone : miB? (.string text) = none) :
    MemoryDropped text := by
  by_cases hnumber : ∃ number, Signed IsDecimal number ∧ number <+: (Text.trim text).toList
  · obtain ⟨number, hleads⟩ := exists_leads_iff.2 hnumber
    obtain ⟨rest, hrest⟩ := hleads.begins
    rw [← hrest] at hleads
    refine .otherScript hunit hends hrest.symm hleads (by_contra fun hstops => ?_)
    rw [miB?_of_otherUnit hunit hends, ← hrest, bind_leadingNumber?_of_leads hleads, if_neg hstops,
      literalChars?_eq_none_iff] at hnone
    exact hnone hleads.isNumber.isLiteral
  · exact .noNumber hunit hends fun number hdecimal hbegins => hnumber ⟨number, hdecimal, hbegins⟩

/-- **No other plausible text of memory is dropped.** -/
theorem memoryDropped_of_isPlausibleMemory (h : isPlausibleMemory text = true)
    (hnone : miB? (.string text) = none) : MemoryDropped text := by
  rw [isPlausibleMemory, Bool.or_eq_true, List.any_eq_true, Bool.and_eq_true, Bool.not_eq_true',
    List.all_eq_true] at h
  rcases h with ⟨unit, hunit, hends⟩ | ⟨hne, hdigits⟩
  · have hcases : ∀ unit ∈ memorySuffixes,
        unit ∈ otherUnits ∨ ∃ converted ∈ [MemoryUnit.kibi, .mebi, .gibi],
          unit = converted.suffix := by decide
    rcases hcases unit hunit with hother | ⟨converted, -, rfl⟩
    · exact memoryDropped_of_otherUnit hother hends hnone
    · have htrim : Text.endsWith (Text.trim text) converted.suffix = true := by
        refine Text.endsWith_trim ?_ ?_ hends <;> cases converted <;> decide
      obtain ⟨amount, hamount⟩ := Text.endsWith_iff.1 htrim
      rw [miB?_string, hamount, miBOfText?_unit_eq_none_iff] at hnone
      exact .unit hamount hnone
  · have hchars : ∀ c ∈ text.toList, c.isDigit = true ∨ c = '.' := fun c hc => .inl (hdigits c hc)
    have hunit : ∀ unit : MemoryUnit, Text.endsWith text unit.suffix = false :=
      fun unit => endsWith_eq_false_of_digits hchars ⟨'i', by cases unit <;> decide⟩
    have hwhole : IsDigits text.toList := by
      refine ⟨fun hnil => ?_, hdigits⟩
      rw [String.toList_eq_nil_iff.1 hnil] at hne
      exact nomatch hne
    have hliteral : IsLiteral text.toList := .bare (IsDecimal.whole hwhole).isMagnitude
    rw [miB?_string, trim_eq_self_of_digits hchars, miBOfText?_of_isLiteral hunit hliteral,
      literalChars?_eq_none_iff] at hnone
    exact absurd hliteral hnone

/-! ## What a clean check means -/

/-- **Where the rules on shapes report nothing**, a text that is requested is
dropped exactly if it is one of those that look like a quantity and are read
as none; every other one is read, and what is read is what counts. -/
theorem requests_read_of_clean {subject : Subject} {d : Document} {depth : Nat}
    (hclean : check subject d depth = []) {requests : Document}
    (hrequests : requests ∈ Totals.requestsWithin d depth) (text : String) :
    (requests.get? "cpu" = some (.string text) →
      (cores? (.string text) = none ↔ CpuDropped text) ∧
      ∀ cores ∈ cores? (.string text), (Totals.ofRequests requests).cpuCores = cores) ∧
    (requests.get? "memory" = some (.string text) →
      (miB? (.string text) = none ↔ MemoryDropped text) ∧
      ∀ amount ∈ miB? (.string text), (Totals.ofRequests requests).memoryMiB = amount) := by
  obtain ⟨hcpu, hmemory⟩ := plausible_of_check_eq_nil hclean hrequests text
  constructor
  · intro hget
    refine ⟨⟨cpuDropped_of_isPlausibleCpu (hcpu hget), CpuDropped.cores?_eq_none⟩, ?_⟩
    intro cores hcores
    rw [Totals.ofRequests, hget, Option.bind_some, hcores, Option.getD_some]
  · intro hget
    refine ⟨⟨memoryDropped_of_isPlausibleMemory (hmemory hget), MemoryDropped.miB?_eq_none⟩, ?_⟩
    intro amount hamount
    rw [Totals.ofRequests, hget, Option.bind_some, hamount, Option.getD_some]

/-- A document that requests two texts. -/
def requesting (cpu memory : String) : Document :=
  .mapping [("resources", .mapping [("requests",
    .mapping [("cpu", .string cpu), ("memory", .string memory)])])]

/-- A number before `m` and one before `K`, with blanks around it, are read; two
points, and a digit of another script behind a number, take a text away. -/
theorem requests_read_of_clean_fourTexts :
    check ⟨"in", none⟩ (requesting " -1.5e3m" ".5K") 64 = [] ∧
    cores? (.string " -1.5e3m") ≠ none ∧ miB? (.string ".5K") ≠ none ∧
    check ⟨"in", none⟩ (requesting "1.2.3" "5\uff10M") 64 = [] ∧
    cores? (.string "1.2.3") = none ∧ miB? (.string "5\uff10M") = none := by
  have hclean : check ⟨"in", none⟩ (requesting " -1.5e3m" ".5K") 64 = [] := by decide +kernel
  have hcleanDropped : check ⟨"in", none⟩ (requesting "1.2.3" "5\uff10M") 64 = [] := by
    decide +kernel
  have hread (text : String) := requests_read_of_clean hclean (List.mem_singleton.2 rfl) text
  have hreadDropped (text : String) :=
    requests_read_of_clean hcleanDropped (List.mem_singleton.2 rfl) text
  have hdigits : ∀ {cs : List Char}, cs ≠ [] → cs.all Char.isDigit = true → IsDigits cs :=
    fun hne hall => ⟨hne, List.all_eq_true.1 hall⟩
  refine ⟨hclean, ?cpu, ?memory, hcleanDropped, ?points, ?otherScript⟩
  case cpu =>
    have hnumber : IsLiteral "-1.5e3".toList := by
      have hdecimal : IsDecimal ['1', '.', '5'] :=
        @IsDecimal.point ['1'] ['5'] (hdigits (List.cons_ne_nil _ _) rfl)
      have hthree : IsDigits ['3'] := hdigits (List.cons_ne_nil _ _) rfl
      exact .minus (.number hdecimal (.mark (.inl rfl) (.bare hthree)))
    rw [Ne, ((hread " -1.5e3m").1 rfl).1]
    intro hdropped
    cases hdropped with
    | @unit amount htrim hamount =>
      have hown : Text.trim " -1.5e3m" = "-1.5e3" ++ "m" := by decide +kernel
      exact hamount ((String.append_left_inj "m").1 (htrim.symm.trans hown) ▸ hnumber)
    | points hchars _ => exact absurd (hchars ' ' (by decide)) (by decide)
  case memory =>
    have hnumber : Signed IsDecimal ['.', '5'] :=
      .bare (@IsDecimal.point [] ['5'] (hdigits (List.cons_ne_nil _ _) rfl))
    have htrim : (Text.trim ".5K").toList = ['.', '5'] ++ ['K'] := by decide +kernel
    have hlongest : Leads (Signed IsDecimal) ['.', '5'] (['.', '5'] ++ ['K']) :=
      leads_isDecimal_iff.2 ⟨hnumber, fun c hc => Option.some.inj hc ▸ by decide⟩
    rw [Ne, ((hread ".5K").2 rfl).1]
    intro hdropped
    cases hdropped with
    | @unit amount unit hamount _ =>
      have hends : Text.endsWith (Text.trim ".5K") unit.suffix = true :=
        Text.endsWith_iff.2 ⟨amount, hamount⟩
      revert hends
      cases unit <;> decide
    | noNumber _ _ hnone => exact hnone _ hnumber ⟨['K'], htrim.symm⟩
    | @otherScript unit number rest _ _ hsplit hleads hfollows =>
      rw [← hsplit, htrim] at hleads
      obtain rfl := hleads.unique hlongest
      obtain rfl := List.append_cancel_left (hsplit.symm.trans htrim)
      exact absurd hfollows (by decide +kernel)
  case points =>
    have hall : "1.2.3".toList.all (fun c => c.isDigit || c == '.') = true := by decide
    refine ((hreadDropped "1.2.3").1 rfl).1.2 (.points (fun c hc => ?_) (by decide))
    simpa using List.all_eq_true.1 hall c hc
  case otherScript =>
    have htrim : (Text.trim "5\uff10M").toList = ['5'] ++ ['\uff10', 'M'] := by decide
    have hnumber : IsDecimal ['5'] := .whole (hdigits (List.cons_ne_nil _ _) rfl)
    have hleads : Leads (Signed IsDecimal) ['5'] (['5'] ++ ['\uff10', 'M']) :=
      leads_isDecimal_iff.2 ⟨.bare hnumber, fun c hc => Option.some.inj hc ▸ by decide⟩
    exact ((hreadDropped "5\uff10M").2 rfl).1.2
      (.otherScript (show "M" ∈ otherUnits by decide) (by decide) htrim hleads (by decide +kernel))

/-- **A clean check does not mean that every request is read**: the unit alone
makes a text plausible. -/
theorem not_read_of_clean :
    ¬ ∀ (subject : Subject) (d : Document) (depth : Nat), check subject d depth = [] →
      ∀ requests ∈ Totals.requestsWithin d depth, ∀ text : String,
        (requests.get? "cpu" = some (.string text) → (cores? (.string text)).isSome = true) ∧
        (requests.get? "memory" = some (.string text) → (miB? (.string text)).isSome = true) := by
  intro h
  have hclean : check ⟨"in", none⟩ (requesting "lotsm" "lotsMi") 64 = [] := by decide +kernel
  have hread := h _ _ _ hclean (.mapping [("cpu", .string "lotsm"), ("memory", .string "lotsMi")])
    (List.mem_singleton.2 rfl) "lotsm"
  exact absurd (hread.1 rfl) (by decide +kernel)

end Quantity

end DeployLint
