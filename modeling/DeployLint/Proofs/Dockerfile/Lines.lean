import DeployLint.Proofs.Dockerfile.Copies
import DeployLint.Proofs.Dockerfile.Images
import DeployLint.Proofs.Finding.Order

/-!
# Build files — the lines that findings are on

What is found on a line is on that line, and what is found on an instruction
is on the line that the instruction begins on (`BeginsOn`). As long as there
are fewer lines than numbers, the numbers of both ascend through a build file,
so along the findings of any one pass they never decrease. And no two lines
have the same number, so what is reported on a line is what the check of that
line finds (`reportsOn_checkLines_iff`).
-/

namespace DeployLint

open Finding (All Ascends Reports ReportsOn ascends_flatMap)

namespace Dockerfile

open Instruction (counts groups ofGroup?)

variable {text : String} {subject : Subject} {i j : Instruction} {f : Finding} {n : UInt32}

/-! ## Lines that count -/

/-- A line that counts stands in the build file under its number, with
blanks around it at most. -/
theorem exists_line_of_mem_physicalLines (hi : i ∈ physicalLines text) :
    ∃ line, (i.line, line) ∈ Text.numberedLines text ∧ Text.trim line = i.text ∧
      counts i.text = true := by
  obtain ⟨hmem, hcounts⟩ := List.mem_filter.1 hi
  obtain ⟨⟨n, line⟩, hline, rfl⟩ := List.mem_map.1 hmem
  exact ⟨line, hline, rfl, hcounts⟩

/-- No two lines have the same number, as long as there are fewer lines than numbers. -/
theorem eq_of_line_eq (hfew : (Text.lines text).length < UInt32.size) (hi : i ∈ physicalLines text)
    (hj : j ∈ physicalLines text) (h : i.line = j.line) : i = j := by
  have hnodup : ((physicalLines text).map Instruction.line).Nodup :=
    List.pairwise_map.2 ((physicalLines_pairwise hfew).imp UInt32.ne_of_lt)
  exact List.inj_on_of_nodup_map hnodup hi hj h

/-! ## Instructions -/

/-- A line is the first of those that an instruction of a build file is made of. -/
def BeginsOn (text : String) (n : UInt32) (i : Instruction) : Prop :=
  i ∈ instructions text ∧ ∃ first rest, first :: rest ∈ groups (physicalLines text) ∧
    ofGroup? (first :: rest) = some i ∧ first.line = n

/-- An instruction carries the number of its first line. -/
theorem beginsOn_line (hi : i ∈ instructions text) : BeginsOn text i.line i := by
  have hgroups : some i ∈ (groups (physicalLines text)).map ofGroup? := by
    rw [← map_some_instructions]
    exact List.mem_map_of_mem hi
  obtain ⟨group, hgroup, hofGroup⟩ := List.mem_map.1 hgroups
  cases group with
  | nil => exact nomatch hofGroup
  | cons first rest =>
    have hline : i.line = first.line := by
      rw [ofGroup?] at hofGroup
      exact (congrArg Instruction.line (Option.some.inj hofGroup)).symm
    exact ⟨hi, first, rest, hgroup, hofGroup, hline.symm⟩

/-- And that line counts. -/
theorem BeginsOn.exists_physicalLine (h : BeginsOn text n i) :
    ∃ first ∈ physicalLines text, first.line = n := by
  obtain ⟨-, first, rest, hgroup, -, hline⟩ := h
  refine ⟨first, ?_, hline⟩
  rw [← List.flatten_splitBy (fun (line : Instruction) _ => Instruction.continues line.text)
    (physicalLines text)]
  exact List.mem_flatten.2 ⟨first :: rest, hgroup, List.mem_cons_self⟩

/-! ## Pass by pass -/

/-! ### Lines -/

theorem line_of_mem_checkLine (hf : f ∈ checkLine subject i) : f.line = some i.line := by
  have hall : All (fun f => f.line = some i.line) (checkLine subject i) := by
    rw [checkLine]
    refine All.append (All.append ?rootUser ?addLocalFiles) ?pipCache
    all_goals exact All.singleton_of rfl
  exact hall f hf

theorem line_of_mem_checkStart (hf : f ∈ checkStart subject i) : f.line = some i.line := by
  have hall : All (fun f => f.line = some i.line) (checkStart subject i) := by
    rw [checkStart]
    exact All.singleton_unless rfl
  exact hall f hf

theorem exists_physicalLine_of_mem_checkLines (hf : f ∈ checkLines text subject)
    (hn : n ∈ f.line) : ∃ i ∈ physicalLines text, i.line = n := by
  rw [checkLines] at hf
  split at hf
  · obtain rfl := List.mem_singleton.1 hf
    exact absurd hn (Option.not_mem_none n)
  · rename_i first rest hlines
    rw [hlines]
    rcases List.mem_append.1 hf with hstart | hmistake
    · refine ⟨first, List.mem_cons_self, ?_⟩
      exact Option.some.inj ((line_of_mem_checkStart hstart).symm.trans hn)
    · obtain ⟨i, hi, hmem⟩ := List.mem_flatMap.1 hmistake
      exact ⟨i, hi, Option.some.inj ((line_of_mem_checkLine hmem).symm.trans hn)⟩

theorem ascends_checkLines (hfew : (Text.lines text).length < UInt32.size) (subject : Subject) :
    Ascends Finding.line (checkLines text subject) := by
  have hascend : (physicalLines text).Pairwise fun i j => i.line < j.line :=
    physicalLines_pairwise hfew
  rw [checkLines]
  cases hlines : physicalLines text with
  | nil => exact List.pairwise_singleton _ _
  | cons first rest =>
    rw [hlines] at hascend
    have hfirst : ∀ i ∈ first :: rest, first.line ≤ i.line := by
      refine List.forall_mem_cons.2 ⟨UInt32.le_refl _, fun i hi => ?_⟩
      exact UInt32.le_of_lt ((List.pairwise_cons.1 hascend).1 i hi)
    refine Ascends.append_of_eq (k := first.line) (fun f hf m hm => ?start)
      (ascends_flatMap (hascend.imp UInt32.le_of_lt) fun i f hf n hn => ?same)
      fun g hg n hn => ?behind
    case start => exact Option.some.inj (hm.symm.trans (line_of_mem_checkStart hf))
    case same => exact Option.some.inj ((line_of_mem_checkLine hf).symm.trans hn)
    case behind =>
      obtain ⟨i, hi, hmem⟩ := List.mem_flatMap.1 hg
      rw [← Option.some.inj ((line_of_mem_checkLine hmem).symm.trans hn)]
      exact hfirst i hi

theorem checkLines_eq {first : Instruction} {rest : List Instruction}
    (hlines : physicalLines text = first :: rest) :
    checkLines text subject =
      checkStart subject first ++ (first :: rest).flatMap (checkLine subject) := by
  rw [checkLines, hlines]

/-- What the check of a line finds is reported on it. -/
theorem reportsOn_checkLines (hi : i ∈ physicalLines text) {rule : Rule}
    (h : Reports (checkLine subject i) rule) :
    ReportsOn (checkLines text subject) rule i.line := by
  obtain ⟨first, rest, hlines⟩ := List.exists_cons_of_ne_nil (List.ne_nil_of_mem hi)
  obtain ⟨f, hf, hcode⟩ := h
  have hmem : f ∈ (first :: rest).flatMap (checkLine subject) :=
    List.mem_flatMap.2 ⟨i, hlines ▸ hi, hf⟩
  rw [checkLines_eq hlines]
  exact ⟨f, List.mem_append_right _ hmem, hcode, line_of_mem_checkLine hf⟩

/-- **What is reported on a line is what its check finds**, for the rules that
every line is asked. -/
theorem reportsOn_checkLines_iff (hfew : (Text.lines text).length < UInt32.size)
    (hi : i ∈ physicalLines text) {rule : Rule} (hrule : rule ∈ mistakeRules) :
    ReportsOn (checkLines text subject) rule i.line ↔ Reports (checkLine subject i) rule := by
  refine ⟨?_, reportsOn_checkLines hi⟩
  obtain ⟨first, rest, hlines⟩ := List.exists_cons_of_ne_nil (List.ne_nil_of_mem hi)
  rw [checkLines_eq hlines]
  rintro ⟨f, hf, hcode, hline⟩
  rcases List.mem_append.1 hf with hstart | hmistake
  · have hother : rule ∉ [Rule.missingFrom] := by
      rintro hmem
      rw [List.mem_singleton.1 hmem] at hrule
      exact absurd hrule (by decide)
    exact absurd hcode ((ofRules_checkStart subject first f hstart).code_ne hother)
  · obtain ⟨j, hj, hmem⟩ := List.mem_flatMap.1 hmistake
    have hsame : j.line = i.line :=
      Option.some.inj ((line_of_mem_checkLine hmem).symm.trans hline)
    obtain rfl := eq_of_line_eq hfew (hlines ▸ hj) hi hsame
    exact ⟨f, hmem, hcode⟩

/-! ### Copies -/

/-- Of the findings on instructions only those on copies have a line. -/
theorem exists_copy_of_mem_checkPractices (hf : f ∈ checkPractices text subject)
    (hn : n ∈ f.line) : ∃ i ∈ instructions text, f ∈ checkCopy subject i := by
  have hall : All (fun f => f.line = none ∨ ∃ i ∈ instructions text, f ∈ checkCopy subject i)
      (checkPractices text subject) := by
    rw [checkPractices]
    cases hinstructions : instructions text with
    | nil => exact All.nil
    | cons first rest =>
      refine All.append (All.append (All.append (All.append
        ?workdir ?user) ?copies) ?stages) ?labels
      case workdir => exact All.singleton_unless (.inl rfl)
      case user => exact All.singleton_unless (.inl rfl)
      case copies => exact All.flatMap fun i hi f hf => .inr ⟨i, hi, hf⟩
      case stages => exact All.singleton_of (.inl rfl)
      case labels =>
        rw [checkLabels]
        split
        · exact All.singleton (.inl rfl)
        · exact All.map fun label _ => .inl rfl
  exact (hall f hf).resolve_left fun hnone => absurd (hnone ▸ hn) (Option.not_mem_none n)

/-- A copy that is reported has one of two keywords. -/
theorem is_of_mem_checkCopy (hf : f ∈ checkCopy subject i) :
    i.is "COPY" = true ∨ i.is "ADD" = true := by
  rw [checkCopy] at hf
  split at hf
  · exact absurd hf List.not_mem_nil
  · rename_i hcopy
    rw [Bool.or_eq_true, not_or, Bool.not_eq_true, Bool.not_eq_false', Bool.or_eq_true] at hcopy
    exact hcopy.1

theorem ascends_copies (hfew : (Text.lines text).length < UInt32.size) (subject : Subject) :
    Ascends Finding.line
      ((checkPractices text subject).filter fun f => f.code = Rule.absoluteCopySource.code) := by
  rw [filter_absoluteCopySource]
  refine ascends_flatMap ((instructions_pairwise hfew).imp UInt32.le_of_lt) fun i f hf n hn => ?_
  exact Option.some.inj ((line_of_mem_checkCopy hf).1.symm.trans hn)

/-! ### Tags -/

/-- What is found on a tag is on the line of the instruction that it is read from. -/
theorem exists_start_of_mem_checkTags (hf : f ∈ checkTags text subject) :
    ∃ i ∈ instructions text, i.is "FROM" = true ∧ f.line = some i.line := by
  obtain ⟨x, hx, hmem⟩ := List.mem_flatMap.1 hf
  obtain ⟨found, -, rfl⟩ := List.mem_map.1 hmem
  rw [imageTags_eq] at hx
  obtain ⟨i, hi, htag⟩ := List.mem_filterMap.1 hx
  obtain ⟨hfrom, -, -, -, hline⟩ := imageTag?_eq_some_iff.1 htag
  exact ⟨i, hi, hfrom, congrArg some hline.symm⟩

theorem ascends_checkTags (hfew : (Text.lines text).length < UInt32.size) (subject : Subject) :
    Ascends Finding.line (checkTags text subject) := by
  have hascend : (imageTags text).Pairwise fun x y => x.1 ≤ y.1 := by
    rw [imageTags_eq]
    refine List.pairwise_filterMap.2 ((instructions_pairwise hfew).imp ?_)
    intro i j hlt x hx y hy
    obtain ⟨-, -, -, -, hi⟩ := imageTag?_eq_some_iff.1 hx
    obtain ⟨-, -, -, -, hj⟩ := imageTag?_eq_some_iff.1 hy
    exact hi ▸ hj ▸ UInt32.le_of_lt hlt
  refine ascends_flatMap hascend fun x f hf n hn => ?_
  obtain ⟨found, -, rfl⟩ := List.mem_map.1 hf
  exact Option.some.inj hn

end Dockerfile

end DeployLint
