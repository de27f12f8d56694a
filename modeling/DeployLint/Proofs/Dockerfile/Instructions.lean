import Mathlib.Data.List.SplitBy
import Mathlib.Data.List.Nodup
import DeployLint.Dockerfile.Instruction
import DeployLint.Proofs.Text.Lines

/-!
# Build files — instructions are groups of lines

Reading the instructions of a build file is one loop over all of its lines,
with the instruction that has begun as its state. The same instructions are
found without a state: split the lines that count into `groups`, each of
which goes on as long as its lines are continued, and join every group
(`ofGroup?`). The loop passes over blank lines and comments, also between
the lines of a group, so a group is what the loop has taken since it last
gave an instruction out (`map_some_gather`).
-/

namespace DeployLint

namespace Text

/-- Texts with one more behind them: its separator and itself go to the end. -/
theorem intercalate_concat (sep first last : String) (middle : List String) :
    sep.intercalate (first :: middle ++ [last]) =
      sep.intercalate (first :: middle) ++ sep ++ last := by
  induction middle generalizing first with
  | nil => exact String.intercalate_cons_cons
  | cons second middle ih =>
    rw [List.cons_append, List.cons_append, String.intercalate_cons_cons, ← List.cons_append,
      ih, String.intercalate_cons_cons]
    simp only [String.append_assoc]

end Text

namespace Instruction

/-! ## Groups of lines -/

/-- Lines in groups, in order: a group goes on as long as its lines are
continued in the next one. -/
def groups (lines : List Instruction) : List (List Instruction) :=
  lines.splitBy fun line _ => continues line.text

/-- The instruction of a group of lines: it begins on the first of them, and
its text is the first body with every other body that is not empty behind
it, a blank between two of them. -/
def ofGroup? : List Instruction → Option Instruction
  | [] => none
  | first :: rest =>
    some ⟨first.line, " ".intercalate
      (body first.text :: (rest.map fun line => body line.text).filter fun text => !text.isEmpty)⟩

/-- The numbered lines that count, without the blanks around them. -/
def counted (lines : List (UInt32 × String)) : List Instruction :=
  (lines.map fun (n, line) => ⟨n, Text.trim line⟩).filter fun (i : Instruction) => counts i.text

theorem counted_cons (n : UInt32) (line : String) (lines : List (UInt32 × String)) :
    counted ((n, line) :: lines) =
      if counts (Text.trim line) = true then ⟨n, Text.trim line⟩ :: counted lines
      else counted lines := by
  rw [counted, List.map_cons, List.filter_cons]
  rfl

theorem body_of_not_continues {line : String} (h : continues line = false) : body line = line := by
  rw [body, Text.beforeEnd?_eq_none_iff.2 h]

theorem ofGroup?_singleton (line : Instruction) :
    ofGroup? [line] = some ⟨line.line, body line.text⟩ := by
  rw [ofGroup?, List.map_nil, List.filter_nil, String.intercalate_singleton]

/-- A group with one more line is the instruction so far, joined with it. -/
theorem ofGroup?_concat (first line : Instruction) (rest : List Instruction) :
    ofGroup? (first :: rest ++ [line]) = (ofGroup? (first :: rest)).map (·.join line.text) := by
  rw [List.cons_append, ofGroup?, ofGroup?, Option.map_some, List.map_append, List.filter_append,
    join]
  split
  · rename_i hempty
    simp only [List.map_cons, List.map_nil, List.filter_cons, hempty, Bool.not_true,
      Bool.false_eq_true, if_false, List.filter_nil, List.append_nil]
  · rename_i hfull
    rw [Bool.not_eq_true] at hfull
    simp only [List.map_cons, List.map_nil, List.filter_cons, hfull, Bool.not_false, if_true,
      List.filter_nil, ← List.cons_append, Text.intercalate_concat]

/-- Lines that all go on in the next one are a chain of the splitting. -/
theorem isChain_of_continued {lines : List Instruction} {last : Instruction}
    (h : ∀ line ∈ lines, continues line.text = true) :
    (lines ++ [last]).IsChain fun line _ => continues line.text = true := by
  induction lines with
  | nil => exact .singleton last
  | cons line lines ih =>
    obtain ⟨hline, hlines⟩ := List.forall_mem_cons.1 h
    rw [List.cons_append, List.isChain_cons]
    exact ⟨fun _ _ => hline, ih hlines⟩

/-- And in such a chain all lines but the last go on. -/
theorem continued_of_isChain {lines : List Instruction} {last : Instruction}
    (h : (lines ++ [last]).IsChain fun line _ => continues line.text = true) :
    ∀ line ∈ lines, continues line.text = true := by
  induction lines with
  | nil => exact List.forall_mem_nil _
  | cons line lines ih =>
    rw [List.cons_append, List.isChain_cons] at h
    obtain ⟨hline, hlines⟩ := h
    obtain ⟨next, hnext⟩ : ∃ next, next ∈ (lines ++ [last]).head? := by
      cases lines <;> exact ⟨_, rfl⟩
    exact List.forall_mem_cons.2 ⟨hline next hnext, ih hlines⟩

/-- A group ends at the first line that is not continued. -/
theorem groups_append_of_not_continues {lines : List Instruction} {last : Instruction}
    (h : ∀ line ∈ lines, continues line.text = true) (hlast : continues last.text = false)
    (rest : List Instruction) :
    groups (lines ++ last :: rest) = (lines ++ [last]) :: groups rest := by
  have hsplit : lines ++ last :: rest = (lines ++ [last]) ++ rest := by simp
  rw [groups, hsplit, List.splitBy_append, List.splitBy_of_isChain (by simp)
    (isChain_of_continued h)]
  · rfl
  · intro x hx y _
    rw [List.getLast?_concat, Option.mem_some_iff] at hx
    rw [← hx, hlast]

/-- Continued lines at the end of all are a group of their own. -/
theorem groups_of_continued {lines : List Instruction} (hne : lines ≠ [])
    (h : ∀ line ∈ lines, continues line.text = true) : groups lines = [lines] := by
  refine List.splitBy_of_isChain hne ?_
  obtain ⟨init, last, rfl⟩ := List.eq_nil_or_concat lines |>.resolve_left hne
  rw [List.concat_eq_append] at h ⊢
  exact isChain_of_continued fun line hline => h line (List.mem_append_left _ hline)

/-! ## The loop -/

/-- **What the loop has begun is the instruction of the group that it has
taken**, and what it still gives out are the instructions of that group and
of those behind it, one for each. -/
theorem map_some_gather (group : List Instruction) (lines : List (UInt32 × String))
    (h : ∀ line ∈ group, continues line.text = true) :
    (gather (ofGroup? group) lines).map some = (groups (group ++ counted lines)).map ofGroup? := by
  -- the group grows by each line that is continued and is given out at the first that is not
  induction lines generalizing group with
  | nil =>
    rw [gather, counted, List.map_nil, List.filter_nil, List.append_nil]
    cases group with
    | nil => rfl
    | cons first rest => rw [groups_of_continued (List.cons_ne_nil first rest) h]; rfl
  | cons x lines ih =>
    obtain ⟨n, raw⟩ := x
    rw [gather, counted_cons]
    split
    · rename_i hcounts
      have hextend : ofGroup? (group ++ [⟨n, Text.trim raw⟩]) =
          some (extend (ofGroup? group) n (Text.trim raw)) := by
        cases group with
        | nil => exact ofGroup?_singleton ⟨n, Text.trim raw⟩
        | cons first rest => exact ofGroup?_concat first ⟨n, Text.trim raw⟩ rest
      split
      · rename_i hgoes
        have hgroup : ∀ line ∈ group ++ [⟨n, Text.trim raw⟩], continues line.text = true :=
          List.forall_mem_append.2 ⟨h, List.forall_mem_singleton.2 hgoes⟩
        rw [← hextend, ih _ hgroup, List.append_assoc, List.singleton_append]
      · rename_i hstops
        have hends : continues (⟨n, Text.trim raw⟩ : Instruction).text = false :=
          Bool.eq_false_iff.2 hstops
        rw [groups_append_of_not_continues h hends, List.map_cons, List.map_cons, hextend]
        exact congrArg _ (ih [] (List.forall_mem_nil _))
    · exact ih group h

/-! ## What the groups are -/

/-- An instruction begins on the first line of its group. -/
theorem exists_first_of_ofGroup? {group : List Instruction} {i : Instruction}
    (h : ofGroup? group = some i) : ∃ first ∈ group, i.line = first.line := by
  cases group with
  | nil => exact nomatch h
  | cons first rest => exact ⟨first, List.mem_cons_self, (Option.some.inj h) ▸ rfl⟩

/-- All lines of a group but its last go on, and the last one does only
where the lines end. -/
theorem exists_last_of_groups_eq {lines group : List Instruction}
    {before after : List (List Instruction)} (h : groups lines = before ++ group :: after) :
    ∃ init last, group = init ++ [last] ∧ (∀ line ∈ init, continues line.text = true) ∧
      (continues last.text = true → after = []) := by
  have hmem : group ∈ groups lines := h ▸ List.mem_append_right _ List.mem_cons_self
  obtain ⟨init, last, rfl⟩ :=
    (List.eq_nil_or_concat group).resolve_left (List.ne_nil_of_mem_splitBy hmem)
  rw [List.concat_eq_append] at h hmem ⊢
  refine ⟨init, last, rfl, continued_of_isChain (List.isChain_of_mem_splitBy hmem), ?_⟩
  intro hgoes
  -- a group behind this one begins where the splitting found no continuation
  cases after with
  | nil => rfl
  | cons next after =>
    have hends := List.isChain_getLast_head_splitBy (fun line _ => continues line.text) lines
    rw [← groups, h] at hends
    obtain ⟨_, _, hends⟩ := (List.isChain_append_cons_cons.1 hends).2.1
    rw [List.getLast_append_singleton, hgoes] at hends
    exact nomatch hends

/-- Lines that never go on are groups of one line each. -/
theorem map_ofGroup?_groups_of_not_continues {lines : List Instruction}
    (h : ∀ line ∈ lines, continues line.text = false) :
    (groups lines).map ofGroup? = lines.map some := by
  induction lines with
  | nil => rfl
  | cons line lines ih =>
    obtain ⟨hline, hlines⟩ := List.forall_mem_cons.1 h
    have hgroups : groups (line :: lines) = [line] :: groups lines :=
      groups_append_of_not_continues (List.forall_mem_nil _) hline lines
    rw [hgroups, List.map_cons, List.map_cons, ih hlines, ofGroup?_singleton,
      body_of_not_continues hline]

end Instruction

namespace Dockerfile

open Instruction

variable (text : String)

/-! ## The instructions of a build file -/

/-- **The instructions are those of the groups of lines**, one for each, in order. -/
theorem map_some_instructions :
    (instructions text).map some = (groups (physicalLines text)).map ofGroup? :=
  map_some_gather [] (Text.numberedLines text) (List.forall_mem_nil _)

theorem instructions_eq_nil_iff : instructions text = [] ↔ physicalLines text = [] := by
  rw [← List.map_eq_nil_iff (f := some), map_some_instructions, List.map_eq_nil_iff, groups,
    List.splitBy_eq_nil]

/-- A line that counts is one of the lines of a build file. -/
theorem mem_physicalLines {n : UInt32} {line : String} (h : (n, line) ∈ Text.numberedLines text)
    (hcounts : counts (Text.trim line) = true) : ⟨n, Text.trim line⟩ ∈ physicalLines text :=
  List.mem_filter.2 ⟨List.mem_map.2 ⟨(n, line), h, rfl⟩, hcounts⟩

/-! ### Fewer lines than numbers -/

section FewLines

variable {text : String} (hfew : (Text.lines text).length < UInt32.size)

include hfew

/-- The numbers of the lines that count ascend. -/
theorem physicalLines_pairwise : (physicalLines text).Pairwise fun i j => i.line < j.line :=
  List.Pairwise.filter _ (List.pairwise_map.2 (Text.numberedLines_pairwise hfew))

/-- A line stands in one group only. -/
theorem existsUnique_group {line : Instruction} (h : line ∈ physicalLines text) :
    ∃! k : Nat, ∃ group, (groups (physicalLines text))[k]? = some group ∧ line ∈ group := by
  have hflatten : (groups (physicalLines text)).flatten = physicalLines text :=
    List.flatten_splitBy _ _
  have hnodup : (physicalLines text).Nodup := by
    refine (physicalLines_pairwise hfew).imp ?_
    rintro x y hlt rfl
    exact UInt32.lt_irrefl x.line hlt
  have hdisjoint : (groups (physicalLines text)).Pairwise List.Disjoint := by
    rw [← hflatten] at hnodup
    exact (List.nodup_flatten.1 hnodup).2
  -- of two groups at different places only one holds the line
  have hplace : ∀ {j k : Nat} {g g' : List Instruction}, j < k →
      (groups (physicalLines text))[j]? = some g → (groups (physicalLines text))[k]? = some g' →
      line ∈ g → line ∉ g' := by
    intro j k g g' hjk hj hk hg hg'
    obtain ⟨hjlt, rfl⟩ := List.getElem?_eq_some_iff.1 hj
    obtain ⟨hklt, rfl⟩ := List.getElem?_eq_some_iff.1 hk
    exact List.pairwise_iff_getElem.1 hdisjoint j k hjlt hklt hjk hg hg'
  rw [← hflatten] at h
  obtain ⟨group, hgroup, hline⟩ := List.mem_flatten.1 h
  obtain ⟨k, hk⟩ := List.mem_iff_getElem?.1 hgroup
  refine ⟨k, ⟨group, hk, hline⟩, ?_⟩
  rintro j ⟨g, hj, hg⟩
  rcases Nat.lt_trichotomy j k with hlt | heq | hlt
  · exact absurd hline (hplace hlt hj hk hg)
  · exact heq
  · exact absurd hg (hplace hlt hk hj hline)

/-- The lines that instructions begin on ascend. -/
theorem instructions_pairwise : (instructions text).Pairwise fun i j => i.line < j.line := by
  have hgroups : (groups (physicalLines text)).Pairwise fun g g' =>
      ∀ x ∈ g, ∀ y ∈ g', x.line < y.line := by
    refine (List.pairwise_flatten.1 ?_).2
    rw [groups, List.flatten_splitBy]
    exact physicalLines_pairwise hfew
  have hmap : ((instructions text).map some).Pairwise fun a b =>
      ∀ i ∈ a, ∀ j ∈ b, i.line < j.line := by
    rw [map_some_instructions]
    refine List.pairwise_map.2 (hgroups.imp fun {g g'} hlt i hi j hj => ?_)
    obtain ⟨x, hx, hix⟩ := exists_first_of_ofGroup? hi
    obtain ⟨y, hy, hjy⟩ := exists_first_of_ofGroup? hj
    rw [hix, hjy]
    exact hlt x hx y hy
  exact (List.pairwise_map.1 hmap).imp fun h => h _ rfl _ rfl

/-- **What is found on the line of an instruction is what that instruction
gives**, in its order, as long as everything that one gives is on its line. -/
theorem filter_flatMap_instructions {β : Type} {give : Instruction → List β} {p : β → Bool}
    {i : Instruction} (hi : i ∈ instructions text)
    (hline : ∀ j, ∀ x ∈ give j, p x = decide (j.line = i.line)) :
    ((instructions text).flatMap give).filter p = give i := by
  have hnone : ∀ is : List Instruction, (∀ j ∈ is, j.line ≠ i.line) →
      (is.flatMap give).filter p = [] := by
    intro is hne
    refine List.filter_eq_nil_iff.2 fun x hx => ?_
    obtain ⟨j, hj, hjx⟩ := List.mem_flatMap.1 hx
    rw [hline j x hjx, decide_eq_true_iff]
    exact hne j hj
  have hown : (give i).filter p = give i :=
    List.filter_eq_self.2 fun x hx => by rw [hline i x hx, decide_eq_true_iff]
  obtain ⟨before, after, hsplit⟩ := List.append_of_mem hi
  have hpairwise := instructions_pairwise hfew
  rw [hsplit] at hpairwise
  obtain ⟨-, hbehind, hbetween⟩ := List.pairwise_append.1 hpairwise
  have hbefore : ∀ j ∈ before, j.line ≠ i.line :=
    fun j hj => UInt32.ne_of_lt (hbetween j hj i List.mem_cons_self)
  have hafter : ∀ j ∈ after, j.line ≠ i.line :=
    fun j hj => (UInt32.ne_of_lt ((List.pairwise_cons.1 hbehind).1 j hj)).symm
  rw [hsplit, List.flatMap_append, List.flatMap_cons, List.filter_append, List.filter_append,
    hnone before hbefore, hown, hnone after hafter, List.nil_append, List.append_nil]

end FewLines

/-! ### The result -/

/-- **The instructions of a build file are its lines in groups.** The first
two clauses say what the groups are: the lines that count, split where a
line is not continued. The third says that every group gives one
instruction, in order, and `ofGroup?` which. Hence, as long as there are fewer
lines than numbers, a line that counts, wherever it stands, is in the group of
exactly one instruction, and the lines that instructions begin on ascend;
there is an instruction wherever there is a line; and where no line is
continued the instructions are the lines. -/
theorem instructions_follow_groups :
    (groups (physicalLines text)).flatten = physicalLines text ∧
    (∀ before group after, groups (physicalLines text) = before ++ group :: after →
      ∃ init last, group = init ++ [last] ∧ (∀ line ∈ init, continues line.text = true) ∧
        (continues last.text = true → after = [])) ∧
    (instructions text).map some = (groups (physicalLines text)).map ofGroup? ∧
    ((Text.lines text).length < UInt32.size →
      (∀ n line, (n, line) ∈ Text.numberedLines text → counts (Text.trim line) = true →
        ∃! k : Nat, ∃ group, (groups (physicalLines text))[k]? = some group ∧
          ⟨n, Text.trim line⟩ ∈ group) ∧
      (instructions text).Pairwise fun i j => i.line < j.line) ∧
    (instructions text = [] ↔ physicalLines text = []) ∧
    ((∀ line ∈ physicalLines text, continues line.text = false) →
      instructions text = physicalLines text) := by
  refine ⟨List.flatten_splitBy _ _, fun _ _ _ => exists_last_of_groups_eq,
    map_some_instructions text, ?_, instructions_eq_nil_iff text, ?_⟩
  · refine fun hfew => ⟨fun n line hline hcounts => ?_, instructions_pairwise hfew⟩
    exact existsUnique_group hfew (mem_physicalLines text hline hcounts)
  · intro h
    refine List.map_injective_iff.2 (fun _ _ => Option.some.inj) ?_
    rw [map_some_instructions, map_ofGroup?_groups_of_not_continues h]

/-- Two instructions: one over a comment, a blank line and a line that is
nothing but a backslash, and one that the end of the text cuts short. -/
def twoInstructions : String := "RUN a \\\n# note\n\n\\\n  b \\ c\nUSER x\\\\\n"

/-- The line behind the lone backslash is in the first of them only, and in a
text that continues no line the instructions are its lines. -/
theorem instructions_follow_groups_twoInstructions :
    instructions twoInstructions = [⟨1, "RUN a b \\ c"⟩, ⟨6, "USER x\\"⟩] ∧
    (∃! k : Nat, ∃ group, (groups (physicalLines twoInstructions))[k]? = some group ∧
      ⟨5, Text.trim "  b \\ c"⟩ ∈ group) ∧
    instructions "FROM a\n\nRUN b\\ c" = physicalLines "FROM a\n\nRUN b\\ c" := by
  obtain ⟨-, -, hgroups, hplace, -, -⟩ := instructions_follow_groups twoInstructions
  refine ⟨List.map_injective_iff.2 (fun _ _ => Option.some.inj) (hgroups.trans ?_), ?_, ?_⟩
  · decide +kernel
  · exact (hplace (by decide +kernel)).1 5 "  b \\ c" (by decide +kernel) (by decide +kernel)
  · refine (instructions_follow_groups "FROM a\n\nRUN b\\ c").2.2.2.2.2 ?_
    decide +kernel

end Dockerfile

end DeployLint
