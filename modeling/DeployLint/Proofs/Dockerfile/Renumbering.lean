import Mathlib.Data.List.Forall2
import DeployLint.Dockerfile.Practices
import DeployLint.Proofs.Dockerfile.Instructions
import DeployLint.Proofs.Text.Lines

/-!
# Build files — the numbers of their lines

The rules on a build file read the texts of its lines; the numbers of lines
they only copy. So where the lines of two files that count are the same but
for their numbers, all that is found on them is the same but for those, and
whatever holds between the numbers of the lines holds between the numbers of
what is found (`FoundAlike.of_physicalLines`). One more blank line or comment,
wherever it stands, is such a change (`found_around_uncounted`).
-/

namespace DeployLint

open List (Forall₂)

namespace Text

/-- Lines with their numbers, the first of them at the place `i`. -/
def numbered (i : Nat) (ls : List String) : List (UInt32 × String) :=
  (ls.zipIdx i).map fun (line, j) => (lineNumber j, line)

@[simp] theorem numbered_cons (i : Nat) (l : String) (ls : List String) :
    numbered i (l :: ls) = (lineNumber i, l) :: numbered (i + 1) ls := rfl

theorem numbered_append (i : Nat) (ls ls' : List String) :
    numbered i (ls ++ ls') = numbered i ls ++ numbered (i + ls.length) ls' := by
  rw [numbered, List.zipIdx_append, List.map_append]
  rfl

end Text

variable {R : UInt32 → UInt32 → Prop} {g : UInt32 → UInt32}

namespace Instruction

open Text (OneLine numbered numbered_cons)

/-! ## Other numbers -/

/-- Instructions that are alike but for the numbers of their lines, between
which a relation holds. -/
structure Alike (R : UInt32 → UInt32 → Prop) (i j : Instruction) : Prop where
  line : R i.line j.line
  text : i.text = j.text

/-- An instruction with another number for its line. -/
def renumber (g : UInt32 → UInt32) (i : Instruction) : Instruction := { i with line := g i.line }

section

variable {i j : Instruction} (h : i.Alike R j)

include h

theorem Alike.keyword_eq : i.keyword = j.keyword := by rw [keyword, keyword, h.text]

theorem Alike.arguments_eq : i.arguments = j.arguments := by rw [arguments, arguments, h.text]

theorem Alike.is_eq : i.is = j.is := by
  funext keyword
  rw [is, is, h.keyword_eq]

end

theorem Alike.eq_renumber {i j : Instruction} (h : i.Alike R j) (hg : ∀ {m n}, R m n → n = g m) :
    j = i.renumber g := by
  obtain ⟨n, _⟩ := j
  obtain ⟨hline, rfl⟩ := h
  rw [renumber, ← hg hline]

section Lists

variable {xs ys : List Instruction} (h : Forall₂ (Alike R) xs ys)

include h

theorem map_text_eq_of_alike : xs.map text = ys.map text := by
  induction h with
  | nil => rfl
  | cons hij _ ih => rw [List.map_cons, List.map_cons, hij.text, ih]

/-- What is asked of texts only has the same answer. -/
theorem any_eq_of_alike (p : String → Bool) :
    (xs.any fun i => p i.text) = ys.any fun i => p i.text := by
  have hmap : ∀ is : List Instruction, (is.any fun i => p i.text) = (is.map text).any p :=
    fun is => List.any_map.symm
  rw [hmap, hmap, map_text_eq_of_alike h]

/-- The instructions of a keyword are alike. -/
theorem filter_is_alike (keyword : String) :
    Forall₂ (Alike R) (xs.filter (·.is keyword)) (ys.filter (·.is keyword)) := by
  refine List.rel_filter ?_ h
  rintro ⟨m, t⟩ ⟨n, _⟩ ⟨-, rfl⟩
  exact Iff.rfl

end Lists

/-! ## Groups -/

/-- Whether lines belong together is told by their texts. -/
theorem groups_map {α : Type} (f : α → Instruction) (zs : List α) :
    groups (zs.map f) = (zs.splitBy fun z _ => continues (f z).text).map (List.map f) := by
  refine List.splitBy_eq_iff.2 ⟨?same, ?filled, ?inside, ?between⟩
  case same => rw [← List.map_flatten, List.flatten_splitBy]
  case filled =>
    intro hmem
    obtain ⟨group, hgroup, hempty⟩ := List.mem_map.1 hmem
    exact List.ne_nil_of_mem_splitBy hgroup (List.map_eq_nil_iff.1 hempty)
  case inside =>
    intro group hgroup
    obtain ⟨before, hbefore, rfl⟩ := List.mem_map.1 hgroup
    exact List.isChain_map _ |>.2 (List.isChain_of_mem_splitBy hbefore)
  case between =>
    refine (List.isChain_map _).2 ?_
    refine (List.isChain_getLast_head_splitBy (fun z _ => continues (f z).text) zs).imp ?_
    rintro group next ⟨hgroup, hnext, hends⟩
    refine ⟨mt List.map_eq_nil_iff.1 hgroup, mt List.map_eq_nil_iff.1 hnext, ?_⟩
    rw [List.getLast_map]
    exact hends

/-- Lines that are alike are one list of lines with two numbers each. -/
theorem exists_numbers_of_alike {xs ys : List Instruction} (h : Forall₂ (Alike R) xs ys) :
    ∃ zs : List (Instruction × UInt32), (∀ z ∈ zs, R z.1.line z.2) ∧ xs = zs.map Prod.fst ∧
      ys = zs.map fun z => ⟨z.2, z.1.text⟩ := by
  induction h with
  | nil => exact ⟨[], List.forall_mem_nil _, rfl, rfl⟩
  | @cons i j xs ys hij _ ih =>
    obtain ⟨zs, hzs, rfl, rfl⟩ := ih
    refine ⟨(i, j.line) :: zs, List.forall_mem_cons.2 ⟨hij.line, hzs⟩, rfl, ?_⟩
    rw [List.map_cons, hij.text]

theorem groups_alike {xs ys : List Instruction} (h : Forall₂ (Alike R) xs ys) :
    Forall₂ (Forall₂ (Alike R)) (groups xs) (groups ys) := by
  obtain ⟨zs, hzs, rfl, rfl⟩ := exists_numbers_of_alike h
  rw [groups_map, groups_map, List.forall₂_map_left_iff, List.forall₂_map_right_iff]
  refine List.forall₂_same.2 fun group hgroup => ?_
  rw [List.forall₂_map_left_iff, List.forall₂_map_right_iff]
  refine List.forall₂_same.2 fun z hz => ⟨hzs z ?_, rfl⟩
  rw [← List.flatten_splitBy (fun (z : Instruction × UInt32) _ => continues z.1.text) zs]
  exact List.mem_flatten.2 ⟨group, hgroup, hz⟩

/-- The instruction of a group begins on the group's first line, and its text
does not say which that is. -/
theorem ofGroup?_alike {group group' : List Instruction} (h : Forall₂ (Alike R) group group') :
    Option.Rel (Alike R) (ofGroup? group) (ofGroup? group') := by
  cases h with
  | nil => exact .none
  | @cons first first' rest rest' hfirst hrest =>
    have hbodies : ∀ lines : List Instruction,
        lines.map (fun line => body line.text) = (lines.map text).map body := by
      intro lines
      rw [List.map_map]
      rfl
    refine .some ⟨hfirst.line, ?_⟩
    rw [hfirst.text, hbodies, hbodies, map_text_eq_of_alike hrest]

/-! ## Lines that count -/

theorem counts_iff {line : String} :
    counts line = true ↔ line ≠ "" ∧ Text.beginsWith line "#" = false := by
  rw [counts, Bool.and_eq_true, Bool.not_eq_true', Bool.not_eq_true', String.isEmpty_eq_false_iff]

/-- A blank line and a comment do not count. -/
theorem counts_eq_false {line : String} (h : line = "" ∨ Text.beginsWith line "#" = true) :
    counts line = false := by
  rcases h with rfl | hcomment
  · rfl
  · rw [counts, hcomment, Bool.not_true, Bool.and_false]

theorem counted_append (lines lines' : List (UInt32 × String)) :
    counted (lines ++ lines') = counted lines ++ counted lines' := by
  rw [counted, List.map_append, List.filter_append]
  rfl

/-- **Lines written one below the other count as they do apart**, with the
same numbers: what is lost of them is blank. -/
theorem counted_lines_intercalate {ls : List String} (hls : ∀ l ∈ ls, OneLine l) (i : Nat) :
    counted (numbered i (Text.lines ("\n".intercalate ls))) = counted (numbered i ls) := by
  induction ls generalizing i with
  | nil => rfl
  | cons l ls ih =>
    obtain ⟨hl, hls⟩ := List.forall_mem_cons.1 hls
    cases ls with
    | nil =>
      rw [String.intercalate_singleton]
      by_cases hempty : l = ""
      · subst hempty
        rfl
      · rw [Text.lines_eq_singleton hempty hl]
    | cons l' ls =>
      rw [String.intercalate_cons_cons, Text.lines_append_newline hl, numbered_cons, numbered_cons,
        counted_cons, counted_cons, Text.trim_chomp, ih hls]

/-- Lines that stand elsewhere count with other numbers. -/
theorem counted_alike {ls : List String} {i j : Nat}
    (h : ∀ k < ls.length, R (Text.lineNumber (i + k)) (Text.lineNumber (j + k))) :
    Forall₂ (Alike R) (counted (numbered i ls)) (counted (numbered j ls)) := by
  induction ls generalizing i j with
  | nil => exact .nil
  | cons l ls ih =>
    have hfirst : R (Text.lineNumber i) (Text.lineNumber j) := h 0 (Nat.zero_lt_succ _)
    have hrest : ∀ k < ls.length, R (Text.lineNumber (i + 1 + k)) (Text.lineNumber (j + 1 + k)) := by
      intro k hk
      have hnext := h (k + 1) (Nat.succ_lt_succ hk)
      rwa [Nat.add_right_comm i 1 k, Nat.add_right_comm j 1 k]
    rw [numbered_cons, numbered_cons, counted_cons, counted_cons]
    split
    · exact .cons ⟨hfirst, rfl⟩ (ih hrest)
    · exact ih hrest

end Instruction

namespace Finding

/-- Findings that are alike but for the numbers of their lines, between which a
relation holds where they have any. -/
structure Alike (R : UInt32 → UInt32 → Prop) (f f' : Finding) : Prop where
  line : Option.Rel R f.line f'.line
  others : { f with line := none } = { f' with line := none }

/-- A finding with another number for its line, if it has one. -/
def renumber (g : UInt32 → UInt32) (f : Finding) : Finding := { f with line := f.line.map g }

theorem Alike.eq_renumber {f f' : Finding} (h : f.Alike R f') (hg : ∀ {m n}, R m n → n = g m) :
    f' = f.renumber g := by
  obtain ⟨code, severity, subject, path, line, message⟩ := f
  obtain ⟨code', severity', subject', path', line', message'⟩ := f'
  obtain ⟨hline, hothers⟩ := h
  simp only [Finding.mk.injEq, true_and] at hothers
  obtain ⟨rfl, rfl, rfl, rfl, rfl⟩ := hothers
  cases hline with
  | none => rfl
  | some hmn => rw [hg hmn]; rfl

theorem Alike.rfl_of_no_line {f : Finding} (h : f.line = none) : f.Alike R f :=
  ⟨h ▸ .none, rfl⟩

/-- What may be found on two lines is alike. -/
theorem alike_onLine_ite {c : Prop} [Decidable c] (f : Finding) {m n : UInt32} (h : R m n) :
    Forall₂ (Alike R) (if c then [f.onLine m] else []) (if c then [f.onLine n] else []) := by
  split
  · exact .cons ⟨.some h, rfl⟩ .nil
  · exact .nil

end Finding

namespace Dockerfile

open Instruction (renumber counted counted_append counted_cons counted_lines_intercalate
  counted_alike groups_alike ofGroup?_alike any_eq_of_alike filter_is_alike)
open Text (numbered numbered_cons numbered_append lineNumber)

variable {text text' : String} {subject : Subject} {i j : Instruction} {is js : List Instruction}

/-! ## What is found on lines -/

theorem physicalLines_eq (text : String) :
    physicalLines text = counted (numbered 0 (Text.lines text)) := rfl

theorem checkLine_alike (h : i.Alike R j) :
    Forall₂ (Finding.Alike R) (checkLine subject i) (checkLine subject j) := by
  obtain ⟨n, _⟩ := j
  obtain ⟨hline, rfl⟩ := h
  exact List.rel_append (List.rel_append (Finding.alike_onLine_ite _ hline)
    (Finding.alike_onLine_ite _ hline)) (Finding.alike_onLine_ite _ hline)

theorem checkStart_alike (h : i.Alike R j) :
    Forall₂ (Finding.Alike R) (checkStart subject i) (checkStart subject j) := by
  rw [checkStart, checkStart, h.text]
  split
  · exact .nil
  · exact .cons ⟨.some h.line, rfl⟩ .nil

theorem checkLines_alike
    (h : Forall₂ (Instruction.Alike R) (physicalLines text) (physicalLines text')) :
    Forall₂ (Finding.Alike R) (checkLines text subject) (checkLines text' subject) := by
  rw [checkLines, checkLines]
  generalize physicalLines text = lines at h ⊢
  generalize physicalLines text' = lines' at h ⊢
  cases h with
  | nil => exact .cons (.rfl_of_no_line rfl) .nil
  | cons hfirst hrest =>
    exact List.rel_append (checkStart_alike hfirst)
      (List.rel_flatMap (.cons hfirst hrest) fun _ _ => checkLine_alike)

/-! ## What is found on instructions -/

/-- **Instructions follow the lines that count.** -/
theorem instructions_alike
    (h : Forall₂ (Instruction.Alike R) (physicalLines text) (physicalLines text')) :
    Forall₂ (Instruction.Alike R) (instructions text) (instructions text') := by
  have hsome : Forall₂ (Option.Rel (Instruction.Alike R)) ((instructions text).map some)
      ((instructions text').map some) := by
    rw [map_some_instructions, map_some_instructions]
    exact List.rel_map (fun _ _ hgroup => ofGroup?_alike hgroup) (groups_alike h)
  rw [List.forall₂_map_left_iff, List.forall₂_map_right_iff] at hsome
  exact hsome.imp fun i j hij => by cases hij with | some hij => exact hij

theorem checkPresence_alike (h : Forall₂ (Instruction.Alike R) is js) (keyword : String)
    {f : Finding} (hf : f.line = none) :
    Forall₂ (Finding.Alike R) (checkPresence is keyword f) (checkPresence js keyword f) := by
  have hany : is.any (·.is keyword) = js.any (·.is keyword) :=
    any_eq_of_alike h fun text => (⟨0, text⟩ : Instruction).is keyword
  rw [checkPresence, checkPresence, hany]
  split
  · exact .nil
  · exact .cons (.rfl_of_no_line hf) .nil

theorem firstOperand?_alike (h : i.Alike R j) : firstOperand? i = firstOperand? j := by
  rw [firstOperand?, firstOperand?, h.arguments_eq]

theorem checkCopy_alike (h : i.Alike R j) :
    Forall₂ (Finding.Alike R) (checkCopy subject i) (checkCopy subject j) := by
  rw [checkCopy, checkCopy, h.is_eq, h.arguments_eq, h.keyword_eq, firstOperand?_alike h]
  split
  · exact .nil
  · split
    · exact .nil
    · exact Finding.alike_onLine_ite _ h.line

theorem checkLabels_alike (h : Forall₂ (Instruction.Alike R) is js) :
    Forall₂ (Finding.Alike R) (checkLabels subject is) (checkLabels subject js) := by
  have hlabels : Forall₂ (Instruction.Alike R) (is.filter (·.is "LABEL"))
      (js.filter (·.is "LABEL")) := filter_is_alike h "LABEL"
  rw [checkLabels, checkLabels]
  generalize is.filter (·.is "LABEL") = labels at hlabels ⊢
  generalize js.filter (·.is "LABEL") = labels' at hlabels ⊢
  cases hlabels with
  | nil => exact .cons (.rfl_of_no_line rfl) .nil
  | @cons first first' rest rest' hfirst hrest =>
    have hnamed : ∀ label, (first :: rest).any (Text.holds ·.text label) =
        (first' :: rest').any (Text.holds ·.text label) :=
      fun label => any_eq_of_alike (.cons hfirst hrest) (Text.holds · label)
    simp only [hnamed]
    rw [List.forall₂_map_left_iff, List.forall₂_map_right_iff]
    exact List.forall₂_same.2 fun _ _ => .rfl_of_no_line rfl

/-- The findings on instructions follow them. -/
theorem checkPractices_alike
    (h : Forall₂ (Instruction.Alike R) (instructions text) (instructions text')) :
    Forall₂ (Finding.Alike R) (checkPractices text subject) (checkPractices text' subject) := by
  rw [checkPractices, checkPractices]
  generalize instructions text = is at h ⊢
  generalize instructions text' = js at h ⊢
  have hstages : (is.filter (·.is "FROM")).length = (js.filter (·.is "FROM")).length :=
    (filter_is_alike h "FROM").length_eq
  cases h with
  | nil => exact .nil
  | cons hfirst hrest =>
    have hall := List.Forall₂.cons hfirst hrest
    refine List.rel_append (List.rel_append (List.rel_append (List.rel_append
      ?workdir ?user) ?copies) ?stages) (checkLabels_alike hall)
    case workdir => exact checkPresence_alike hall "WORKDIR" rfl
    case user => exact checkPresence_alike hall "USER" rfl
    case copies => exact List.rel_flatMap hall fun _ _ => checkCopy_alike
    case stages =>
      rw [hstages]
      split
      · exact .cons (.rfl_of_no_line rfl) .nil
      · exact .nil

/-- And so do the tags of images. -/
theorem imageTags_alike
    (h : Forall₂ (Instruction.Alike R) (instructions text) (instructions text')) :
    Forall₂ (fun x y => R x.1 y.1 ∧ x.2 = y.2) (imageTags text) (imageTags text') := by
  refine List.rel_filterMap ?_ h
  intro i j hij
  simp only [hij.is_eq, firstOperand?_alike hij]
  split
  · cases (firstOperand? j).bind tag? with
    | none => exact .none
    | some tag => exact .some ⟨hij.line, rfl⟩
  · exact .none

/-! ## Files that are alike -/

/-- All that is found in two files is alike but for the numbers of lines,
between which a relation holds. -/
structure FoundAlike (R : UInt32 → UInt32 → Prop) (text text' : String) : Prop where
  lines : Forall₂ (Instruction.Alike R) (physicalLines text) (physicalLines text')
  instructions : Forall₂ (Instruction.Alike R) (instructions text) (instructions text')
  mistakes : ∀ subject, Forall₂ (Finding.Alike R) (checkLines text subject) (checkLines text' subject)
  practices : ∀ subject,
    Forall₂ (Finding.Alike R) (checkPractices text subject) (checkPractices text' subject)
  tags : Forall₂ (fun x y => R x.1 y.1 ∧ x.2 = y.2) (imageTags text) (imageTags text')

/-- **Where the lines that count are alike, so is all that is found on them.** -/
theorem FoundAlike.of_physicalLines
    (h : Forall₂ (Instruction.Alike R) (physicalLines text) (physicalLines text')) :
    FoundAlike R text text' where
  lines := h
  instructions := instructions_alike h
  mistakes := fun _ => checkLines_alike h
  practices := fun _ => checkPractices_alike (instructions_alike h)
  tags := imageTags_alike (instructions_alike h)

/-- Lists whose members correspond are told by the correspondence. -/
theorem eq_map_of_forall₂ {α : Type} {f : α → α} {xs ys : List α}
    (h : Forall₂ (fun x y => y = f x) xs ys) : ys = xs.map f := by
  induction h with
  | nil => rfl
  | cons hxy _ ih => rw [List.map_cons, hxy, ih]

/-! ## One more line -/

/-- What holds between the number of a line, of `m` lines, and its number once
another line is put in behind the first `k`: those behind have the next number. -/
def MovedBehind (k m : Nat) (n n' : UInt32) : Prop :=
  ∃ i < m, n = lineNumber i ∧ n' = if i < k then n else n + 1

/-- The number that a line has once another one is put in behind the `k`-th. -/
def shiftBehind (k : Nat) (n : UInt32) : UInt32 := if k < n.toNat then n + 1 else n

/-- With fewer lines than numbers, the number tells on which side the line is. -/
theorem MovedBehind.eq_shiftBehind {k m : Nat} {n n' : UInt32} (hfew : m < UInt32.size)
    (h : MovedBehind k m n n') : n' = shiftBehind k n := by
  obtain ⟨i, hi, rfl, rfl⟩ := h
  have hnumber : (lineNumber i).toNat = i + 1 := Text.toNat_lineNumber_of_lt (by omega)
  by_cases hside : i < k
  · rw [if_pos hside, shiftBehind, if_neg (by omega)]
  · rw [if_neg hside, shiftBehind, if_pos (by omega)]

/-- A line that does not count moves those behind it. -/
theorem physicalLines_insert {before after : List String} {line : String}
    (hlines : ∀ l ∈ before ++ line :: after, Text.OneLine l)
    (hline : Instruction.counts (Text.trim line) = false) :
    Forall₂ (Instruction.Alike (MovedBehind before.length (before.length + after.length)))
      (physicalLines ("\n".intercalate (before ++ after)))
      (physicalLines ("\n".intercalate (before ++ line :: after))) := by
  have hfewer : ∀ l ∈ before ++ after, Text.OneLine l := by
    intro l hl
    rcases List.mem_append.1 hl with hl | hl
    · exact hlines l (List.mem_append_left _ hl)
    · exact hlines l (List.mem_append_right _ (List.mem_cons_of_mem line hl))
  rw [physicalLines_eq, physicalLines_eq, counted_lines_intercalate hfewer,
    counted_lines_intercalate hlines, numbered_append, numbered_append, counted_append,
    counted_append, numbered_cons, counted_cons, if_neg (Bool.eq_false_iff.1 hline)]
  refine List.rel_append (counted_alike fun i hi => ?front) (counted_alike fun i hi => ?behind)
  case front =>
    have hside : 0 + i < before.length := by omega
    exact ⟨0 + i, by omega, rfl, (if_pos hside).symm⟩
  case behind =>
    have hside : ¬ 0 + before.length + i < before.length := by omega
    refine ⟨0 + before.length + i, by omega, rfl, ?_⟩
    rw [if_neg hside, ← Text.lineNumber_succ, Nat.add_right_comm]

/-- **A blank line or a comment is not there for the rules on build files**,
wherever it stands, also between the lines of one instruction: what is found
with it is what is found without it, but that every number of a line behind it
is the next one. As long as there are fewer lines than numbers, the lines
behind it are those with greater numbers than there are lines before it. -/
theorem found_around_uncounted {before after : List String} {line : String}
    (hlines : ∀ l ∈ before ++ line :: after, Text.OneLine l)
    (hline : Text.trim line = "" ∨ Text.beginsWith (Text.trim line) "#" = true) :
    let text := "\n".intercalate (before ++ after)
    let text' := "\n".intercalate (before ++ line :: after)
    let shift := shiftBehind before.length
    FoundAlike (MovedBehind before.length (before.length + after.length)) text text' ∧
    (before.length + after.length < UInt32.size →
      physicalLines text' = (physicalLines text).map (renumber shift) ∧
      instructions text' = (instructions text).map (renumber shift) ∧
      (∀ subject, checkLines text' subject =
        (checkLines text subject).map (Finding.renumber shift)) ∧
      (∀ subject, checkPractices text' subject =
        (checkPractices text subject).map (Finding.renumber shift)) ∧
      imageTags text' = (imageTags text).map (Prod.map shift id)) := by
  intro text text' shift
  have halike : FoundAlike (MovedBehind before.length (before.length + after.length)) text text' :=
    .of_physicalLines (physicalLines_insert hlines (Instruction.counts_eq_false hline))
  refine ⟨halike, fun hfew => ?_⟩
  have hshift : ∀ {m n}, MovedBehind before.length (before.length + after.length) m n →
      n = shift m := fun h => h.eq_shiftBehind hfew
  have hlines : ∀ {is js}, Forall₂ (Instruction.Alike _) is js → js = is.map (renumber shift) :=
    fun h => eq_map_of_forall₂ (h.imp fun _ _ hij => hij.eq_renumber hshift)
  have hfindings : ∀ {fs gs}, Forall₂ (Finding.Alike _) fs gs → gs = fs.map (.renumber shift) :=
    fun h => eq_map_of_forall₂ (h.imp fun _ _ hfg => hfg.eq_renumber hshift)
  exact ⟨hlines halike.lines, hlines halike.instructions,
    fun subject => hfindings (halike.mistakes subject),
    fun subject => hfindings (halike.practices subject),
    eq_map_of_forall₂ (halike.tags.imp fun _ _ h => Prod.ext (hshift h.1) h.2.symm)⟩

/-- A comment between the lines of an instruction, in front of another one. -/
theorem found_around_uncounted_inside :
    let before := ["FROM r:5/a:1", "RUN pip install \\\r"]
    let after := ["  b", "COPY /a c"]
    (∀ l ∈ before ++ "\t# why" :: after, Text.OneLine l) ∧
    Text.beginsWith (Text.trim "\t# why") "#" = true ∧
    instructions ("\n".intercalate (before ++ "\t# why" :: after)) =
      [⟨1, "FROM r:5/a:1"⟩, ⟨2, "RUN pip install b"⟩, ⟨5, "COPY /a c"⟩] ∧
    imageTags ("\n".intercalate (before ++ "\t# why" :: after)) = [(1, "1")] ∧
    (checkPractices ("\n".intercalate (before ++ "\t# why" :: after))
      { artifact := "Dockerfile" }).filterMap Finding.line = [5] := by
  intro before after
  have hlines : ∀ l ∈ before ++ "\t# why" :: after, Text.OneLine l := by decide
  have hline : Text.beginsWith (Text.trim "\t# why") "#" = true := by decide
  obtain ⟨-, hinstructions, -, hpractices, htags⟩ :=
    (found_around_uncounted hlines (.inr hline)).2 (by decide)
  refine ⟨hlines, hline, hinstructions.trans ?_, htags.trans ?_, ?_⟩
  · decide +kernel
  · decide +kernel
  · rw [hpractices]
    decide +kernel

end Dockerfile

end DeployLint
