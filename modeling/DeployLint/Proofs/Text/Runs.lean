import Mathlib.Data.List.Basic
import Mathlib.Data.List.TakeWhile
import DeployLint.Text.Blank
import DeployLint.Text.Digits
import DeployLint.Text.Search

/-!
# Text — runs of characters

A reader takes the characters of a class as long as they last. Behind a text
of that class it stops where the text does, as long as what follows begins
with another character (`takeWhile_append_of_stop`). Trimming is two such
runs, so it leaves alone what has no blanks at its edges
(`trim_eq_self`, `endsWith_trim`).
-/

namespace DeployLint

namespace Text

section Runs

variable {p : Char → Bool} {run rest : List Char}

theorem takeWhile_eq_nil_of_stop (hrest : ∀ c ∈ rest.head?, p c = false) :
    rest.takeWhile p = [] := by
  cases rest with
  | nil => rfl
  | cons c cs => rw [List.takeWhile_cons, hrest c rfl, if_neg Bool.false_ne_true]

theorem dropWhile_eq_self_of_stop (hrest : ∀ c ∈ rest.head?, p c = false) :
    rest.dropWhile p = rest := by
  cases rest with
  | nil => rfl
  | cons c cs => rw [List.dropWhile_cons, hrest c rfl, if_neg Bool.false_ne_true]

/-- A run ends where the characters of its class do. -/
theorem takeWhile_append_of_stop (hrun : ∀ c ∈ run, p c = true)
    (hrest : ∀ c ∈ rest.head?, p c = false) : (run ++ rest).takeWhile p = run := by
  rw [List.takeWhile_append_of_pos hrun, takeWhile_eq_nil_of_stop hrest, List.append_nil]

theorem dropWhile_append_of_stop (hrun : ∀ c ∈ run, p c = true)
    (hrest : ∀ c ∈ rest.head?, p c = false) : (run ++ rest).dropWhile p = rest := by
  rw [List.dropWhile_append_of_pos hrun, dropWhile_eq_self_of_stop hrest]

/-- **A run is known from the text that it begins**, and so is what follows it. -/
theorem run_append_inj {run' rest' : List Char} (hrun : ∀ c ∈ run, p c = true)
    (hrest : ∀ c ∈ rest.head?, p c = false) (hrun' : ∀ c ∈ run', p c = true)
    (hrest' : ∀ c ∈ rest'.head?, p c = false) (h : run ++ rest = run' ++ rest') :
    run = run' ∧ rest = rest' := by
  constructor
  · rw [← takeWhile_append_of_stop hrun hrest, h, takeWhile_append_of_stop hrun' hrest']
  · rw [← dropWhile_append_of_stop hrun hrest, h, dropWhile_append_of_stop hrun' hrest']

/-- Every text is a run and what follows it. -/
theorem exists_run (p : Char → Bool) (cs : List Char) :
    ∃ run rest, cs = run ++ rest ∧ (∀ c ∈ run, p c = true) ∧ ∀ c ∈ rest.head?, p c = false := by
  refine ⟨cs.takeWhile p, cs.dropWhile p, List.takeWhile_append_dropWhile.symm,
    fun c hc => List.mem_takeWhile_imp hc, fun c hc => ?_⟩
  have h := List.head?_dropWhile_not p cs
  rw [Option.mem_def] at hc
  rwa [hc] at h

end Runs

/-! ## Trimming -/

/-- A text that neither begins nor ends with a blank is trimmed already. -/
theorem trim_eq_self {s : String} (hfirst : ∀ c ∈ s.toList.head?, isBlank c = false)
    (hlast : ∀ c ∈ s.toList.getLast?, isBlank c = false) : trim s = s := by
  rw [← List.head?_reverse] at hlast
  rw [trim, dropBlanks, dropWhile_eq_self_of_stop hfirst, dropTrailingBlanks,
    dropWhile_eq_self_of_stop hlast, List.reverse_reverse, String.ofList_toList]

/-- Behind the last character that is not blank there are blanks. -/
theorem exists_blanks_behind (cs : List Char) :
    ∃ gap, cs = dropTrailingBlanks cs ++ gap ∧ ∀ c ∈ gap, isBlank c = true := by
  refine ⟨(cs.reverse.takeWhile isBlank).reverse, ?_,
    fun c hc => List.mem_takeWhile_imp (List.mem_reverse.1 hc)⟩
  rw [dropTrailingBlanks, ← List.reverse_append, List.takeWhile_append_dropWhile,
    List.reverse_reverse]

/-- Around a trimmed text there are blanks. -/
theorem exists_blanks_around (s : String) :
    ∃ before behind, s.toList = before ++ ((trim s).toList ++ behind) ∧
      (∀ c ∈ before, isBlank c = true) ∧ ∀ c ∈ behind, isBlank c = true := by
  obtain ⟨before, rest, hs, hbefore, hrest⟩ := exists_run isBlank s.toList
  obtain ⟨behind, hsplit, hbehind⟩ := exists_blanks_behind rest
  refine ⟨before, behind, ?_, hbefore, hbehind⟩
  rw [trim, String.toList_ofList, hs, dropBlanks, dropWhile_append_of_stop hbefore hrest, ← hsplit]

/-- A trimmed text begins with no blank. -/
theorem isBlank_head?_trim (s : String) : ∀ c ∈ (trim s).toList.head?, isBlank c = false := by
  intro c hc
  obtain ⟨before, rest, hs, hbefore, hrest⟩ := exists_run isBlank s.toList
  obtain ⟨behind, hsplit, -⟩ := exists_blanks_behind rest
  rw [trim, String.toList_ofList, hs, dropBlanks, dropWhile_append_of_stop hbefore hrest] at hc
  refine hrest c ?_
  rw [hsplit, List.head?_append, Option.mem_def.1 hc]
  rfl

/-- An ending without blanks stays the ending of the trimmed text. -/
theorem endsWith_trim {s tail : String} (hne : tail.toList ≠ [])
    (hblank : tail.toList.any isBlank = false) (h : endsWith s tail = true) :
    endsWith (trim s) tail = true := by
  have hnone : ∀ c ∈ tail.toList, isBlank c = false :=
    fun c hc => Bool.not_eq_true _ ▸ List.any_eq_false.1 hblank c hc
  have hfirst : ∀ c ∈ tail.toList.head?, isBlank c = false :=
    fun c hc => hnone c (List.mem_of_mem_head? hc)
  have hlast : ∀ c ∈ tail.toList.getLast?, isBlank c = false :=
    fun c hc => hnone c (List.mem_of_getLast? hc)
  obtain ⟨start, rfl⟩ := endsWith_iff.1 h
  -- the blanks in front are all before the ending
  have hfront : ∃ cs, dropBlanks (start ++ tail).toList = cs ++ tail.toList := by
    rw [String.toList_append, dropBlanks, List.dropWhile_append]
    split
    · exact ⟨[], dropWhile_eq_self_of_stop hfirst⟩
    · exact ⟨_, rfl⟩
  obtain ⟨cs, hcs⟩ := hfront
  have hback : ∀ c ∈ (cs ++ tail.toList).reverse.head?, isBlank c = false := by
    rw [List.head?_reverse, List.getLast?_append_of_ne_nil cs hne]
    exact hlast
  refine endsWith_iff.2 ⟨String.ofList cs, ?_⟩
  rw [trim, hcs, dropTrailingBlanks, dropWhile_eq_self_of_stop hback, List.reverse_reverse,
    ← String.toList_inj, String.toList_ofList, String.toList_append, String.toList_ofList]

/-- A digit is no blank. -/
theorem isBlank_eq_false_of_isDigit {c : Char} (h : c.isDigit = true) : isBlank c = false := by
  simp only [Char.isDigit, Bool.and_eq_true, decide_eq_true_eq] at h
  have hlow : 48 ≤ c.toNat := UInt32.le_iff_toNat_le.mp h.1
  have hhigh : c.toNat ≤ 57 := UInt32.le_iff_toNat_le.mp h.2
  simp only [isBlank, Bool.or_eq_false_iff, Bool.and_eq_false_iff, decide_eq_false_iff_not,
    beq_eq_false_iff_ne]
  omega

end Text

end DeployLint
