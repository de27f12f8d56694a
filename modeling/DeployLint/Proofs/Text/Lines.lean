import Mathlib.Data.List.Basic
import DeployLint.Proofs.Text.Runs

/-!
# Text — lines

A line feed ends a line, and a carriage return right before it goes with it.
So the lines of texts that are put together are their own lines
(`lineChars_append_newline`), up to that carriage return, which a blank at the
end of a line is; and writing every end of a line with both characters leaves
the lines as they are (`lines_crlf`).
-/

namespace DeployLint

namespace Text

/-- A text that stays on one line. -/
def OneLine (s : String) : Prop := '\n' ∉ s.toList

instance (s : String) : Decidable (OneLine s) := inferInstanceAs (Decidable ('\n' ∉ s.toList))

/-! ## Ends of lines -/

variable {c : Char} {cs line rest : List Char}

/-- What a line feed leaves of the line that it ends. -/
def chomp (line : List Char) : List Char :=
  if line.getLast? = some '\r' then line.dropLast else line

theorem chomp_cons (h : ¬ (c = '\r' ∧ line = [])) : chomp (c :: line) = c :: chomp line := by
  cases line with
  | nil =>
    have hc : c ≠ '\r' := fun hc => h ⟨hc, rfl⟩
    simp [chomp, hc]
  | cons d line =>
    rw [chomp, chomp, List.getLast?_cons_cons, List.dropLast_cons_cons]
    split <;> rfl

/-- A character that ends no line, alone or with the next one, belongs to the
line that follows it. -/
theorem lineChars_cons (hc : c ≠ '\n') (hreturn : ¬ (c = '\r' ∧ cs.head? = some '\n')) :
    lineChars (c :: cs) =
      match lineChars cs with
      | [] => [[c]]
      | l :: ls => (c :: l) :: ls := by
  refine lineChars.eq_4 c cs hc fun tail hc htail => hreturn ⟨hc, ?_⟩
  rw [htail]
  rfl

/-- **A line feed ends the line before it**, and the lines behind it are
those of the rest. -/
theorem lineChars_append_newline (hline : '\n' ∉ line) (rest : List Char) :
    lineChars (line ++ '\n' :: rest) = chomp line :: lineChars rest := by
  induction line with
  | nil => exact lineChars.eq_2 rest
  | cons c line ih =>
    have hc : c ≠ '\n' := fun hc => hline (hc ▸ List.mem_cons_self)
    have hmore : '\n' ∉ line := fun hmem => hline (List.mem_cons_of_mem c hmem)
    by_cases hreturn : c = '\r' ∧ line = []
    · obtain ⟨rfl, rfl⟩ := hreturn
      exact lineChars.eq_3 rest
    · have hstep : ¬ (c = '\r' ∧ (line ++ '\n' :: rest).head? = some '\n') := by
        rintro ⟨hc, hhead⟩
        cases line with
        | nil => exact hreturn ⟨hc, rfl⟩
        | cons d line =>
          have hd : d = '\n' := Option.some.inj hhead
          exact hmore (hd ▸ List.mem_cons_self)
      rw [List.cons_append, lineChars_cons hc hstep, ih hmore, chomp_cons hreturn]

/-- What no line feed ends is a line if there is anything of it. -/
theorem lineChars_eq_singleton (hne : line ≠ []) (hline : '\n' ∉ line) : lineChars line = [line] := by
  induction line with
  | nil => exact absurd rfl hne
  | cons c line ih =>
    have hc : c ≠ '\n' := fun hc => hline (hc ▸ List.mem_cons_self)
    have hmore : '\n' ∉ line := fun hmem => hline (List.mem_cons_of_mem c hmem)
    have hstep : ¬ (c = '\r' ∧ line.head? = some '\n') :=
      fun h => hmore (List.mem_of_mem_head? h.2)
    rw [lineChars_cons hc hstep]
    cases line with
    | nil => rfl
    | cons d line => rw [ih (List.cons_ne_nil d line) hmore]

/-- No line holds a line feed. -/
theorem newline_not_mem_of_mem_lineChars (h : line ∈ lineChars cs) : '\n' ∉ line := by
  fun_induction lineChars cs generalizing line with
  | case1 => exact absurd h List.not_mem_nil
  | case2 cs ih =>
    rcases List.mem_cons.1 h with rfl | h
    · exact List.not_mem_nil
    · exact ih h
  | case3 cs ih =>
    rcases List.mem_cons.1 h with rfl | h
    · exact List.not_mem_nil
    · exact ih h
  | case4 c cs hc _ hnone ih =>
    obtain rfl := List.mem_singleton.1 h
    exact fun hmem => hc (List.mem_singleton.1 hmem).symm
  | case5 c cs hc _ l ls hlines ih =>
    rcases List.mem_cons.1 h with rfl | h
    · have hl : '\n' ∉ l := ih (hlines ▸ List.mem_cons_self)
      exact fun hmem => (List.mem_cons.1 hmem).elim (fun heq => hc heq.symm) hl
    · exact ih (hlines ▸ List.mem_cons_of_mem l h)

theorem oneLine_of_mem_lines {s l : String} (h : l ∈ lines s) : OneLine l := by
  obtain ⟨line, hline, rfl⟩ := List.mem_map.1 h
  rw [OneLine, String.toList_ofList]
  exact newline_not_mem_of_mem_lineChars hline

/-! ## Their numbers -/

theorem toNat_lineNumber (i : Nat) : (lineNumber i).toNat = (i + 1) % UInt32.size := by
  have hplace : i.toUInt32.toNat = i % UInt32.size := UInt32.toNat_ofNat'
  have hnext : (lineNumber i).toNat = (i.toUInt32.toNat + 1) % UInt32.size := UInt32.toNat_add _ _
  rw [hnext, hplace, Nat.mod_add_mod]

/-- A line before the last number is numbered by its place. -/
theorem toNat_lineNumber_of_lt {i : Nat} (h : i + 1 < UInt32.size) :
    (lineNumber i).toNat = i + 1 := by
  rw [toNat_lineNumber, Nat.mod_eq_of_lt h]

/-- The next line has the next number, also where the numbers begin anew. -/
theorem lineNumber_succ (i : Nat) : lineNumber (i + 1) = lineNumber i + 1 := by
  rw [lineNumber, lineNumber, Nat.toUInt32_eq, Nat.toUInt32_eq, UInt32.ofNat_add]
  rfl

theorem mem_numberedLines_iff {s l : String} {n : UInt32} :
    (n, l) ∈ numberedLines s ↔ ∃ i, (lines s)[i]? = some l ∧ lineNumber i = n := by
  rw [numberedLines, List.mem_map, Prod.exists, exists_comm]
  refine exists_congr fun i => ?_
  simp only [List.mem_zipIdx_iff_getElem?, Prod.mk.injEq]
  constructor
  · rintro ⟨_, hline, rfl, rfl⟩
    exact ⟨hline, rfl⟩
  · rintro ⟨hline, rfl⟩
    exact ⟨l, hline, rfl, rfl⟩

section FewLines

variable {s : String} (hfew : (lines s).length < UInt32.size)

include hfew

/-- With fewer lines than numbers, a number says which line it is, counted from one. -/
theorem line_of_mem_numberedLines {n : UInt32} {l : String} (h : (n, l) ∈ numberedLines s) :
    1 ≤ n.toNat ∧ (lines s)[n.toNat - 1]? = some l := by
  obtain ⟨i, hline, rfl⟩ := mem_numberedLines_iff.1 h
  have hi : i < (lines s).length := (List.getElem?_eq_some_iff.1 hline).1
  rw [toNat_lineNumber_of_lt (by omega)]
  exact ⟨Nat.le_add_left 1 i, hline⟩

/-- And it is one of the numbers up to how many lines there are. -/
theorem number_of_mem_numberedLines {n : UInt32} {l : String} (h : (n, l) ∈ numberedLines s) :
    1 ≤ n.toNat ∧ n.toNat ≤ (lines s).length := by
  obtain ⟨hpos, hline⟩ := line_of_mem_numberedLines hfew h
  have hlt : n.toNat - 1 < (lines s).length := (List.getElem?_eq_some_iff.1 hline).1
  omega

/-- So the numbers of lines ascend. -/
theorem numberedLines_pairwise : (numberedLines s).Pairwise fun x y => x.1 < y.1 := by
  have hplaces : ((lines s).zipIdx.map Prod.snd).Pairwise (· < ·) := by
    rw [List.zipIdx_map_snd]
    exact List.pairwise_lt_range'
  refine List.pairwise_map.2 ((List.pairwise_map.1 hplaces).imp_of_mem fun {x y} hx hy hlt => ?_)
  have hplace : ∀ {z}, z ∈ (lines s).zipIdx → z.2 + 1 < UInt32.size := fun hz => by
    have hlt := List.snd_lt_of_mem_zipIdx hz
    omega
  rw [UInt32.lt_iff_toNat_lt, toNat_lineNumber_of_lt (hplace hx),
    toNat_lineNumber_of_lt (hplace hy)]
  omega

end FewLines

/-! ## Texts put together -/

/-- A line feed between two texts ends the first one's line. -/
theorem lines_append_newline {l : String} (hl : OneLine l) (rest : String) :
    lines (l ++ "\n" ++ rest) = String.ofList (chomp l.toList) :: lines rest := by
  have hchars : (l ++ "\n" ++ rest).toList = l.toList ++ '\n' :: rest.toList := by
    simp
  rw [lines, hchars, lineChars_append_newline hl, List.map_cons]
  rfl

/-- A text that stays on one line is its only line, if there is anything of it. -/
theorem lines_eq_singleton {l : String} (hne : l ≠ "") (hl : OneLine l) : lines l = [l] := by
  have hchars : l.toList ≠ [] := fun h => hne (String.toList_eq_nil_iff.1 h)
  rw [lines, lineChars_eq_singleton hchars hl, List.map_singleton, String.ofList_toList]

theorem dropTrailingBlanks_concat (hc : isBlank c = true) :
    dropTrailingBlanks (cs ++ [c]) = dropTrailingBlanks cs := by
  rw [dropTrailingBlanks, List.reverse_append, List.reverse_singleton, List.singleton_append,
    List.dropWhile_cons_of_pos hc, dropTrailingBlanks]

/-- **Trimming a line does not see how it ended.** -/
theorem trim_chomp (l : String) : trim (String.ofList (chomp l.toList)) = trim l := by
  rw [trim, trim, String.toList_ofList, chomp]
  split
  · rename_i hlast
    obtain ⟨init, hinit⟩ := List.getLast?_eq_some_iff.1 hlast
    have hblank : isBlank '\r' = true := rfl
    rw [hinit, List.dropLast_concat, dropBlanks, dropBlanks, List.dropWhile_append]
    split
    · rename_i hempty
      rw [List.isEmpty_iff.1 hempty, List.dropWhile_cons_of_pos hblank, List.dropWhile_nil]
    · rw [dropTrailingBlanks_concat hblank]
  · rfl

/-! ## Both characters at every end of a line -/

/-- A text with a carriage return before every line feed. -/
def crlf (s : String) : String :=
  String.ofList (s.toList.flatMap fun c => if c = '\n' then ['\r', '\n'] else [c])

/-- **A carriage return before every line feed leaves the lines as they are**,
if there were none before. -/
theorem lines_crlf {s : String} (hs : '\r' ∉ s.toList) : lines (crlf s) = lines s := by
  rw [lines, lines, crlf, String.toList_ofList]
  refine congrArg (List.map String.ofList) ?_
  generalize s.toList = cs at hs
  induction cs with
  | nil => rfl
  | cons c cs ih =>
    obtain ⟨hc, hcs⟩ := not_or.1 (mt List.mem_cons.2 hs)
    rw [List.flatMap_cons]
    by_cases hfeed : c = '\n'
    · subst hfeed
      rw [if_pos rfl, List.cons_append, List.cons_append, List.nil_append, lineChars.eq_3,
        lineChars.eq_2, ih hcs]
    · -- a character that is neither of the two belongs to the line behind it in both texts
      have hreturn : ∀ {rest : List Char}, ¬ (c = '\r' ∧ rest.head? = some '\n') :=
        fun h => hc h.1.symm
      rw [if_neg hfeed, List.singleton_append, lineChars_cons hfeed hreturn,
        lineChars_cons hfeed hreturn, ih hcs]

end Text

end DeployLint
