import Mathlib.Data.List.Sort
import DeployLint.Text.Occurrence
import DeployLint.Text.Search

/-!
# Text — what a search for many words finds

Whatever the order in which a search comes upon the places of its words, what
it makes of them is the same: it finds something exactly where some word
stands in the line (`Search.finds_iff`), and it lists the entries of its
table that do, each once (`Search.map_entriesIn`). Putting each entry into its
place makes a list that ascends strictly, and only one list does so and has
the same elements.
-/

namespace DeployLint

namespace Text

/-! ## Words in a line -/

/-- A word stands somewhere in a line: a part of the line is the word, but
for the case of ASCII letters. -/
def StandsIn (word line : String) : Prop :=
  ∃ before found after, line = before ++ found ++ after ∧ lower found = lower word

theorem exists_standsAt_iff {word line : String} :
    (∃ position, StandsAt word line position) ↔ StandsIn word line := by
  constructor
  · rintro ⟨-, before, found, after, hline, -, hfound⟩
    exact ⟨before, found, after, hline, hfound⟩
  · rintro ⟨before, found, after, hline, hfound⟩
    exact ⟨before.length, before, found, after, hline, rfl, hfound⟩

theorem occurs_iff {needle cs : List Char} : occurs needle cs = true ↔ needle <:+: cs := by
  induction cs with
  | nil => rw [occurs, List.isEmpty_iff, List.infix_nil]
  | cons c cs ih =>
    rw [occurs, Bool.or_eq_true, List.isPrefixOf_iff_prefix, ih, List.infix_cons_iff]

/-- A word stands in a line where one text holds the other in lower case. -/
theorem holds_lower_iff {word line : String} :
    holds (lower line) (lower word) = true ↔ StandsIn word line := by
  rw [holds, occurs_iff, ← exists_standsAt_iff]
  simp only [standsAt_iff]
  constructor
  · rintro ⟨before, after, hline⟩
    exact ⟨before.length, before, (lower word).toList ++ after,
      by rw [← hline, List.append_assoc], rfl, List.prefix_append _ _⟩
  · rintro ⟨-, before, -, hline, -, after, rfl⟩
    exact ⟨before, after, by rw [hline, List.append_assoc]⟩

instance (word line : String) : Decidable (StandsIn word line) :=
  decidable_of_iff _ holds_lower_iff

/-! ## Lists that ascend -/

section Ascending

variable {n : Nat} {i : Fin n} {js : List (Fin n)}

theorem mem_insertOnce_iff {j : Fin n} : j ∈ insertOnce i js ↔ j = i ∨ j ∈ js := by
  induction js with
  | nil => rw [insertOnce, List.mem_singleton, or_iff_left List.not_mem_nil]
  | cons k ks ih =>
    rw [insertOnce]
    split
    · exact List.mem_cons
    · split
      · rename_i heq
        subst heq
        rw [List.mem_cons, or_self_left]
      · rw [List.mem_cons, ih, List.mem_cons, or_left_comm]

/-- **A list that ascends still does so** with one number more. -/
theorem insertOnce_pairwise (h : js.Pairwise (· < ·)) : (insertOnce i js).Pairwise (· < ·) := by
  induction js with
  | nil => exact List.pairwise_singleton _ i
  | cons j js ih =>
    obtain ⟨hfirst, hrest⟩ := List.pairwise_cons.1 h
    rw [insertOnce]
    split
    · rename_i hbefore
      refine List.pairwise_cons.2 ⟨fun k hk => ?_, h⟩
      rcases List.mem_cons.1 hk with rfl | hk
      · exact hbefore
      · exact lt_trans hbefore (hfirst k hk)
    · rename_i hnot
      split
      · exact h
      · rename_i hne
        -- the number goes behind `j`, which stays before all that follows
        have hbehind : j < i := lt_of_le_of_ne (not_lt.1 hnot) (Ne.symm hne)
        refine List.pairwise_cons.2 ⟨fun k hk => ?_, ih hrest⟩
        rcases mem_insertOnce_iff.1 hk with rfl | hk
        · exact hbehind
        · exact hfirst k hk

theorem mem_foldr_insertOnce_iff {is : List (Fin n)} {j : Fin n} :
    j ∈ is.foldr insertOnce [] ↔ j ∈ is := by
  induction is with
  | nil => rfl
  | cons i is ih => rw [List.foldr_cons, mem_insertOnce_iff, ih, List.mem_cons]

theorem foldr_insertOnce_pairwise (is : List (Fin n)) :
    (is.foldr insertOnce []).Pairwise (· < ·) := by
  induction is with
  | nil => exact List.Pairwise.nil
  | cons i is ih => exact insertOnce_pairwise ih

end Ascending

/-! ## What a search finds -/

namespace Search

variable {table : List String}

theorem exists_hit_iff (s : Search table) (line : String) (i : Fin table.length) :
    (∃ hit ∈ s.hits line, hit.entry = i) ↔ StandsIn (table.get i) line := by
  rw [← exists_standsAt_iff]
  constructor
  · rintro ⟨hit, hhit, rfl⟩
    exact ⟨hit.position, (s.mem_hits_iff line hit).1 hhit⟩
  · rintro ⟨position, hstands⟩
    exact ⟨⟨i, position⟩, (s.mem_hits_iff line ⟨i, position⟩).2 hstands, rfl⟩

/-- **A search finds something where a word of its table stands.** -/
theorem finds_iff (s : Search table) (line : String) :
    s.finds line = true ↔ ∃ word ∈ table, StandsIn word line := by
  rw [finds, Bool.not_eq_true', List.isEmpty_eq_false_iff_exists_mem]
  constructor
  · rintro ⟨hit, hhit⟩
    have hstands := (s.exists_hit_iff line hit.entry).1 ⟨hit, hhit, rfl⟩
    exact ⟨table.get hit.entry, List.get_mem table hit.entry, hstands⟩
  · rintro ⟨word, hword, hstands⟩
    obtain ⟨i, rfl⟩ := List.get_of_mem hword
    obtain ⟨hit, hhit, -⟩ := (s.exists_hit_iff line i).2 hstands
    exact ⟨hit, hhit⟩

theorem mem_entriesIn_iff (s : Search table) (line : String) (i : Fin table.length) :
    i ∈ s.entriesIn line ↔ StandsIn (table.get i) line := by
  rw [entriesIn, mem_foldr_insertOnce_iff, List.mem_map, s.exists_hit_iff]

/-- The entries are those that stand in the line, in the order of the table. -/
theorem entriesIn_eq (s : Search table) (line : String) :
    s.entriesIn line = (List.finRange table.length).filter fun i => StandsIn (table.get i) line := by
  have hentries : (s.entriesIn line).Pairwise (· < ·) := foldr_insertOnce_pairwise _
  have hall : (List.finRange table.length).Pairwise (· < ·) := List.pairwise_lt_finRange _
  refine hentries.eq_of_mem_iff (hall.filter _) fun i => ?_
  rw [s.mem_entriesIn_iff, List.mem_filter, decide_eq_true_iff]
  exact (and_iff_right (List.mem_finRange i)).symm

/-- **What a search lists is the table without the words that do not stand
in the line**, however often and in whichever order it comes upon them. -/
theorem map_entriesIn (s : Search table) (line : String) :
    (s.entriesIn line).map table.get = table.filter fun word => StandsIn word line := by
  have htable : (List.finRange table.length).map table.get = table := List.map_get_finRange table
  calc (s.entriesIn line).map table.get
      = ((List.finRange table.length).filter
          ((fun word => decide (StandsIn word line)) ∘ table.get)).map table.get := by
        rw [s.entriesIn_eq]
        rfl
    _ = ((List.finRange table.length).map table.get).filter
          fun word => StandsIn word line := List.filter_map.symm
    _ = table.filter fun word => StandsIn word line := by rw [htable]

end Search

end Text

end DeployLint
