import DeployLint.Proofs.Text.Runs

/-!
# Text — words

The words of a text are told by the text alone: they stand in it one after
the other, with blanks between any two of them and nothing but blanks around
them, and no other words do (`words_eq_iff`). So the blanks at the edges of a
text do not matter to its words (`words_trim`), and neither does how many
stand between two of them.
-/

namespace DeployLint

namespace Text

variable {c : Char} {cs gap word rest : List Char} {ws : List (List Char)} {s w : String}

/-! ## Words and the blanks between them -/

/-- A text that is its words in order, with blanks between any two of them
and any blanks around them. -/
inductive SpacedChars : List (List Char) → List Char → Prop
  | blank {gap : List Char} (hgap : ∀ c ∈ gap, isBlank c = true) : SpacedChars [] gap
  | word {gap word rest : List Char} {ws : List (List Char)}
      (hgap : ∀ c ∈ gap, isBlank c = true) (hne : word ≠ [])
      (hword : ∀ c ∈ word, isBlank c = false) (hrest : ∀ c ∈ rest.head?, isBlank c = true)
      (h : SpacedChars ws rest) : SpacedChars (word :: ws) (gap ++ word ++ rest)

/-- A text that is its words in order, with blanks between any two of them
and any blanks around them. -/
def Spaced (ws : List String) (s : String) : Prop := SpacedChars (ws.map String.toList) s.toList

/-! ### The first character -/

theorem wordChars_cons_of_blank (hc : isBlank c = true) : wordChars (c :: cs) = wordChars cs :=
  if_pos hc

theorem wordChars_cons_of_none (hc : isBlank c = false) (hwords : wordChars cs = []) :
    wordChars (c :: cs) = [[c]] := by
  refine (if_neg (Bool.eq_false_iff.1 hc)).trans ?_
  rw [hwords]
  cases cs <;> rfl

/-- A character that is not blank begins the word that follows it, unless a
blank is in between. -/
theorem wordChars_cons_cons {d : Char} (hc : isBlank c = false)
    (hwords : wordChars (d :: cs) = word :: ws) :
    wordChars (c :: d :: cs) = if isBlank d then [c] :: word :: ws else (c :: word) :: ws := by
  refine (if_neg (Bool.eq_false_iff.1 hc)).trans ?_
  rw [hwords]

/-! ### Runs of characters -/

/-- Blanks in front of a text hold none of its words. -/
theorem wordChars_append_of_blank (hgap : ∀ c ∈ gap, isBlank c = true) (rest : List Char) :
    wordChars (gap ++ rest) = wordChars rest := by
  induction gap with
  | nil => rfl
  | cons c gap ih =>
    obtain ⟨hc, hgap⟩ := List.forall_mem_cons.1 hgap
    rw [List.cons_append, wordChars_cons_of_blank hc, ih hgap]

/-- A word ends at the first blank. -/
theorem wordChars_append_of_word (hne : word ≠ []) (hword : ∀ c ∈ word, isBlank c = false)
    (hrest : ∀ c ∈ rest.head?, isBlank c = true) :
    wordChars (word ++ rest) = word :: wordChars rest := by
  induction word with
  | nil => exact absurd rfl hne
  | cons c word ih =>
    obtain ⟨hc, hword⟩ := List.forall_mem_cons.1 hword
    rw [List.cons_append]
    cases word with
    | nil =>
      rw [List.nil_append]
      cases hwords : wordChars rest with
      | nil => exact wordChars_cons_of_none hc hwords
      | cons w ws =>
        cases rest with
        | nil => exact nomatch hwords
        | cons d rest => rw [wordChars_cons_cons hc hwords, if_pos (hrest d rfl)]
    | cons d word =>
      have hd : ¬ isBlank d = true := Bool.eq_false_iff.1 (hword d List.mem_cons_self)
      have hwords := ih (List.cons_ne_nil d word) hword
      rw [List.cons_append] at hwords ⊢
      rw [wordChars_cons_cons hc hwords, if_neg hd]

/-- The words of a text are those that it spaces. -/
theorem SpacedChars.wordChars_eq (h : SpacedChars ws cs) : wordChars cs = ws := by
  induction h with
  | @blank gap hgap =>
    have hwords : wordChars (gap ++ []) = [] := wordChars_append_of_blank hgap []
    rwa [List.append_nil] at hwords
  | word hgap hne hword hrest _ ih =>
    rw [List.append_assoc, wordChars_append_of_blank hgap, wordChars_append_of_word hne hword hrest,
      ih]

/-- And every text spaces its words. -/
theorem spacedChars_wordChars (cs : List Char) : SpacedChars (wordChars cs) cs := by
  -- a run of blanks and a run of other characters come off the front of the text each time
  induction hn : cs.length using Nat.strong_induction_on generalizing cs with
  | _ n ih =>
    subst hn
    obtain ⟨gap, rest, rfl, hgap, hrest⟩ := exists_run isBlank cs
    obtain ⟨word, rest, rfl, hword, hbehind⟩ := exists_run (fun c => !isBlank c) rest
    simp only [Bool.not_eq_true', Bool.not_eq_false'] at hword hbehind
    rw [wordChars_append_of_blank hgap]
    by_cases hne : word = []
    · subst hne
      cases rest with
      | nil => exact .blank (by simpa using hgap)
      | cons c rest => exact absurd (hbehind c rfl) (Bool.eq_false_iff.1 (hrest c rfl))
    · have hshorter : rest.length < (gap ++ (word ++ rest)).length := by
        have hpos := List.length_pos_iff.2 hne
        rw [List.length_append, List.length_append]
        omega
      rw [wordChars_append_of_word hne hword hbehind, ← List.append_assoc]
      exact .word hgap hne hword hbehind (ih _ hshorter rest rfl)

theorem wordChars_eq_iff : wordChars cs = ws ↔ SpacedChars ws cs :=
  ⟨fun h => h ▸ spacedChars_wordChars cs, SpacedChars.wordChars_eq⟩

/-- **The words of a text are the only ones that it spaces.** -/
theorem words_eq_iff {ws : List String} : words s = ws ↔ Spaced ws s := by
  rw [words, Spaced, ← wordChars_eq_iff]
  constructor
  · rintro rfl
    rw [List.map_map]
    exact (List.map_id'' (fun _ => String.toList_ofList) _).symm
  · intro h
    rw [h, List.map_map]
    exact List.map_id'' (fun _ => String.ofList_toList) ws

/-! ## What words are -/

theorem SpacedChars.mem_word (h : SpacedChars ws cs) (hword : word ∈ ws) :
    word ≠ [] ∧ ∀ c ∈ word, isBlank c = false := by
  induction h with
  | blank => exact absurd hword List.not_mem_nil
  | word _ hne hfirst _ _ ih =>
    rcases List.mem_cons.1 hword with rfl | hword
    · exact ⟨hne, hfirst⟩
    · exact ih hword

/-- A word has no blanks. -/
theorem isBlank_of_mem_words (hw : w ∈ words s) : ∀ c ∈ w.toList, isBlank c = false := by
  obtain ⟨word, hword, rfl⟩ := List.mem_map.1 hw
  rw [String.toList_ofList]
  exact ((spacedChars_wordChars s.toList).mem_word hword).2

/-- What is not blank stands in a word. -/
theorem SpacedChars.exists_word (h : SpacedChars ws cs) (hc : c ∈ cs) (hblank : isBlank c = false) :
    ∃ word ∈ ws, c ∈ word := by
  induction h with
  | blank hgap => exact absurd (hgap c hc) (Bool.eq_false_iff.1 hblank)
  | @word gap word rest ws hgap _ _ _ _ ih =>
    rcases List.mem_append.1 hc with hc | hc
    · rcases List.mem_append.1 hc with hc | hc
      · exact absurd (hgap c hc) (Bool.eq_false_iff.1 hblank)
      · exact ⟨word, List.mem_cons_self, hc⟩
    · obtain ⟨found, hfound, hin⟩ := ih hc
      exact ⟨found, List.mem_cons_of_mem word hfound, hin⟩

/-- A text that does not begin with a blank begins with its first word, and
spaces the others behind it. -/
theorem SpacedChars.exists_rest (h : SpacedChars (word :: ws) cs)
    (hfirst : ∀ c ∈ cs.head?, isBlank c = false) :
    ∃ rest, cs = word ++ rest ∧ (∀ c ∈ rest.head?, isBlank c = true) ∧ SpacedChars ws rest := by
  cases h with
  | @word gap _ rest _ hgap _ _ hrest hmore =>
    cases gap with
    | nil => exact ⟨rest, rfl, hrest, hmore⟩
    | cons c gap => exact absurd (hgap c List.mem_cons_self) (Bool.eq_false_iff.1 (hfirst c rfl))

/-- So behind the first of two words there are blanks, and then the second. -/
theorem SpacedChars.exists_gap {second : List Char} (h : SpacedChars (word :: second :: ws) cs)
    (hfirst : ∀ c ∈ cs.head?, isBlank c = false) :
    ∃ gap rest, cs = word ++ (gap ++ (second ++ rest)) ∧ gap ≠ [] ∧ (∀ c ∈ gap, isBlank c = true) ∧
      ∀ c ∈ rest.head?, isBlank c = true := by
  obtain ⟨behind, rfl, hbehind, hmore⟩ := h.exists_rest hfirst
  cases hmore with
  | @word gap _ rest _ hgap hne hsecond hrest _ =>
    refine ⟨gap, rest, by rw [List.append_assoc], ?_, hgap, hrest⟩
    -- without blanks the second word would go on where the first one ends
    rintro rfl
    obtain ⟨c, second, rfl⟩ := List.exists_cons_of_ne_nil hne
    exact absurd (hbehind c rfl) (Bool.eq_false_iff.1 (hsecond c List.mem_cons_self))

/-! ## Blanks at the edges -/

/-- Blanks behind a text hold none of its words either. -/
theorem SpacedChars.append_blank (h : SpacedChars ws cs) (hgap : ∀ c ∈ gap, isBlank c = true) :
    SpacedChars ws (cs ++ gap) := by
  induction h with
  | blank hbefore => exact .blank (List.forall_mem_append.2 ⟨hbefore, hgap⟩)
  | @word before word rest ws hbefore hne hword hrest _ ih =>
    rw [List.append_assoc]
    refine .word hbefore hne hword (fun c hc => ?_) ih
    cases rest with
    | nil => exact hgap c (List.mem_of_mem_head? hc)
    | cons d rest => exact hrest c hc

/-- **The words of a text are those of the trimmed text.** -/
theorem words_trim (s : String) : words (trim s) = words s := by
  obtain ⟨before, behind, hs, hbefore, hbehind⟩ := exists_blanks_around s
  have hspaced : SpacedChars (wordChars (trim s).toList) ((trim s).toList ++ behind) :=
    (spacedChars_wordChars (trim s).toList).append_blank hbehind
  rw [words, words, hs, wordChars_append_of_blank hbefore, hspaced.wordChars_eq]

theorem spaced_trim_iff {ws : List String} : Spaced ws (trim s) ↔ Spaced ws s := by
  rw [← words_eq_iff, words_trim, words_eq_iff]

/-! ## The first two words -/

/-- A text begins with two words, behind blanks if any: these are the blanks
between the two, and a blank or nothing follows them. -/
def Opens (s first gap second : String) : Prop :=
  ∃ before behind, s = before ++ first ++ gap ++ second ++ behind ∧
    (∀ c ∈ before.toList, isBlank c = true) ∧ gap ≠ "" ∧ (∀ c ∈ gap.toList, isBlank c = true) ∧
    ∀ c ∈ behind.toList.head?, isBlank c = true

/-- Every text of two words or more begins with them. -/
theorem exists_opens {first second : String} {others : List String}
    (h : words s = first :: second :: others) :
    ∃ gap behind, (trim s).toList = first.toList ++ (gap.toList ++ (second.toList ++ behind)) ∧
      Opens s first gap second := by
  have hspaced : Spaced (first :: second :: others) (trim s) :=
    words_eq_iff.1 ((words_trim s).trans h)
  obtain ⟨gap, rest, htrim, hne, hgap, hrest⟩ := hspaced.exists_gap (isBlank_head?_trim s)
  obtain ⟨before, after, hs, hbefore, hafter⟩ := exists_blanks_around s
  refine ⟨String.ofList gap, rest, ?_, String.ofList before, String.ofList (rest ++ after), ?_, ?_,
    ?_, ?_, ?_⟩
  · rw [String.toList_ofList]
    exact htrim
  · rw [← String.toList_inj, hs, htrim]
    simp only [String.toList_append, String.toList_ofList, List.append_assoc]
  · rwa [String.toList_ofList]
  · rwa [← String.toList_eq_nil_iff.ne, String.toList_ofList]
  · rwa [String.toList_ofList]
  · intro c hc
    rw [String.toList_ofList] at hc
    cases rest with
    | nil => exact hafter c (List.mem_of_mem_head? hc)
    | cons d rest => exact hrest c hc

end Text

end DeployLint
