import DeployLint.Proofs.Text.Words
import DeployLint.Text.Occurrence
import DeployLint.Text.Uppercase

/-!
# Text — the case of letters

Upper case is made character by character, and a blank stays the blank that it
is. So what a text begins with in upper case is told by its first word, as
long as no blank is looked for (`beginsWith_upper_iff_first_word`). In ASCII a
text in upper case does not say in which case it was written
(`upper_eq_of_lower_eq`).
-/

namespace DeployLint

namespace Text

variable {c : Char} {cs gap lead rest : List Char}

theorem toList_upper (s : String) : (upper s).toList = upperChars s.toList := String.toList_ofList

/-! ## Blanks -/

/-- No blank has another form in upper case. -/
theorem upperChar_of_isBlank (h : isBlank c = true) : upperChar c = [c] := by
  have hall : ∀ n ∈ List.range' 9 5 ++ List.range' 0x2000 11 ++
      [0x20, 0x85, 0xA0, 0x1680, 0x2028, 0x2029, 0x202F, 0x205F, 0x3000],
      upperChar (Char.ofNat n) = [Char.ofNat n] := by decide +kernel
  rw [← Char.ofNat_toNat c]
  refine hall c.toNat ?_
  simp only [isBlank, Bool.or_eq_true, Bool.and_eq_true, decide_eq_true_eq, beq_iff_eq] at h
  simp only [List.mem_append, List.mem_range'_1, List.mem_cons, List.not_mem_nil]
  omega

theorem upperChars_append (cs rest : List Char) :
    upperChars (cs ++ rest) = upperChars cs ++ upperChars rest :=
  List.flatMap_append

theorem upperChars_of_blank (h : ∀ c ∈ gap, isBlank c = true) : upperChars gap = gap := by
  induction gap with
  | nil => rfl
  | cons c gap ih =>
    obtain ⟨hc, hgap⟩ := List.forall_mem_cons.1 h
    rw [upperChars, List.flatMap_cons, upperChar_of_isBlank hc, ← upperChars, ih hgap,
      List.singleton_append]

/-- What has no other form in upper case stays in front. -/
theorem head?_upperChars (h : ∀ c ∈ rest.head?, upperChar c = [c]) :
    (upperChars rest).head? = rest.head? := by
  cases rest with
  | nil => rfl
  | cons c rest =>
    rw [upperChars, List.flatMap_cons, h c rfl]
    rfl

/-! ## Beginnings -/

theorem beginsWith_iff {s lead : String} : beginsWith s lead = true ↔ lead.toList <+: s.toList :=
  List.isPrefixOf_iff_prefix

theorem beginsWith_iff_exists {s lead : String} :
    beginsWith s lead = true ↔ ∃ rest, s = lead ++ rest := by
  rw [beginsWith_iff]
  constructor
  · rintro ⟨rest, hrest⟩
    refine ⟨String.ofList rest, ?_⟩
    rw [← String.toList_inj, String.toList_append, String.toList_ofList, hrest]
  · rintro ⟨rest, rfl⟩
    rw [String.toList_append]
    exact List.prefix_append _ _

/-- A beginning is looked for in vain behind a character that it does not hold. -/
theorem prefix_append_iff_of_stop (h : ∀ c ∈ rest.head?, c ∉ lead) :
    lead <+: cs ++ rest ↔ lead <+: cs := by
  refine ⟨fun hwhole => ?_, fun hpart => hpart.trans (List.prefix_append cs rest)⟩
  rcases List.prefix_or_prefix_of_prefix hwhole (List.prefix_append cs rest) with hpart | hlonger
  · exact hpart
  · -- what the beginning has behind the first part begins the second one
    obtain ⟨more, rfl⟩ := hlonger
    rw [List.prefix_append_right_inj] at hwhole
    cases more with
    | nil => simp only [List.append_nil, List.prefix_refl]
    | cons c more =>
      obtain ⟨behind, rfl⟩ := hwhole
      exact absurd (List.mem_append_right cs List.mem_cons_self) (h c rfl)

/-- And so it is in upper case, behind one that keeps its form there. -/
theorem prefix_upperChars_append_iff (h : ∀ c ∈ rest.head?, upperChar c = [c] ∧ c ∉ lead) :
    lead <+: upperChars (cs ++ rest) ↔ lead <+: upperChars cs := by
  rw [upperChars_append]
  refine prefix_append_iff_of_stop fun c hc => (h c ?_).2
  rwa [head?_upperChars fun c hc => (h c hc).1] at hc

/-- **What a text begins with in upper case is told by its first word**, where
neither has a blank. -/
theorem beginsWith_upper_iff_first_word {s lead : String}
    (hs : ∀ c ∈ s.toList.head?, isBlank c = false)
    (hlead : ∀ c ∈ lead.toList, isBlank c = false) :
    beginsWith (upper s) lead = true ↔
      beginsWith (upper ((words s).head?.getD "")) lead = true := by
  have hspaced := spacedChars_wordChars s.toList
  rw [words]
  cases hwords : wordChars s.toList with
  | nil =>
    rw [hwords] at hspaced
    cases hspaced with
    | blank hgap =>
      have hnone : s.toList.head? = none := Option.eq_none_iff_forall_not_mem.2 fun c hc =>
        absurd (hgap c (List.mem_of_mem_head? hc)) (Bool.eq_false_iff.1 (hs c hc))
      obtain rfl : s = "" := String.toList_eq_nil_iff.1 (List.head?_eq_none_iff.1 hnone)
      rfl
  | cons word ws =>
    rw [hwords] at hspaced
    obtain ⟨rest, hrest, hgap, -⟩ := hspaced.exists_rest hs
    have hstop : ∀ c ∈ rest.head?, upperChar c = [c] ∧ c ∉ lead.toList := fun c hc =>
      ⟨upperChar_of_isBlank (hgap c hc), fun hmem =>
        absurd (hgap c hc) (Bool.eq_false_iff.1 (hlead c hmem))⟩
    rw [List.map_cons, List.head?_cons, Option.getD_some, beginsWith_iff, beginsWith_iff,
      toList_upper, toList_upper, String.toList_ofList, hrest]
    exact prefix_upperChars_append_iff hstop

/-- **Two words with a space between them begin a text** whose first two
words they are but for the case, if it has just that space between these. -/
theorem prefix_upperChars_iff_single_space {first second behind lead' : List Char}
    (hfirst : upperChars first = lead) (hsecond : upperChars second = lead')
    (hgap : ∀ c ∈ gap, isBlank c = true) (hne : lead' ≠ [])
    (hlead' : ∀ c ∈ lead'.head?, isBlank c = false) :
    lead ++ ' ' :: lead' <+: upperChars (first ++ (gap ++ (second ++ behind))) ↔ gap = [' '] := by
  rw [upperChars_append, upperChars_append, upperChars_append, upperChars_of_blank hgap, hfirst,
    hsecond, List.prefix_append_right_inj]
  constructor
  · rintro ⟨more, hmore⟩
    have hstop : ∀ rest, ∀ c ∈ (lead' ++ rest).head?, isBlank c = false := by
      intro rest c hc
      rw [List.head?_append_of_ne_nil _ hne] at hc
      exact hlead' c hc
    have hspace : ∀ c ∈ [' '], isBlank c = true := List.forall_mem_singleton.2 rfl
    exact (run_append_inj hspace (hstop more) hgap (hstop _) hmore).1.symm
  · rintro rfl
    exact List.prefix_append (' ' :: lead') (upperChars behind)

/-! ## Lower case -/

theorem beginsWith_lower {s lead : String} (h : beginsWith s lead = true) :
    beginsWith (lower s) (lower lead) = true := by
  rw [beginsWith_iff, toList_lower, toList_lower]
  exact (beginsWith_iff.1 h).map Char.toLower

/-! ## ASCII -/

/-- Lower case stays in ASCII, and upper case does not see it there. -/
theorem toLower_of_ascii {c : Char} (h : c.toNat < 0x80) :
    c.toLower.toNat < 0x80 ∧ c.toLower.toUpper = c.toUpper := by
  have hall : ∀ n < 0x80, (Char.ofNat n).toLower.toNat < 0x80 ∧
      (Char.ofNat n).toLower.toUpper = (Char.ofNat n).toUpper := by decide
  rw [← Char.ofNat_toNat c]
  exact hall c.toNat h

/-- What is in ASCII in lower case was in it before. -/
theorem ascii_of_toLower {c : Char} (h : c.toLower.toNat < 0x80) : c.toNat < 0x80 := by
  delta Char.toLower at h
  split at h
  · rename_i hupper
    have hhigh : c.toNat ≤ 90 := UInt32.le_iff_toNat_le.1 hupper.2
    omega
  · exact h

theorem upper_lower {s : String} (h : ∀ c ∈ s.toList, c.toNat < 0x80) :
    upper (lower s) = upper s := by
  rw [upper, lower, String.toList_ofList, upperChars, List.flatMap_map, upper, upperChars]
  refine congrArg String.ofList (List.flatMap_congr fun c hc => ?_)
  obtain ⟨hlower, hsame⟩ := toLower_of_ascii (h c hc)
  rw [upperChar, upperChar, if_pos hlower, if_pos (h c hc), hsame]

/-- So a text that is a word of ASCII but for its case is that word in upper case. -/
theorem upper_eq_of_lower_eq {s word : String} (hword : word.toList.all (·.toNat < 0x80) = true)
    (h : lower s = word) : upper s = upper word := by
  have hascii : ∀ c ∈ s.toList, c.toNat < 0x80 := by
    intro c hc
    have hmem : c.toLower ∈ word.toList := by
      rw [← h, lower, String.toList_ofList]
      exact List.mem_map_of_mem hc
    exact ascii_of_toLower (of_decide_eq_true (List.all_eq_true.1 hword _ hmem))
  rw [← h, upper_lower hascii]

end Text

end DeployLint
