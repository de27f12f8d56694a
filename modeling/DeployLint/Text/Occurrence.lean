import DeployLint.Text.Uppercase

/-!
# Text — many words looked for at once

A search looks for all entries of a list in one line. It tells every place
where one of them stands, in whichever case its ASCII letters are: places
that overlap, an entry that stands in another one, an entry as often as it
stands. In which order it tells them is its own matter.
-/

namespace DeployLint

namespace Text

/-! ## Places of words -/

/-- A word stands at a position of a line, in any case. -/
def StandsAt (word line : String) (position : Nat) : Prop :=
  ∃ before found after, line = before ++ found ++ after ∧ before.length = position ∧
    lower found = lower word

@[simp] theorem toList_lower (s : String) : (lower s).toList = s.toList.map Char.toLower :=
  String.toList_ofList

/-- In lower case, a word that stands at a position begins the rest from there. -/
theorem standsAt_iff {word line : String} {position : Nat} :
    StandsAt word line position ↔
      ∃ before after, (lower line).toList = before ++ after ∧ before.length = position ∧
        (lower word).toList <+: after := by
  constructor
  · rintro ⟨before, found, after, rfl, hposition, hfound⟩
    refine ⟨(lower before).toList, (lower found).toList ++ (lower after).toList, ?_, ?_, ?_⟩
    · simp
    · rw [toList_lower, List.length_map, String.length_toList, hposition]
    · rw [hfound]
      exact List.prefix_append _ _
  · rintro ⟨before, after, hline, hposition, rest, rfl⟩
    rw [toList_lower, List.map_eq_append_iff] at hline
    obtain ⟨start, tail, hsplit, rfl, htail⟩ := hline
    obtain ⟨found, last, rfl, hfound, -⟩ := List.map_eq_append_iff.1 htail
    refine ⟨String.ofList start, String.ofList found, String.ofList last, ?_, ?_, ?_⟩
    · rw [← String.toList_inj]
      simpa using hsplit
    · simpa using hposition
    · rw [← String.toList_inj]
      simpa using hfound

/-! ## Searches -/

/-- A place where an entry of a list stands. -/
structure Hit (table : List String) where
  entry : Fin table.length
  position : Nat
deriving DecidableEq, Repr

/-- A search for the entries of a list. -/
structure Search (table : List String) where
  /-- The places in a line, in the order in which the search comes upon them. -/
  hits : String → List (Hit table)
  /-- It tells all of them and nothing else. -/
  mem_hits_iff : ∀ line hit, hit ∈ hits line ↔ StandsAt table[hit.entry] line hit.position

/-- Puts a number into its place in an ascending list, unless it is there already. -/
def insertOnce {n : Nat} (i : Fin n) : List (Fin n) → List (Fin n)
  | [] => [i]
  | j :: js =>
    if i < j then i :: j :: js
    else if i = j then j :: js
    else j :: insertOnce i js

namespace Search

variable {table : List String}

/-- Whether any entry stands in a line. -/
def finds (s : Search table) (line : String) : Bool := !(s.hits line).isEmpty

/-- The entries that stand in a line, in the order of the list, each once. -/
def entriesIn (s : Search table) (line : String) : List (Fin table.length) :=
  ((s.hits line).map Hit.entry).foldr insertOnce []

end Search

/-! ## The search place by place -/

/-- The entries that a rest begins with, all at its position. -/
def hitsAt (table : List String) (position : Nat) (rest : List Char) : List (Hit table) :=
  ((List.finRange table.length).filter fun i => (lower table[i]).toList.isPrefixOf rest).map
    fun i => ⟨i, position⟩

/-- The places in the rest of a line from a position on. -/
def hitsFrom (table : List String) (position : Nat) : List Char → List (Hit table)
  | [] => hitsAt table position []
  | c :: cs => hitsAt table position (c :: cs) ++ hitsFrom table (position + 1) cs

theorem mem_hitsAt_iff {table : List String} {position : Nat} {rest : List Char}
    {hit : Hit table} :
    hit ∈ hitsAt table position rest ↔
      hit.position = position ∧ (lower table[hit.entry]).toList <+: rest := by
  rw [hitsAt, List.mem_map]
  constructor
  · rintro ⟨i, hi, rfl⟩
    exact ⟨rfl, List.isPrefixOf_iff_prefix.1 (List.mem_filter.1 hi).2⟩
  · rintro ⟨rfl, hentry⟩
    refine ⟨hit.entry, List.mem_filter.2 ⟨List.mem_finRange _, ?_⟩, rfl⟩
    exact List.isPrefixOf_iff_prefix.2 hentry

/-- **Every place is come upon**: those at the first position, then the others. -/
theorem mem_hitsFrom_iff {table : List String} {position : Nat} {cs : List Char}
    {hit : Hit table} :
    hit ∈ hitsFrom table position cs ↔
      ∃ before after, cs = before ++ after ∧ position + before.length = hit.position ∧
        (lower table[hit.entry]).toList <+: after := by
  induction cs generalizing position with
  | nil =>
    rw [hitsFrom, mem_hitsAt_iff]
    constructor
    · rintro ⟨hposition, hentry⟩
      exact ⟨[], [], rfl, hposition.symm, hentry⟩
    · rintro ⟨before, after, hsplit, hposition, hentry⟩
      obtain ⟨rfl, rfl⟩ := List.nil_eq_append_iff.1 hsplit
      exact ⟨hposition.symm, hentry⟩
  | cons c cs ih =>
    rw [hitsFrom, List.mem_append, mem_hitsAt_iff, ih]
    constructor
    · rintro (⟨hposition, hentry⟩ | ⟨before, after, rfl, hposition, hentry⟩)
      · exact ⟨[], c :: cs, rfl, hposition.symm, hentry⟩
      · refine ⟨c :: before, after, rfl, ?_, hentry⟩
        rw [List.length_cons]
        omega
    · rintro ⟨before, after, hsplit, hposition, hentry⟩
      cases before with
      | nil =>
        obtain rfl : c :: cs = after := hsplit
        exact .inl ⟨hposition.symm, hentry⟩
      | cons b before =>
        rw [List.cons_append, List.cons.injEq] at hsplit
        refine .inr ⟨before, after, hsplit.2, ?_, hentry⟩
        rw [List.length_cons] at hposition
        omega

/-- The search that looks at one position after another, for all entries in their order. -/
def Search.placeByPlace (table : List String) : Search table where
  hits line := hitsFrom table 0 (lower line).toList
  mem_hits_iff line hit := by
    rw [mem_hitsFrom_iff, standsAt_iff]
    simp only [Nat.zero_add]

end Text

end DeployLint
