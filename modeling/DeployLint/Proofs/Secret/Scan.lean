import DeployLint.Proofs.Finding.Order
import DeployLint.Proofs.Text.Lines
import DeployLint.Proofs.Text.Occurrence
import DeployLint.Secret

/-!
# Secrets — what a scan of a text finds

A scan reports, line by line, the patterns that stand on a line with no
marker (`findingsOn`). That says nothing of searches: a scan gives the same
whatever the searches that it uses, as long as they miss nothing
(`scan_eq_lines`).
-/

namespace DeployLint

namespace Secret

variable {tables : SecurityTables}

/-- What there is to find on the line at a place: a warning for each pattern of
the table that stands on it, unless a marker does. Empty entries count as none. -/
def findingsOn (tables : SecurityTables) (subject : Subject) (i : Nat) (line : String) :
    List Finding :=
  if ∃ marker ∈ tables.referenceMarkers, marker ≠ "" ∧ Text.StandsIn marker line then []
  else
    (tables.secretPatterns.filter fun pattern => pattern ≠ "" ∧ Text.StandsIn pattern line).map
      fun pattern =>
        { code := "SC1001"
          severity := .warning
          subject := subject
          path := none
          line := some (Text.lineNumber i)
          message := s!"Potential hardcoded {pattern} on line {i + 1}: {Text.trim line}" }

theorem mem_entries_iff {table : List String} {entry : String} :
    entry ∈ entries table ↔ entry ∈ table ∧ entry ≠ "" := by
  rw [entries, List.mem_filter, Bool.not_eq_true', ← Bool.not_eq_true, String.isEmpty_iff]

theorem filter_entries (table : List String) (line : String) :
    ((entries table).filter fun entry => Text.StandsIn entry line) =
      table.filter fun entry => entry ≠ "" ∧ Text.StandsIn entry line := by
  rw [entries, List.filter_filter]
  refine List.filter_congr fun entry _ => ?_
  rw [Bool.eq_iff_iff, Bool.and_eq_true, decide_eq_true_iff, decide_eq_true_iff,
    Bool.not_eq_true', ← Bool.not_eq_true, String.isEmpty_iff, and_comm]

namespace Scanner

/-- The patterns on a line, told without a search. -/
theorem patternsOn_eq (s : Scanner tables) (line : String) :
    s.patternsOn line =
      if ∃ marker ∈ tables.referenceMarkers, marker ≠ "" ∧ Text.StandsIn marker line then []
      else tables.secretPatterns.filter fun entry => entry ≠ "" ∧ Text.StandsIn entry line := by
  have hmarked : s.markerSearch.finds line = true ↔
      ∃ marker ∈ tables.referenceMarkers, marker ≠ "" ∧ Text.StandsIn marker line := by
    simp only [s.markerSearch.finds_iff, mem_entries_iff, and_assoc]
  have hfound : ((s.patternSearch.entriesIn line).map fun i => (entries tables.secretPatterns)[i]) =
      (entries tables.secretPatterns).filter fun entry => Text.StandsIn entry line :=
    s.patternSearch.map_entriesIn line
  rw [patternsOn, hfound, filter_entries]
  simp only [hmarked]

theorem checkLine_eq (s : Scanner tables) (subject : Subject) (i : Nat) (line : String) :
    s.checkLine subject i line = findingsOn tables subject i line := by
  rw [checkLine, patternsOn_eq, findingsOn]
  split
  · rfl
  · rfl

end Scanner

/-- **A scan reports what there is to find, line by line.** It does so with
every pair of searches that tell all places of their words, so also with the
pair that `scan` takes. The number that a finding carries is that of its line,
counted from one in thirty-two bits; its message counts on. -/
theorem scan_eq_lines (s : Scanner tables) (text : String) (subject : Subject) :
    (s.scan text subject =
      (Text.lines text).zipIdx.flatMap fun x => findingsOn tables subject x.2 x.1) ∧
    (scan tables text subject =
      (Text.lines text).zipIdx.flatMap fun x => findingsOn tables subject x.2 x.1) ∧
    ∀ i, (Text.lineNumber i).toNat = (i + 1) % UInt32.size := by
  have hevery : ∀ s : Scanner tables, s.scan text subject =
      (Text.lines text).zipIdx.flatMap fun x => findingsOn tables subject x.2 x.1 := by
    intro s
    rw [Scanner.scan]
    exact congrArg (Text.lines text).zipIdx.flatMap
      (funext fun x => s.checkLine_eq subject x.2 x.1)
  exact ⟨hevery s, hevery (.ofTables tables), Text.toNat_lineNumber⟩

/-- Words that overlap, that stand in each other or twice in the table, and
an empty one; a line with a marker between two others. -/
example :
    (scan { secretPatterns := ["", "token", "Ken", "keneN", "TOKEN"], referenceMarkers := ["", "env."] }
      "aToKeneN ken\ntoken=ENV.x\n Key \n tokEn" { artifact := "a.env" }).map Finding.message =
      ["Potential hardcoded token on line 1: aToKeneN ken",
        "Potential hardcoded Ken on line 1: aToKeneN ken",
        "Potential hardcoded keneN on line 1: aToKeneN ken",
        "Potential hardcoded TOKEN on line 1: aToKeneN ken",
        "Potential hardcoded token on line 4: tokEn",
        "Potential hardcoded Ken on line 4: tokEn",
        "Potential hardcoded TOKEN on line 4: tokEn"] := by
  decide +kernel

/-! ## The lines that findings are on -/

variable {text : String} {subject : Subject} {f : Finding}
variable (hfew : (Text.lines text).length < UInt32.size)

include hfew

/-- A secret is on a line of the text that is searched. -/
theorem exists_line_of_mem_scan (hf : f ∈ scan tables text subject) :
    ∃ n, f.line = some n ∧ 1 ≤ n.toNat ∧ n.toNat ≤ (Text.lines text).length := by
  obtain ⟨x, hx, hmem⟩ := List.mem_flatMap.1 hf
  obtain ⟨pattern, -, rfl⟩ := List.mem_map.1 hmem
  have hline : (Text.lineNumber x.2, x.1) ∈ Text.numberedLines text := List.mem_map_of_mem hx
  exact ⟨Text.lineNumber x.2, rfl, Text.number_of_mem_numberedLines hfew hline⟩

theorem ascends_scan (tables : SecurityTables) (subject : Subject) :
    Finding.Ascends Finding.line (scan tables text subject) := by
  have hascend : (Text.lines text).zipIdx.Pairwise fun x y =>
      Text.lineNumber x.2 ≤ Text.lineNumber y.2 :=
    (List.pairwise_map.1 (Text.numberedLines_pairwise hfew)).imp UInt32.le_of_lt
  refine Finding.ascends_flatMap hascend fun x f hf n hn => ?_
  obtain ⟨pattern, -, rfl⟩ := List.mem_map.1 hf
  exact Option.some.inj hn

end Secret

end DeployLint
