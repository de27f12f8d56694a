import DeployLint.Proofs.Dockerfile.Lines

/-!
# Build files — mistakes are told by how a line begins

The rules on single lines look at how a line begins in upper case, where the
rules on instructions compare words. Two things follow. The start of a build
file is any keyword that begins with `FROM`, also a longer one
(`missingFrom_reported_iff`). And the root user is found where one space
stands between `USER` and `root`; any other blanks between the two hide it, as
long as no other line has the same number (`rootUser_reported_iff`).
-/

namespace DeployLint

open Finding (All Reports ReportsOn reports_append reports_ite_iff reports_unless_iff)

namespace Instruction

/-! ## The body of a line -/

/-- What a line has behind its body is nothing, or begins with a blank or a backslash. -/
theorem exists_behind_body (line : String) :
    ∃ rest, line.toList = (body line).toList ++ rest ∧
      ∀ c ∈ rest.head?, Text.isBlank c = true ∨ c = '\\' := by
  rw [body]
  split
  · rename_i text htext
    obtain rfl : line = text ++ "\\" := Text.beforeEnd?_eq_some_iff.1 htext
    obtain ⟨gap, hsplit, hgap⟩ := Text.exists_blanks_behind text.toList
    refine ⟨gap ++ ['\\'], ?_, fun c hc => ?_⟩
    · rw [Text.trimEnd, String.toList_ofList, ← List.append_assoc, ← hsplit, String.toList_append]
      rfl
    · cases gap with
      | nil => exact .inr (Option.some.inj hc).symm
      | cons d gap => exact .inl (hgap c (List.mem_of_mem_head? hc))
  · exact ⟨[], (List.append_nil _).symm, fun c hc => absurd hc (Option.not_mem_none c)⟩

/-- **A line begins with a word in upper case where the keyword of its body
does**, as long as there are no blanks in front. -/
theorem beginsWith_upper_iff_keyword {i : Instruction} {lead : String}
    (hfirst : ∀ c ∈ i.text.toList.head?, Text.isBlank c = false)
    (hlead : ∀ c ∈ lead.toList, Text.isBlank c = false ∧ c ≠ '\\') :
    Text.beginsWith (Text.upper i.text) lead = true ↔
      Text.beginsWith (⟨i.line, body i.text⟩ : Instruction).keyword lead = true := by
  obtain ⟨rest, hsplit, hbehind⟩ := exists_behind_body i.text
  have hstop : ∀ c ∈ rest.head?, Text.upperChar c = [c] ∧ c ∉ lead.toList := by
    intro c hc
    rcases hbehind c hc with hblank | rfl
    · exact ⟨Text.upperChar_of_isBlank hblank, fun hmem =>
        absurd hblank (Bool.eq_false_iff.1 (hlead c hmem).1)⟩
    · exact ⟨by decide, fun hmem => (hlead _ hmem).2 rfl⟩
  have hbody : ∀ c ∈ (body i.text).toList.head?, Text.isBlank c = false :=
    fun c hc => hfirst c (hsplit ▸ List.mem_head?_append_of_mem_head? hc)
  calc Text.beginsWith (Text.upper i.text) lead = true
      ↔ Text.beginsWith (Text.upper (body i.text)) lead = true := by
        rw [Text.beginsWith_iff, Text.beginsWith_iff, Text.toList_upper, Text.toList_upper, hsplit]
        exact Text.prefix_upperChars_append_iff hstop
    _ ↔ Text.beginsWith (⟨i.line, body i.text⟩ : Instruction).keyword lead = true :=
        Text.beginsWith_upper_iff_first_word hbody fun c hc => (hlead c hc).1

end Instruction

namespace Dockerfile

open Instruction (body)

variable {text : String} {subject : Subject} {i first : Instruction} {rest : List Instruction}
  {n : UInt32}

/-! ## The start -/

theorem reports_missingFrom_iff (hlines : physicalLines text = first :: rest) :
    Reports (checkLines text subject) .missingFrom ↔
      Text.beginsWith (Text.upper first.text) "FROM" = false := by
  have hothers : ¬ Reports ((first :: rest).flatMap (checkLine subject)) .missingFrom :=
    All.not_reports (All.flatMap fun i _ => ofRules_checkLine subject i) (by decide)
  rw [checkLines_eq hlines, reports_append, or_iff_left hothers, checkStart, reports_unless_iff,
    Bool.not_eq_true]
  exact and_iff_left rfl

/-- **A start is missing where the first line does not begin with `FROM`.**
The keyword of that line, without a backslash at the line's end, does not
begin with it either. So a file that is reported does not have the keyword
`FROM` there, and one that does not have it is reported, unless it has a
longer word that begins with `FROM`. -/
theorem missingFrom_reported_iff (hlines : physicalLines text = first :: rest)
    (subject : Subject) :
    let start : Instruction := ⟨first.line, body first.text⟩
    (Reports (checkLines text subject) .missingFrom ↔
      Text.beginsWith start.keyword "FROM" = false) ∧
    (start.is "FROM" = false ↔ Reports (checkLines text subject) .missingFrom ∨
      ∃ more, more ≠ "" ∧ start.keyword = "FROM" ++ more) := by
  intro start
  have hfirst : ∀ c ∈ first.text.toList.head?, Text.isBlank c = false := by
    obtain ⟨line, -, htrim, -⟩ :=
      exists_line_of_mem_physicalLines (hlines ▸ List.mem_cons_self : first ∈ physicalLines text)
    exact htrim ▸ Text.isBlank_head?_trim line
  have hbegins : Text.beginsWith (Text.upper first.text) "FROM" = true ↔
      Text.beginsWith start.keyword "FROM" = true :=
    Instruction.beginsWith_upper_iff_keyword hfirst (by simp [Text.isBlank])
  have hreports : Reports (checkLines text subject) .missingFrom ↔
      Text.beginsWith start.keyword "FROM" = false := by
    rw [reports_missingFrom_iff hlines, ← Bool.not_eq_true, ← Bool.not_eq_true, hbegins]
  refine ⟨hreports, ?_⟩
  rw [hreports, Instruction.is, beq_eq_false_iff_ne]
  constructor
  · intro hother
    cases hfrom : Text.beginsWith start.keyword "FROM" with
    | false => exact .inl rfl
    | true =>
      obtain ⟨more, hmore⟩ := Text.beginsWith_iff_exists.1 hfrom
      refine .inr ⟨more, ?_, hmore⟩
      rintro rfl
      exact hother (hmore.trans String.append_empty)
  · rintro (hnone | ⟨more, hne, hmore⟩) heq
    · rw [heq] at hnone
      exact absurd hnone (by decide)
    · rw [hmore] at heq
      exact hne (String.append_eq_left_iff.1 heq)

/-- A continued start behind a comment, which is found; and a line that is
nothing but a backslash, behind which it is not. -/
theorem missingFrom_reported_iff_continued :
    let subject : Subject := { artifact := "Dockerfile" }
    physicalLines "# base\n from\\\na\n" = [⟨2, "from\\"⟩, ⟨3, "a"⟩] ∧
    ¬ Reports (checkLines "# base\n from\\\na\n" subject) .missingFrom ∧
    physicalLines "\\\nFROM a" = [⟨1, "\\"⟩, ⟨2, "FROM a"⟩] ∧
    Reports (checkLines "\\\nFROM a" subject) .missingFrom := by
  intro subject
  have hfound : physicalLines "# base\n from\\\na\n" = [⟨2, "from\\"⟩, ⟨3, "a"⟩] := by decide
  have hhidden : physicalLines "\\\nFROM a" = [⟨1, "\\"⟩, ⟨2, "FROM a"⟩] := by decide
  refine ⟨hfound, fun h => ?_, hhidden, ?_⟩
  · exact absurd ((missingFrom_reported_iff hfound subject).1.1 h) (by decide)
  · exact (missingFrom_reported_iff hhidden subject).1.2 (by decide)

/-- **A longer word passes for a start**, so it is not so that a start is
missing where the first keyword is not `FROM`. -/
theorem not_missingFrom_reported_iff_keyword :
    ¬ ∀ (text : String) (subject : Subject) (first : Instruction) (rest : List Instruction),
      physicalLines text = first :: rest →
      (Reports (checkLines text subject) .missingFrom ↔
        (⟨first.line, body first.text⟩ : Instruction).is "FROM" = false) := by
  intro h
  have hiff := h "FROMAGE a\n" { artifact := "Dockerfile" } ⟨1, "FROMAGE a"⟩ [] (by decide)
  exact absurd hiff (by decide)

/-! ## The root user -/

theorem reports_rootUser_iff :
    Reports (checkLine subject i) .rootUser ↔
      Text.beginsWith (Text.upper i.text) "USER ROOT" = true := by
  have hfiles : Rule.addLocalFiles.code ≠ Rule.rootUser.code := by decide
  have hcache : Rule.pipCache.code ≠ Rule.rootUser.code := by decide
  rw [checkLine, reports_append, reports_append, reports_ite_iff, reports_ite_iff, reports_ite_iff]
  constructor
  · rintro ((⟨huser, -⟩ | ⟨-, hcode⟩) | ⟨-, hcode⟩)
    · exact huser
    · exact absurd hcode hfiles
    · exact absurd hcode hcache
  · exact fun huser => .inl (.inl ⟨huser, rfl⟩)

/-- **The root user is found behind one space.** A line whose first two words
are `USER` and `root`, in any case, begins with the two and some blanks
between them, and it is reported where these are one space. In a file of fewer
lines than there are numbers it is reported there only. -/
theorem rootUser_reported_iff {line keyword name : String} {others : List String}
    (hline : (n, line) ∈ Text.numberedLines text)
    (hwords : Text.words line = keyword :: name :: others)
    (hkeyword : Text.lower keyword = "user") (hname : Text.lower name = "root")
    (subject : Subject) :
    ∃ gap, Text.Opens line keyword gap name ∧
      (gap = " " → ReportsOn (checkLines text subject) .rootUser n) ∧
      ((Text.lines text).length < UInt32.size →
        (ReportsOn (checkLines text subject) .rootUser n ↔ gap = " ")) := by
  obtain ⟨gap, behind, htrim, hopens⟩ := Text.exists_opens hwords
  have hcounts : Instruction.counts (Text.trim line) = true :=
    counts_trim_of_words hwords (beginsWith_hash_of_lower hkeyword (by decide))
  have hline : (⟨n, Text.trim line⟩ : Instruction) ∈ physicalLines text :=
    mem_physicalLines text hline hcounts
  have huser : Text.upperChars keyword.toList = "USER".toList := by
    rw [← Text.toList_upper, Text.upper_eq_of_lower_eq (by decide) hkeyword]
    decide
  have hroot : Text.upperChars name.toList = "ROOT".toList := by
    rw [← Text.toList_upper, Text.upper_eq_of_lower_eq (by decide) hname]
    decide
  have hfound : Reports (checkLine subject ⟨n, Text.trim line⟩) .rootUser ↔ gap = " " := by
    obtain ⟨-, -, -, -, -, hgap, -⟩ := hopens
    calc Reports (checkLine subject ⟨n, Text.trim line⟩) .rootUser
        ↔ "USER".toList ++ ' ' :: "ROOT".toList <+: Text.upperChars (Text.trim line).toList := by
          rw [reports_rootUser_iff, Text.beginsWith_iff, Text.toList_upper]
          rfl
      _ ↔ gap.toList = [' '] := by
          rw [htrim]
          exact Text.prefix_upperChars_iff_single_space huser hroot hgap (by decide)
            (by simp [Text.isBlank])
      _ ↔ gap = " " := by rw [← String.toList_inj]; rfl
  refine ⟨gap, hopens, fun hspace => reportsOn_checkLines hline (hfound.2 hspace), fun hfew => ?_⟩
  exact (reportsOn_checkLines_iff hfew hline (by decide)).trans hfound

/-- A switch that is found: between its words stands the one space, whatever
stands around them. -/
theorem rootUser_reported_iff_tabbed :
    let text := "FROM a\n\t User rOOT\t# b\r\n"
    let subject : Subject := { artifact := "Dockerfile" }
    (2, "\t User rOOT\t# b") ∈ Text.numberedLines text ∧
    Text.words "\t User rOOT\t# b" = ["User", "rOOT", "#", "b"] ∧
    ReportsOn (checkLines text subject) .rootUser 2 ∧
    Text.Opens "\t User rOOT\t# b" "User" " " "rOOT" := by
  intro text subject
  have hline : (2, "\t User rOOT\t# b") ∈ Text.numberedLines text := by decide
  have hwords : Text.words "\t User rOOT\t# b" = ["User", "rOOT", "#", "b"] := by decide
  have hfound : ReportsOn (checkLines text subject) .rootUser 2 := by decide
  obtain ⟨gap, hopens, -, hiff⟩ :=
    rootUser_reported_iff hline hwords (by decide) (by decide) subject
  obtain rfl := (hiff (by decide)).1 hfound
  exact ⟨hline, hwords, hfound, hopens⟩

/-- **Two spaces hide the root user**, so it is not so that every line with
these two words is reported. -/
theorem not_rootUser_reported_of_words :
    ¬ ∀ (text : String) (subject : Subject) (n : UInt32) (line keyword name : String)
      (others : List String), (n, line) ∈ Text.numberedLines text →
      Text.words line = keyword :: name :: others →
      Text.lower keyword = "user" → Text.lower name = "root" →
      ReportsOn (checkLines text subject) .rootUser n := by
  intro h
  have hreports := h "FROM a\nUSER  root\n" { artifact := "Dockerfile" } 2 "USER  root" "USER"
    "root" [] (by decide) (by decide) (by decide) (by decide)
  exact absurd hreports (by decide)

end Dockerfile

end DeployLint
