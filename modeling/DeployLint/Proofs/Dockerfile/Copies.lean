import DeployLint.Proofs.Dockerfile.Findings
import DeployLint.Proofs.Dockerfile.Instructions

/-!
# Build files — what is copied from absolute paths

The operands of a copy are its arguments but for the options. The last of
them says where to; the others are its sources. Only the first source is
looked at: a copy is reported where that one is absolute
(`copy_reported_iff_first`), so an absolute source behind a relative one goes
unseen (`not_copy_reported_iff_any`).
-/

namespace DeployLint

open Finding (All OfRules)

namespace Dockerfile

variable {text : String} {subject : Subject} {i : Instruction}

/-! ## Operands -/

/-- The arguments of an instruction that are no options. -/
def operands (i : Instruction) : List String :=
  i.arguments.filter fun argument => !Text.beginsWith argument "--"

/-- What an instruction copies: its operands but for the last, which says where to. -/
def sources (i : Instruction) : List String := (operands i).dropLast

theorem firstOperand?_eq_head? (i : Instruction) : firstOperand? i = (operands i).head? := by
  rw [firstOperand?, operands, List.head?_filter]

/-- An instruction that copies files from where the image is built: another
stage is not named. -/
def CopiesFromContext (i : Instruction) : Prop :=
  (i.is "COPY" = true ∨ i.is "ADD" = true) ∧
    ∀ argument ∈ i.arguments, Text.beginsWith argument "--from" = false

instance (i : Instruction) : Decidable (CopiesFromContext i) :=
  inferInstanceAs (Decidable (_ ∧ _))

/-- Such an instruction is reported for its first operand and nothing else. -/
theorem checkCopy_of_copiesFromContext (hcopies : CopiesFromContext i) {first : String}
    {rest : List String} (hoperands : operands i = first :: rest) :
    checkCopy subject i =
      if Text.beginsWith first "/" then
        [(Finding.graded .absoluteCopySource .warning subject
          s!"Absolute path in {i.keyword} instruction: {first}").onLine i.line]
      else [] := by
  obtain ⟨hkeyword, hcontext⟩ := hcopies
  have hcopy : (i.is "COPY" || i.is "ADD") = true := Bool.or_eq_true_iff.2 hkeyword
  have hfrom : i.arguments.any (Text.beginsWith · "--from") = false :=
    List.any_eq_false.2 fun argument hargument => Bool.eq_false_iff.1 (hcontext argument hargument)
  rw [checkCopy, hcopy, hfrom, firstOperand?_eq_head?, hoperands]
  rfl

/-- What a check of a copy finds is on its line. -/
theorem line_of_mem_checkCopy {f : Finding} (hf : f ∈ checkCopy subject i) :
    f.line = some i.line ∧ f.code = Rule.absoluteCopySource.code := by
  have hall : All (fun f => f.line = some i.line ∧ f.code = Rule.absoluteCopySource.code)
      (checkCopy subject i) := by
    rw [checkCopy]
    refine All.ite All.nil ?_
    split
    · exact All.nil
    · exact All.singleton_of ⟨rfl, rfl⟩
  exact hall f hf

/-! ## Findings on copies -/

/-- **The findings on copies are those of the instructions**, in order. -/
theorem filter_absoluteCopySource (text : String) (subject : Subject) :
    (checkPractices text subject).filter (fun f => f.code = Rule.absoluteCopySource.code) =
      (instructions text).flatMap (checkCopy subject) := by
  -- of the five parts of the check only the one on copies makes findings of this rule
  have hothers : ∀ {fs : List Finding},
      All (OfRules [.missingWorkdir, .missingUser, .singleStage, .missingLabels, .missingOciLabel]
        subject) fs →
      fs.filter (fun f => f.code = Rule.absoluteCopySource.code) = [] := by
    intro fs hfs
    exact List.filter_eq_nil_iff.2 fun f hf hcode =>
      (hfs f hf).code_ne (by decide) (of_decide_eq_true hcode)
  have hcopies : ∀ is : List Instruction, (is.flatMap (checkCopy subject)).filter
      (fun f => f.code = Rule.absoluteCopySource.code) = is.flatMap (checkCopy subject) := by
    refine fun is => List.filter_eq_self.2 fun f hf => ?_
    obtain ⟨i, -, hi⟩ := List.mem_flatMap.1 hf
    exact decide_eq_true (line_of_mem_checkCopy hi).2
  have honly : ∀ {before behind copies stages labels : List Finding}, before = [] → behind = [] →
      stages = [] → labels = [] → before ++ behind ++ copies ++ stages ++ labels = copies := by
    rintro _ _ copies _ _ rfl rfl rfl rfl
    simp only [List.nil_append, List.append_nil]
  rw [checkPractices]
  cases instructions text with
  | nil => rfl
  | cons i is =>
    rw [List.filter_append, List.filter_append, List.filter_append, List.filter_append, hcopies]
    refine honly (hothers ?workdir) (hothers ?user) (hothers ?stages) (hothers ?labels)
    case workdir => exact ofRules_checkPresence (OfRules.graded (by decide) rfl _) _ _
    case user => exact ofRules_checkPresence (OfRules.graded (by decide) rfl _) _ _
    case stages => exact All.singleton_of (OfRules.graded (by decide) rfl _)
    case labels => exact ofRules_checkLabels (by decide) (by decide) subject _

/-- Some finding on a line says that it copies from an absolute path. -/
def ReportsCopy (text : String) (subject : Subject) (line : UInt32) : Prop :=
  ∃ f ∈ checkPractices text subject,
    f.code = Rule.absoluteCopySource.code ∧ f.line = some line

instance (text : String) (subject : Subject) (line : UInt32) :
    Decidable (ReportsCopy text subject line) :=
  inferInstanceAs (Decidable (∃ f ∈ _, _))

/-- Where the check of an instruction finds something, its line is reported. -/
theorem reportsCopy_of_ne_nil (hi : i ∈ instructions text) (hfound : checkCopy subject i ≠ []) :
    ReportsCopy text subject i.line := by
  obtain ⟨f, hf⟩ := List.exists_mem_of_ne_nil _ hfound
  obtain ⟨hline, hcode⟩ := line_of_mem_checkCopy hf
  have hmem : f ∈ (checkPractices text subject).filter
      (fun f => f.code = Rule.absoluteCopySource.code) := by
    rw [filter_absoluteCopySource]
    exact List.mem_flatMap.2 ⟨i, hi, hf⟩
  exact ⟨f, List.mem_of_mem_filter hmem, hcode, hline⟩

/-- And nowhere else, as long as there are fewer lines than numbers. -/
theorem reportsCopy_iff (hfew : (Text.lines text).length < UInt32.size)
    (hi : i ∈ instructions text) :
    ReportsCopy text subject i.line ↔ checkCopy subject i ≠ [] := by
  refine ⟨?_, reportsCopy_of_ne_nil hi⟩
  have hown : ((instructions text).flatMap (checkCopy subject)).filter
      (fun f => f.line = some i.line) = checkCopy subject i := by
    refine filter_flatMap_instructions hfew hi fun j f hf => ?_
    rw [(line_of_mem_checkCopy hf).1]
    exact decide_eq_decide.2 Option.some_inj
  rintro ⟨f, hf, hcode, hline⟩
  rw [← hown, ← filter_absoluteCopySource, List.filter_filter]
  have hmem : f ∈ (checkPractices text subject).filter fun f =>
      decide (f.line = some i.line) && decide (f.code = Rule.absoluteCopySource.code) :=
    List.mem_filter.2 ⟨hf, Bool.and_eq_true_iff.2 ⟨decide_eq_true hline, decide_eq_true hcode⟩⟩
  exact List.ne_nil_of_mem hmem

/-- **A copy is reported where its first source is absolute**, wherever the
instruction stands and however many lines it has. In a file of fewer lines
than there are numbers it is reported there only; its destination does not
count. So what is reported does have an absolute source, and one that has is
reported unless all that are absolute come after the first. -/
theorem copy_reported_iff_first (hi : i ∈ instructions text) (hcopies : CopiesFromContext i)
    (hoperands : 2 ≤ (operands i).length) (subject : Subject) :
    ∃ first rest, sources i = first :: rest ∧
      (Text.beginsWith first "/" = true → ReportsCopy text subject i.line) ∧
      ((Text.lines text).length < UInt32.size →
        (ReportsCopy text subject i.line ↔ Text.beginsWith first "/" = true) ∧
        ((∃ source ∈ sources i, Text.beginsWith source "/" = true) ↔
          ReportsCopy text subject i.line ∨ ∃ source ∈ rest, Text.beginsWith source "/" = true)) := by
  -- with two operands or more the first is not the destination
  obtain ⟨first, second, rest, hsplit⟩ : ∃ first second rest, operands i = first :: second :: rest := by
    rcases hlist : operands i with _ | ⟨first, _ | ⟨second, rest⟩⟩
    · simp [hlist] at hoperands
    · simp [hlist] at hoperands
    · exact ⟨first, second, rest, rfl⟩
  have hsources : sources i = first :: (second :: rest).dropLast := by
    rw [sources, hsplit, List.dropLast_cons_cons]
  have hfound : checkCopy subject i ≠ [] ↔ Text.beginsWith first "/" = true := by
    rw [checkCopy_of_copiesFromContext hcopies hsplit]
    split
    · rename_i habsolute
      exact iff_of_true (List.cons_ne_nil _ _) habsolute
    · rename_i hrelative
      exact iff_of_false (fun h => h rfl) hrelative
  refine ⟨first, _, hsources, fun h => reportsCopy_of_ne_nil hi (hfound.2 h), fun hfew => ?_⟩
  have hreports : ReportsCopy text subject i.line ↔ Text.beginsWith first "/" = true :=
    (reportsCopy_iff hfew hi).trans hfound
  refine ⟨hreports, ?_⟩
  rw [hreports, hsources, List.exists_mem_cons_iff]

/-- A copy over two lines, with an option and an absolute destination: it is
reported for the first of its two sources. -/
theorem copy_reported_iff_first_twoSources :
    let text := "FROM a\nadd --chown=b /etc/c \\\n d /e\n"
    let i : Instruction := ⟨2, "add --chown=b /etc/c d /e"⟩
    let subject : Subject := { artifact := "Dockerfile" }
    i ∈ instructions text ∧ CopiesFromContext i ∧ operands i = ["/etc/c", "d", "/e"] ∧
    ReportsCopy text subject i.line := by
  intro text i subject
  have hi : i ∈ instructions text := by decide
  have hcopies : CopiesFromContext i := by decide
  have hoperands : operands i = ["/etc/c", "d", "/e"] := by decide
  obtain ⟨first, rest, hsources, -, hiff⟩ :=
    copy_reported_iff_first hi hcopies (hoperands ▸ by decide) subject
  rw [sources, hoperands] at hsources
  obtain ⟨rfl, -⟩ := List.cons.inj hsources
  exact ⟨hi, hcopies, hoperands, (hiff (by decide)).1.2 (by decide)⟩

/-- **An absolute source behind a relative one goes unseen**, so it is not
so that a copy is reported where any of its sources is absolute. -/
theorem not_copy_reported_iff_any :
    ¬ ∀ (text : String) (subject : Subject), ∀ i ∈ instructions text, CopiesFromContext i →
      2 ≤ (operands i).length →
      (ReportsCopy text subject i.line ↔ ∃ source ∈ sources i, Text.beginsWith source "/" = true) := by
  intro h
  have hiff := h "FROM a\nCOPY a /b c\n" { artifact := "Dockerfile" } ⟨2, "COPY a /b c"⟩
    (by decide) (by decide) (by decide)
  exact absurd hiff (by decide)

end Dockerfile

end DeployLint
