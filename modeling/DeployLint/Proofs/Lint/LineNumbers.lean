import DeployLint.Proofs.Dockerfile.Lines
import DeployLint.Proofs.Lint.Catalogue
import DeployLint.Proofs.Secret.Scan

/-!
# Linting — the lines that findings are on

Where a finding carries the number of a line, the text that was linted has
that line, counted from one. A rule on build files never points at a blank
line or at a comment, and one on copies or on the tags of images points at
the line on which the instruction in question begins (`LineFits`). Each pass
goes through its text from the top, so its numbers never decrease
(`findings_fit_lines`). All this is so of texts of fewer lines than there are
numbers.
-/

namespace DeployLint

open Finding (All Ascends ReportsOn)

namespace Dockerfile

variable {text code : String} {subject : Subject} {i : Instruction} {f : Finding} {n : UInt32}

/-! ## Build files -/

/-- A line of a build file is one that a finding of some code can be on. -/
structure LineFits (text code : String) (n : UInt32) : Prop where
  within : 1 ≤ n.toNat ∧ n.toNat ≤ (Text.lines text).length
  /-- The rules on build files point at lines that count. -/
  counts : Text.beginsWith code "DF" = true →
    ∃ line, (Text.lines text)[n.toNat - 1]? = some line ∧
      Text.trim line ≠ "" ∧ Text.beginsWith (Text.trim line) "#" = false
  copies : code = Rule.absoluteCopySource.code →
    ∃ i, BeginsOn text n i ∧ (i.is "COPY" = true ∨ i.is "ADD" = true)
  /-- The rules on tags point at where images are named. -/
  starts : Text.beginsWith code "DF2" = true → ∃ i, BeginsOn text n i ∧ i.is "FROM" = true

section FewLines

variable (hfew : (Text.lines text).length < UInt32.size)

include hfew

/-- A line that counts can have the findings of all rules but those on copies and tags. -/
theorem lineFits_of_mem_physicalLines (hi : i ∈ physicalLines text)
    (hcopies : code = Rule.absoluteCopySource.code →
      ∃ j, BeginsOn text i.line j ∧ (j.is "COPY" = true ∨ j.is "ADD" = true))
    (hstarts : Text.beginsWith code "DF2" = true →
      ∃ j, BeginsOn text i.line j ∧ j.is "FROM" = true) :
    LineFits text code i.line := by
  obtain ⟨line, hline, htrim, hcounts⟩ := exists_line_of_mem_physicalLines hi
  rw [← htrim, Instruction.counts_iff] at hcounts
  exact
    { within := Text.number_of_mem_numberedLines hfew hline
      counts := fun _ => ⟨line, (Text.line_of_mem_numberedLines hfew hline).2, hcounts⟩
      copies := hcopies
      starts := hstarts }

/-- The line that an instruction begins on can have the findings that its
keyword allows. -/
theorem lineFits_of_mem_instructions (hi : i ∈ instructions text)
    (hcopies : code = Rule.absoluteCopySource.code → i.is "COPY" = true ∨ i.is "ADD" = true)
    (hstarts : Text.beginsWith code "DF2" = true → i.is "FROM" = true) :
    LineFits text code i.line := by
  have hbegins : BeginsOn text i.line i := beginsOn_line hi
  obtain ⟨first, hfirst, hnumber⟩ := hbegins.exists_physicalLine
  rw [← hnumber] at hbegins ⊢
  exact lineFits_of_mem_physicalLines hfew hfirst (fun h => ⟨i, hbegins, hcopies h⟩)
    fun h => ⟨i, hbegins, hstarts h⟩

theorem lineFits_checkLines (hf : f ∈ checkLines text subject) (hn : n ∈ f.line) :
    LineFits text f.code n := by
  obtain ⟨hcopies, hstarts⟩ : f.code ≠ Rule.absoluteCopySource.code ∧
      Text.beginsWith f.code "DF2" = false :=
    (ofRules_checkLines text subject f hf).of_code
      (P := fun code => code ≠ Rule.absoluteCopySource.code ∧ Text.beginsWith code "DF2" = false)
      (by decide)
  obtain ⟨i, hi, rfl⟩ := exists_physicalLine_of_mem_checkLines hf hn
  exact lineFits_of_mem_physicalLines hfew hi (fun h => absurd h hcopies)
    fun h => absurd h (Bool.eq_false_iff.1 hstarts)

theorem lineFits_checkPractices (hf : f ∈ checkPractices text subject) (hn : n ∈ f.line) :
    LineFits text f.code n := by
  obtain ⟨i, hi, hmem⟩ := exists_copy_of_mem_checkPractices hf hn
  obtain ⟨hline, hcode⟩ := line_of_mem_checkCopy hmem
  obtain rfl : i.line = n := Option.some.inj (hline.symm.trans hn)
  rw [hcode]
  exact lineFits_of_mem_instructions hfew hi (fun _ => is_of_mem_checkCopy hmem)
    fun h => absurd h (by decide)

theorem lineFits_checkTags (hf : f ∈ checkTags text subject) (hn : n ∈ f.line) :
    LineFits text f.code n := by
  obtain ⟨i, hi, hfrom, hline⟩ := exists_start_of_mem_checkTags hf
  obtain rfl : i.line = n := Option.some.inj (hline.symm.trans hn)
  have hother : f.code ≠ Rule.absoluteCopySource.code :=
    (ofRules_checkTags text subject f hf).code_ne (by decide)
  exact lineFits_of_mem_instructions hfew hi (fun h => absurd h hother) fun _ => hfrom

theorem lineFits_scan {tables : SecurityTables} (hf : f ∈ Secret.scan tables text subject)
    (hn : n ∈ f.line) : LineFits text f.code n := by
  have hother : f.code ≠ Rule.absoluteCopySource.code ∧ Text.beginsWith f.code "DF" = false ∧
      Text.beginsWith f.code "DF2" = false :=
    (Secret.ofRules_scan tables text subject f hf).of_code
      (P := fun code => code ≠ Rule.absoluteCopySource.code ∧ Text.beginsWith code "DF" = false ∧
        Text.beginsWith code "DF2" = false) (by decide)
  obtain ⟨m, hm, hwithin⟩ := Secret.exists_line_of_mem_scan hfew hf
  obtain rfl : m = n := Option.some.inj (hm.symm.trans hn)
  exact
    { within := hwithin
      counts := fun h => absurd h (Bool.eq_false_iff.1 hother.2.1)
      copies := fun h => absurd h hother.1
      starts := fun h => absurd h (Bool.eq_false_iff.1 hother.2.2) }

end FewLines

end Dockerfile

namespace Lint

open Dockerfile (BeginsOn LineFits lineFits_checkLines lineFits_checkPractices lineFits_checkTags
  lineFits_scan)

variable {text artifact : String} {c : Config} {f : Finding} {n : UInt32} {fs : List Finding}

theorem lineFits_dockerfile (hfew : (Text.lines text).length < UInt32.size)
    (hf : f ∈ (dockerfile text artifact c).findings) (hn : n ∈ f.line) :
    LineFits text f.code n := by
  rw [dockerfile, Report.findings_ofFindings] at hf
  -- a configuration changes neither the code nor the line
  obtain ⟨g, hg, -, rfl⟩ := Config.mem_apply_iff.1 hf
  have hfits : LineFits text g.code n := by
    rcases List.mem_append.1 hg with hg | hsecret
    · rcases List.mem_append.1 hg with hg | htag
      · rcases List.mem_append.1 hg with hline | hpractice
        · exact lineFits_checkLines hfew hline hn
        · exact lineFits_checkPractices hfew hpractice hn
      · exact lineFits_checkTags hfew htag hn
    · exact lineFits_scan hfew hsecret hn
  exact hfits

/-! ## Secrets -/

/-- A finding says on which line of a text a secret is. -/
def OnLineOf (text : String) (f : Finding) : Prop :=
  ∃ n, f.line = some n ∧ 1 ≤ n.toNat ∧ n.toNat ≤ (Text.lines text).length

theorem onLineOf_manifestFindings (hfew : (Text.lines text).length < UInt32.size)
    (h : manifestFindings text artifact c = .ok fs) (hf : f ∈ fs)
    (hsecret : f.code = Rule.potentialSecret.code) : OnLineOf text f := by
  obtain ⟨ds, -, rfl⟩ := map_eq_ok_iff.1 h
  rcases List.mem_append.1 hf with hdocument | hscan
  · obtain ⟨r, -, hmem⟩ := List.mem_flatMap.1 hdocument
    exact absurd hsecret ((Resource.ownsAll_resource c r).ofRules f hmem |>.code_ne (by decide))
  · exact Secret.exists_line_of_mem_scan hfew hscan

theorem onLineOf_values (hfew : (Text.lines text).length < UInt32.size)
    (h : values text artifact c = .ok fs) (hf : f ∈ fs)
    (hsecret : f.code = Rule.potentialSecret.code) : OnLineOf text f := by
  rw [values] at h
  obtain ⟨d, -, hfs⟩ := bind_eq_ok_iff.1 h
  obtain rfl := Except.ok.inj hfs
  rcases List.mem_append.1 hf with hf | hscan
  · rcases List.mem_append.1 hf with hlimits | hquantity
    · exact absurd hsecret ((Chart.ofRules_checkValues d _ f hlimits).code_ne (by decide))
    · have howned := Resource.ownsAll_checkQuantities ⟨d, { artifact := artifact }⟩ d c.quota.depth
      exact absurd hsecret ((howned.ofRules f hquantity).code_ne (by decide))
  · exact Secret.exists_line_of_mem_scan hfew hscan

theorem onLineOf_chartFindings {descriptor directory : String} {valuesText : Option String}
    (hfew : ∀ text ∈ valuesText, (Text.lines text).length < UInt32.size)
    (h : chartFindings descriptor valuesText directory c = .ok fs) (hf : f ∈ fs)
    (hsecret : f.code = Rule.potentialSecret.code) : ∃ text ∈ valuesText, OnLineOf text f := by
  rw [chartFindings] at h
  obtain ⟨d, -, hd⟩ := bind_eq_ok_iff.1 h
  obtain ⟨onValues, hvalues, rfl⟩ := map_eq_ok_iff.1 hd
  rcases List.mem_append.1 hf with hf | hvalue
  · rcases List.mem_append.1 hf with hcheck | hname
    · exact absurd hsecret ((Chart.ofRules_check _ f hcheck).code_ne (by decide))
    · exact absurd hsecret ((Chart.ofRules_checkName _ _ f hname).code_ne (by decide))
  · cases valuesText with
    | none =>
      obtain rfl := Except.ok.inj hvalues
      exact absurd hvalue List.not_mem_nil
    | some text => exact ⟨text, rfl, onLineOf_values (hfew text rfl) hvalues hvalue hsecret⟩

/-! ## The result -/

/-- What is so of all that the rules find, whatever its severity, is so of
all that a run reports. -/
theorem ConfiguredLast.all_findings {raw : Config → Except LintError (List Finding)}
    {run : Config → Except LintError Report} {P : Finding → Prop}
    (h : ConfiguredLast (fun c => (raw c).map (·, none)) run)
    (hraw : ∀ fs, raw c = .ok fs → All P fs) (hsettle : ∀ f, P f → P (c.settle f)) {r : Report}
    (hr : run c = .ok r) : All P r.findings := by
  obtain ⟨x, hx, hfindings⟩ := h.exists_raw hr
  obtain ⟨fs, hfs, rfl⟩ := map_eq_ok_iff.1 hx
  intro f hf
  rw [hfindings] at hf
  obtain ⟨g, hg, -, rfl⟩ := Config.mem_apply_iff.1 hf
  exact hsettle g (hraw fs hfs g hg)

/-- **Findings are on lines that there are**, in texts of fewer lines than there
are numbers. A line that a finding on a build file carries fits the rule that
it is of; a secret in a manifest, or in the values of a chart, is on a line of
that text; and along what any one pass finds in a text the lines never decrease. -/
theorem findings_fit_lines (c : Config) :
    (∀ text artifact, (Text.lines text).length < UInt32.size →
      ∀ f ∈ (dockerfile text artifact c).findings, ∀ n ∈ f.line, LineFits text f.code n) ∧
    (∀ text artifact r, (Text.lines text).length < UInt32.size → manifests text artifact c = .ok r →
      ∀ f ∈ r.findings, f.code = Rule.potentialSecret.code → OnLineOf text f) ∧
    (∀ descriptor valuesText directory r,
      (∀ text ∈ valuesText, (Text.lines text).length < UInt32.size) →
      chart descriptor valuesText directory c = .ok r →
      ∀ f ∈ r.findings, f.code = Rule.potentialSecret.code → ∃ text ∈ valuesText, OnLineOf text f) ∧
    ∀ text subject, (Text.lines text).length < UInt32.size →
      Ascends Finding.line (Dockerfile.checkLines text subject) ∧
      Ascends Finding.line ((Dockerfile.checkPractices text subject).filter
        fun f => f.code = Rule.absoluteCopySource.code) ∧
      Ascends Finding.line (Dockerfile.checkTags text subject) ∧
      Ascends Finding.line (Secret.scan c.security text subject) := by
  refine ⟨fun _ _ hfew _ hf _ hn => lineFits_dockerfile hfew hf hn, ?manifests, ?chart, ?passes⟩
  case manifests =>
    intro text artifact r hfew hr
    exact (configuredLast_manifests text artifact).all_findings
      (fun fs hfs f hf => onLineOf_manifestFindings hfew hfs hf) (fun _ h => h) hr
  case chart =>
    intro descriptor valuesText directory r hfew hr
    exact (configuredLast_chart descriptor valuesText directory).all_findings
      (fun fs hfs f hf => onLineOf_chartFindings hfew hfs hf) (fun _ h => h) hr
  case passes =>
    intro text subject hfew
    exact ⟨Dockerfile.ascends_checkLines hfew subject, Dockerfile.ascends_copies hfew subject,
      Dockerfile.ascends_checkTags hfew subject, Secret.ascends_scan hfew c.security subject⟩

/-- A copy over two lines behind a comment and a blank line, and a secret
behind a blank line of a manifest. -/
theorem findings_fit_lines_twoLines :
    let text := "# base\nFROM a:latest\n\nCOPY \\\n  /b c\n"
    let found := (dockerfile text "Dockerfile" {}).findings
    let secrets := "a: b\n\npassword: x\n"
    (ReportsOn found .absoluteCopySource 4 ∧
      ∃ i, BeginsOn text 4 i ∧ (i.is "COPY" = true ∨ i.is "ADD" = true)) ∧
    (ReportsOn found .latestTag 2 ∧ ∃ i, BeginsOn text 2 i ∧ i.is "FROM" = true) ∧
    ∃ r, manifests secrets "m.yaml" {} = .ok r ∧ ReportsOn r.findings .potentialSecret 3 ∧
      3 ≤ (Text.lines secrets).length := by
  intro text found secrets
  obtain ⟨hfits, hsecrets, -, -⟩ := findings_fit_lines {}
  have hcopy : ReportsOn found .absoluteCopySource 4 := by decide +kernel
  have htag : ReportsOn found .latestTag 2 := by decide +kernel
  have hread : (manifests secrets "m.yaml" {}).toOption.any (fun r =>
      ReportsOn r.findings .potentialSecret 3) = true := by decide +kernel
  obtain ⟨f, hf, hcode, hline⟩ := hcopy
  obtain ⟨g, hg, hlatest, hstart⟩ := htag
  obtain ⟨r, hr, hreports⟩ := exists_ok_of_any hread
  obtain ⟨s, hs, hsecret, hplace⟩ := of_decide_eq_true hreports
  have hdf2 : Text.beginsWith g.code "DF2" = true := by rw [hlatest]; decide
  have hfew : (Text.lines text).length < UInt32.size := by decide
  refine ⟨⟨⟨f, hf, hcode, hline⟩, (hfits text _ hfew f hf 4 hline).copies hcode⟩,
    ⟨⟨g, hg, hlatest, hstart⟩, (hfits text _ hfew g hg 2 hstart).starts hdf2⟩,
    r, hr, of_decide_eq_true hreports, ?_⟩
  obtain ⟨n, hn, -, hle⟩ := hsecrets secrets "m.yaml" r (by decide) hr s hs hsecret
  rwa [← Option.some.inj (hplace.symm.trans hn)] at hle

end Lint

end DeployLint
