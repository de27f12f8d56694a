import DeployLint.Proofs.Document.Reading
import DeployLint.Proofs.Lint.Documents
import DeployLint.Proofs.Resource.OneLine
import DeployLint.Proofs.Secret.Scan
import DeployLint.Report.Format

/-!
# Linting — the lines of a report

A report as text is its findings one below the other, and a summary. What a
finding shows is not escaped: cut at its line feeds, the report gives the
lines of each finding in turn (`Report.fields_text`). So there is one line for
each finding exactly where each stays on one, and those that do not are of the
rules that quote a document, on a document with a text on several lines
(`textReport_lines`). Such a text can end in a line that reads like a finding
of its own (`textReport_forged`).
-/

namespace DeployLint

open Finding (All)

/-! ## Reports -/

namespace Report

theorem oneLine_summaryLine (r : Report) : Text.OneLine r.summaryLine := by
  simp +decide [summaryLine]

/-- **A report as text is cut into the lines of its parts**, in their order. -/
theorem fields_text (r : Report) :
    Text.fields '\n' r.text = r.textLines.flatMap (Text.fields '\n') := by
  refine Text.fields_intercalate_newline fun hnil => ?_
  exact List.append_ne_nil_of_right_ne_nil _ (List.cons_ne_nil r.summaryLine []) hnil

/-- Without totals these are the lines of the findings, and the summary. -/
theorem fields_format_text {r : Report} (h : r.totals = none) :
    Text.fields '\n' (r.format .text) =
      (r.findings.map Finding.text).flatMap (Text.fields '\n') ++ [r.summaryLine] := by
  have hsummary : Text.fields '\n' r.summaryLine = [r.summaryLine] :=
    Text.fields_newline_of_oneLine r.oneLine_summaryLine
  rw [format, fields_text, textLines, h, Option.map_none, Option.toList_none, List.append_nil,
    List.flatMap_append, List.flatMap_singleton, hsummary]

end Report

/-! ## Findings of a manifest -/

/-- What is found of secrets stays on one line: a pattern is a part of a line. -/
theorem Secret.onOneLine_scan (tables : SecurityTables) (text : String) (subject : Subject) :
    All Finding.OnOneLine (scan tables text subject) := by
  refine All.flatMap fun x hx => ?_
  have hline : Text.OneLine x.1 := Text.oneLine_of_mem_lines (List.fst_mem_of_mem_zipIdx hx)
  have htrim : Text.OneLine (Text.trim x.1) := Text.oneLine_trim hline
  refine All.map fun pattern hpattern => ⟨Rule.oneLine_code _, fun _ hpath => (nomatch hpath), ?_⟩
  rw [Scanner.patternsOn_eq] at hpattern
  split at hpattern
  · exact absurd hpattern List.not_mem_nil
  · obtain ⟨-, hstands⟩ := List.mem_filter.1 hpattern
    have hword : Text.OneLine pattern :=
      Text.oneLine_of_standsIn (of_decide_eq_true hstands).2 hline
    simp +decide [Finding.onLine, Finding.graded, hword, htrim]

namespace Lint

variable {text artifact : String} {ds : List Document} {c : Config}

/-- A manifest that is read has a report: on its documents and its secrets, without totals. -/
theorem exists_manifests (hds : Document.parseStream text = .ok ds) (artifact : String)
    (c : Config) :
    ∃ r, manifests text artifact c = .ok r ∧
      r.findings = (documents ds artifact c).findings ++
        c.apply (Secret.scan c.security text { artifact := artifact }) ∧
      r.totals = none := by
  refine ⟨_, bind_eq_ok_iff.2 ⟨ds, hds, rfl⟩, Report.findings_extend _ _, ?_⟩
  rw [Report.totals_extend, documents, Report.totals_ofFindings]

/-- The severity that a configuration gives a finding does not end its line. -/
theorem onOneLine_settle {f : Finding} (h : f.OnOneLine) : (c.settle f).OnOneLine :=
  ⟨h.code, h.path, h.message⟩

theorem oneLine_of_mem_apply_scan (hartifact : Text.OneLine artifact) {f : Finding}
    (hf : f ∈ c.apply (Secret.scan c.security text { artifact := artifact })) :
    Text.OneLine f.text := by
  have hsubject : Text.OneLine f.subject.text := by
    rw [subject_of_mem_apply_scan hf]
    exact Subject.oneLine_text hartifact
  obtain ⟨g, hg, -, rfl⟩ := Config.mem_apply_iff.1 hf
  exact (Finding.oneLine_text_iff hsubject).2
    (onOneLine_settle (Secret.onOneLine_scan _ _ _ g hg))

/-- What is found on a document is on one line, or it quotes a document that is not. -/
theorem oneLine_of_mem_documentFindings (hartifact : Text.OneLine artifact) {i : Nat}
    {d : Document} (hd : d.Ordered) {f : Finding} (hf : f ∈ documentFindings artifact c i d) :
    Text.OneLine f.text ∨
      (∃ rule ∈ Resource.quotingRules, f.code = rule.code) ∧ ¬ d.OneLine := by
  have hsubject : Text.OneLine f.subject.text := by
    rw [(subject_of_mem_documentFindings hf).2]
    exact Subject.oneLine_text hartifact
  rw [documentFindings] at hf
  split at hf
  · exact absurd hf List.not_mem_nil
  · obtain ⟨g, hg, -, rfl⟩ := Config.mem_apply_iff.1 hf
    rcases Resource.ownLine_resource c hd g hg with hown | hquotes
    · exact .inl ((Finding.oneLine_text_iff hsubject).2 (onOneLine_settle hown))
    · exact .inr hquotes

/-- **Line feeds come into a report from the documents it quotes.** A finding
on several lines is of a rule that quotes, on a document that says a text on
several lines. -/
theorem quotes_of_not_oneLine (hartifact : Text.OneLine artifact)
    (hds : Document.parseStream text = .ok ds) {f : Finding}
    (hf : f ∈ (documents ds artifact c).findings ++
      c.apply (Secret.scan c.security text { artifact := artifact }))
    (hline : ¬ Text.OneLine f.text) :
    (∃ rule ∈ Resource.quotingRules, f.code = rule.code) ∧
      ∃ i d s, f.subject.document = some i ∧ ds[i]? = some d ∧ d.Says s ∧ ¬ Text.OneLine s := by
  rcases List.mem_append.1 hf with hdocument | hsecret
  · rw [findings_documents] at hdocument
    obtain ⟨x, hx, hmem⟩ := List.mem_flatMap.1 hdocument
    have hordered : x.1.Ordered :=
      Document.ordered_of_mem_parseStream hds x.1 (List.fst_mem_of_mem_zipIdx hx)
    have hindex := congrArg Subject.document (subject_of_mem_documentFindings hmem).2
    obtain ⟨hrule, hquoted⟩ :=
      (oneLine_of_mem_documentFindings hartifact hordered hmem).resolve_left hline
    obtain ⟨s, hsays, hs⟩ := Document.exists_of_not_oneLine hquoted
    exact ⟨hrule, x.2, x.1, s, hindex, List.mem_zipIdx_iff_getElem?.1 hx, hsays, hs⟩
  · exact absurd (oneLine_of_mem_apply_scan hartifact hsecret) hline

/-- **The lines of a report on a manifest.** Any manifest that is read has a
report; cut at its line feeds, the report as text gives the lines of each
finding in turn and then the summary, so it has one line for each, one more,
and one for every line feed in a finding. It gives each finding on a line
exactly where each is on one. One that is not is of a rule that quotes its
document, and that document says a text with a line feed; so a manifest whose
documents say none has one line for each finding. -/
theorem textReport_lines (hartifact : Text.OneLine artifact)
    (hds : Document.parseStream text = .ok ds) (c : Config) :
    ∃ r, manifests text artifact c = .ok r ∧
      Text.fields '\n' (r.format .text) =
        (r.findings.map Finding.text).flatMap (Text.fields '\n') ++ [r.summaryLine] ∧
      (Text.fields '\n' (r.format .text)).length =
        r.findings.length + 1 + ((r.findings.map Finding.text).flatMap String.toList).count '\n' ∧
      (Text.fields '\n' (r.format .text) = r.findings.map Finding.text ++ [r.summaryLine] ↔
        ∀ f ∈ r.findings, Text.OneLine f.text) ∧
      (∀ f ∈ r.findings, ¬ Text.OneLine f.text →
        (∃ rule ∈ Resource.quotingRules, f.code = rule.code) ∧
          ∃ i d s, f.subject.document = some i ∧ ds[i]? = some d ∧ d.Says s ∧
            ¬ Text.OneLine s) ∧
      ((∀ d ∈ ds, d.OneLine) →
        Text.fields '\n' (r.format .text) = r.findings.map Finding.text ++ [r.summaryLine]) := by
  obtain ⟨r, hr, hfindings, htotals⟩ := exists_manifests hds artifact c
  have hlines := Report.fields_format_text htotals
  have hquotes : ∀ f ∈ r.findings, ¬ Text.OneLine f.text → _ := fun f hf =>
    quotes_of_not_oneLine hartifact hds (hfindings ▸ hf)
  have hiff : Text.fields '\n' (r.format .text) = r.findings.map Finding.text ++ [r.summaryLine] ↔
      ∀ f ∈ r.findings, Text.OneLine f.text := by
    rw [hlines, List.append_cancel_right_eq, Text.flatMap_fields_eq_iff, List.forall_mem_map]
  refine ⟨r, hr, hlines, ?_, hiff, hquotes, fun hdocuments => hiff.2 fun f hf => ?_⟩
  · rw [hlines, List.length_append, Text.length_flatMap_fields, List.length_map,
      List.length_singleton]
    omega
  · by_contra hline
    obtain ⟨-, i, d, s, -, hd, hsays, hs⟩ := hquotes f hf hline
    exact hs (hdocuments d (List.mem_of_getElem? hd) s hsays)

/-- A manifest whose name goes on behind a line feed, as a finding would. -/
def forging : String :=
  "apiVersion: v1\nkind: ConfigMap\nmetadata:\n  name: \"web\\nin: error SC1001 forged\"\n"

/-- What its report says of the name. -/
def forged : String :=
  "in#0:metadata.name: error KM1003 Resource name contains invalid characters: web\n" ++
    "in: error SC1001 forged"

theorem report_forging :
    ∃ r, manifests forging "in" {} = .ok r ∧ r.findings.map Finding.text = [forged] ∧
      r.summaryLine = "1 errors, 0 warnings, 0 info" := by
  have hreport : (manifests forging "in" {}).toOption.any (fun r =>
      r.findings.map Finding.text == [forged] &&
        r.summaryLine == "1 errors, 0 warnings, 0 info") = true := by decide +kernel
  obtain ⟨r, hr, htexts⟩ := exists_ok_of_any hreport
  rw [Bool.and_eq_true, beq_iff_eq, beq_iff_eq] at htexts
  exact ⟨r, hr, htexts⟩

/-- Its one finding takes two lines, and the name that it quotes is a text on several. -/
theorem textReport_lines_forging :
    ∃ ds r, Document.parseStream forging = .ok ds ∧ manifests forging "in" {} = .ok r ∧
      (Text.fields '\n' (r.format .text)).length = r.findings.length + 2 ∧
      ∃ d ∈ ds, ∃ s, d.Says s ∧ ¬ Text.OneLine s := by
  obtain ⟨r, hr, htexts, -⟩ := report_forging
  obtain ⟨ds, hds, -⟩ := bind_eq_ok_iff.1 hr
  obtain ⟨r', hr', -, hlength, -, hquotes, -⟩ :=
    textReport_lines (show Text.OneLine "in" by decide) hds {}
  obtain rfl := Except.ok.inj (hr.symm.trans hr')
  have hcount : ([forged].flatMap String.toList).count '\n' = 1 := by decide +kernel
  rw [htexts, hcount] at hlength
  refine ⟨ds, r, hds, hr, hlength, ?_⟩
  -- the finding is not on one line, so its document says a text that is not
  have hmem : forged ∈ r.findings.map Finding.text := htexts ▸ List.mem_singleton_self forged
  obtain ⟨f, hf, htext⟩ := List.mem_map.1 hmem
  have hline : ¬ Text.OneLine forged := by decide +kernel
  obtain ⟨-, i, d, s, -, hd, hsays, hs⟩ := hquotes f hf (htext ▸ hline)
  exact ⟨d, List.mem_of_getElem? hd, s, hsays, hs⟩

/-- **A name can forge a line.** The report on one finding has three lines, of
which the second reads like a finding on secrets. -/
theorem textReport_forged :
    ∃ r, manifests forging "in" {} = .ok r ∧ r.findings.length = 1 ∧
      Text.fields '\n' (r.format .text) =
        ["in#0:metadata.name: error KM1003 Resource name contains invalid characters: web",
          "in: error SC1001 forged", "1 errors, 0 warnings, 0 info"] := by
  obtain ⟨r, hr, htexts, hsummary⟩ := report_forging
  obtain ⟨ds, hds, -⟩ := bind_eq_ok_iff.1 hr
  obtain ⟨r', hr', -, htotals⟩ := exists_manifests hds "in" {}
  obtain rfl := Except.ok.inj (hr.symm.trans hr')
  have hone : r.findings.length = 1 := by
    rw [← List.length_map Finding.text, htexts]
    rfl
  refine ⟨r, hr, hone, ?_⟩
  rw [Report.fields_format_text htotals, htexts, hsummary]
  decide +kernel

end Lint

end DeployLint
