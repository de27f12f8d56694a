import DeployLint.Proofs.Lint.Catalogue

/-!
# Linting — the two files of a chart

A chart is a descriptor and, if it has any, values. What is found on the
descriptor does not depend on the values and comes first; what is found on the
values follows, each under the name of its own file. So a report can be taken
apart into its files and put together again (`chart_follows_files`), and of
two files that cannot be read the descriptor's fault is the one told.
-/

namespace DeployLint

open Finding (All OfRules)

/-! ## Findings on one artifact -/

namespace Finding

variable {rules : List Rule} {subject : Subject} {fs : List Finding}

/-- A finding is on an artifact. -/
def IsOn (artifact : String) (f : Finding) : Prop := f.subject.artifact = artifact

/-- Findings of rules are on the artifact of their subject. -/
theorem All.isOn (hfs : All (OfRules rules subject) fs) : All (IsOn subject.artifact) fs := by
  intro f hf
  obtain ⟨-, -, -, -, hsubject⟩ := hfs f hf
  rw [IsOn, hsubject]

end Finding

open Finding (IsOn)

/-- A configuration moves no finding to another artifact. -/
theorem Config.isOn_apply {artifact : String} {fs : List Finding} (h : All (IsOn artifact) fs)
    (c : Config) : All (IsOn artifact) (c.apply fs) := by
  intro f hf
  obtain ⟨g, hg, -, rfl⟩ := mem_apply_iff.1 hf
  exact h g hg

/-- Of findings on one artifact followed by those on another, each artifact
has its own. -/
theorem Report.forArtifact_eq {r : Report} {artifact other : String} {fs gs : List Finding}
    (hr : r.findings = fs ++ gs) (hfs : All (IsOn artifact) fs) (hgs : All (IsOn other) gs)
    (hne : artifact ≠ other) : r.forArtifact artifact = fs ∧ r.forArtifact other = gs := by
  have hkept : ∀ {name : String} {hs : List Finding}, All (IsOn name) hs →
      hs.filter (fun f => f.subject.artifact == name) = hs := by
    intro name hs hall
    exact List.filter_eq_self.2 fun f hf => beq_iff_eq.2 (hall f hf)
  have hdropped : ∀ {name away : String} {hs : List Finding}, All (IsOn name) hs → name ≠ away →
      hs.filter (fun f => f.subject.artifact == away) = [] := by
    intro name away hs hall haway
    refine List.filter_eq_nil_iff.2 fun f hf => ?_
    rw [beq_iff_eq]
    exact fun heq => haway ((hall f hf).symm.trans heq)
  rw [forArtifact, forArtifact, hr, List.filter_append, List.filter_append, hkept hfs, hkept hgs,
    hdropped hgs hne.symm, hdropped hfs hne, List.append_nil, List.nil_append]
  exact ⟨rfl, rfl⟩

namespace Lint

variable {descriptor text directory : String} {c : Config}

/-! ## What is found on each file -/

/-- What is found on a descriptor, as the configuration has it. -/
def onDescriptor (d : Document) (directory : String) (c : Config) : List Finding :=
  let described : Chart := ⟨d, { artifact := directory ++ "/Chart.yaml" }⟩
  c.apply (described.check ++ described.checkName directory)

theorem isOn_onDescriptor (d : Document) (directory : String) (c : Config) :
    All (IsOn (directory ++ "/Chart.yaml")) (onDescriptor d directory c) := by
  refine Config.isOn_apply (All.append ?check ?name) c
  case check => exact (Chart.ofRules_check _).isOn
  case name => exact (Chart.ofRules_checkName _ _).isOn

theorem isOn_values {artifact : String} {fs : List Finding}
    (h : values text artifact c = .ok fs) : All (IsOn artifact) fs := by
  rw [values] at h
  obtain ⟨v, -, hfs⟩ := bind_eq_ok_iff.1 h
  obtain rfl := Except.ok.inj hfs
  refine All.append (All.append ?limits ?quantities) ?secrets
  case limits => exact (Chart.ofRules_checkValues v _).isOn
  case quantities =>
    have howned := Resource.ownsAll_checkQuantities ⟨v, { artifact := artifact }⟩ v c.quota.depth
    exact howned.ofRules.isOn
  case secrets => exact (Secret.ofRules_scan _ _ _).isOn

/-! ## The two runs -/

/-- Without values a chart is its descriptor. -/
theorem chart_none (descriptor directory : String) (c : Config) :
    chart descriptor none directory c =
      (Document.parse descriptor).map fun d => .ofFindings (onDescriptor d directory c) := by
  rw [chart]
  cases Document.parse descriptor with
  | error e => rfl
  | ok d =>
    refine congrArg (fun fs => Except.ok (Report.ofFindings (c.apply fs))) ?_
    exact List.append_nil _

/-- With values it is its descriptor followed by these. -/
theorem chart_some (descriptor text directory : String) (c : Config) :
    chart descriptor (some text) directory c =
      Document.parse descriptor >>= fun d =>
        (values text (directory ++ "/values.yaml") c).map fun fs =>
          .ofFindings (onDescriptor d directory c ++ c.apply fs) := by
  rw [chart]
  cases Document.parse descriptor with
  | error e => rfl
  | ok d =>
    cases hvalues : values text (directory ++ "/values.yaml") c with
    | error e => simp only [hvalues]; rfl
    | ok fs =>
      simp only [hvalues]
      exact congrArg (fun fs => Except.ok (Report.ofFindings fs)) (c.apply_append _ fs)

/-- Values fail to be looked at where they cannot be read. -/
theorem values_eq_error_iff {artifact : String} {e : LintError} :
    values text artifact c = .error e ↔ Document.parse text = .error e := by
  rw [values, bind_eq_error_iff]
  refine or_iff_left ?_
  rintro ⟨v, -, h⟩
  cases h

/-- **A chart that cannot be read has the fault of the first file that
cannot**, and no other. -/
theorem chart_eq_error_iff {e : LintError} :
    chart descriptor (some text) directory c = .error e ↔
      Document.parse descriptor = .error e ∨
        (∃ d, Document.parse descriptor = .ok d) ∧ Document.parse text = .error e := by
  rw [chart_some, bind_eq_error_iff]
  simp only [map_eq_error_iff, values_eq_error_iff, exists_and_right]

/-! ## The result -/

/-- **A report on a chart follows its files.** Wherever a chart with values is
reported on, so is the chart without, and that report is what comes first: all
that is under the descriptor's name, and nothing else. What follows is all
that is under the name of the values. Where there is no report, the fault is
that of the descriptor, or that of the values if the descriptor can be read. -/
theorem chart_follows_files (descriptor text directory : String) (c : Config) :
    (∀ r, chart descriptor (some text) directory c = .ok r →
      ∃ r₀ rest, chart descriptor none directory c = .ok r₀ ∧ r.findings = r₀.findings ++ rest ∧
        (∀ f ∈ r₀.findings, f.subject.artifact = directory ++ "/Chart.yaml") ∧
        (∀ f ∈ rest, f.subject.artifact = directory ++ "/values.yaml") ∧
        r.forArtifact (directory ++ "/Chart.yaml") = r₀.findings ∧
        r.forArtifact (directory ++ "/values.yaml") = rest ∧
        r.forArtifact (directory ++ "/Chart.yaml") ++ r.forArtifact (directory ++ "/values.yaml") =
          r.findings) ∧
    (∀ e, chart descriptor none directory c = .error e ↔ Document.parse descriptor = .error e) ∧
    (∀ e, chart descriptor (some text) directory c = .error e ↔
      Document.parse descriptor = .error e ∨
        (∃ d, Document.parse descriptor = .ok d) ∧ Document.parse text = .error e) := by
  refine ⟨fun r hr => ?_, fun e => ?_, fun e => chart_eq_error_iff⟩
  · rw [chart_some] at hr
    obtain ⟨d, hd, hreport⟩ := bind_eq_ok_iff.1 hr
    obtain ⟨fs, hvalues, rfl⟩ := map_eq_ok_iff.1 hreport
    have halone : chart descriptor none directory c =
        .ok (.ofFindings (onDescriptor d directory c)) := by
      rw [chart_none, hd]
      rfl
    have hfirst := isOn_onDescriptor d directory c
    have hrest := Config.isOn_apply (isOn_values hvalues) c
    have hfiles : directory ++ "/Chart.yaml" ≠ directory ++ "/values.yaml" := by
      rw [ne_eq, String.append_right_inj]
      decide
    have hfindings := Report.findings_ofFindings (onDescriptor d directory c ++ c.apply fs)
    obtain ⟨hdescriptor, hothers⟩ := Report.forArtifact_eq hfindings hfirst hrest hfiles
    refine ⟨_, c.apply fs, halone, ?_⟩
    rw [hfindings, Report.findings_ofFindings, hdescriptor, hothers]
    exact ⟨rfl, hfirst, hrest, rfl, rfl, rfl⟩
  · rw [chart_none, map_eq_error_iff]

/-- A chart with something to find in both files, and one of which only the
values can be read. -/
theorem chart_follows_files_web :
    (∃ r r₀, chart "name: web" (some "password: x") "api" {} = .ok r ∧
      chart "name: web" none "api" {} = .ok r₀ ∧
      r.forArtifact ("api" ++ "/Chart.yaml") = r₀.findings ∧
      r₀.findings.map Finding.code = ["HC1006", "HC1006", "HC1006", "HC1008"] ∧
      (r.forArtifact ("api" ++ "/values.yaml")).map Finding.code = ["HC2001", "SC1001"] ∧
      r.forArtifact ("api" ++ "/Chart.yaml") ++ r.forArtifact ("api" ++ "/values.yaml") =
        r.findings) ∧
    ∃ e, Document.parse "a: [" = .error e ∧
      chart "a: [" (some "password: x") "api" {} = .error e := by
  refine ⟨?report, ?fault⟩
  case report =>
    have hread : (chart "name: web" (some "password: x") "api" {}).toOption.any (fun r =>
        (r.forArtifact ("api" ++ "/Chart.yaml")).map Finding.code =
            ["HC1006", "HC1006", "HC1006", "HC1008"] ∧
          (r.forArtifact ("api" ++ "/values.yaml")).map Finding.code = ["HC2001", "SC1001"]) =
        true := by decide +kernel
    obtain ⟨r, hr, hcodes⟩ := exists_ok_of_any hread
    obtain ⟨hdescribed, hvalued⟩ := of_decide_eq_true hcodes
    obtain ⟨r₀, rest, halone, -, -, -, hdescriptor, -, hall⟩ :=
      (chart_follows_files "name: web" "password: x" "api" {}).1 r hr
    exact ⟨r, r₀, hr, halone, hdescriptor, hdescriptor ▸ hdescribed, hvalued, hall⟩
  case fault =>
    have hunread : (Document.parse "a: [").toBool = false := by decide +kernel
    cases hparse : Document.parse "a: [" with
    | error e => exact ⟨e, rfl, ((chart_follows_files _ _ _ _).2.2 e).2 (.inl hparse)⟩
    | ok d =>
      rw [hparse] at hunread
      exact nomatch hunread

end Lint

end DeployLint
