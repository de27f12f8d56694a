import DeployLint.Proofs.Document.Reading
import DeployLint.Proofs.Document.Walk
import DeployLint.Proofs.Lint.Catalogue

/-!
# Charts — how deep limits are looked for

The rule on a chart's values looks for a node that limits resources, and
reports that there is none. It looks down to a depth of its own
(`Chart.valuesDepth`), whereas the quantities of the same values are looked
at down to the depth that the configuration has. What is reported is told
exactly by the first (`chart_reports_missing_limits`), and so it is not told
by the second (`not_limits_within_configured_depth`).
-/

namespace DeployLint

namespace Chart

/-- A node limits resources: its mapping `resources` has `limits` or `requests`. -/
def SetsLimits (node : Document) : Prop :=
  ∃ resources, node.get? "resources" = some resources ∧ resources.isMapping = true ∧
    (resources.hasKey "limits" = true ∨ resources.hasKey "requests" = true)

/-- Some place of the values, no deeper than a depth, limits resources. -/
def LimitsWithin (values : Document) (depth : Nat) : Prop :=
  ∃ p n, p.depth ≤ depth ∧ values.at? p = some n ∧ SetsLimits n

theorem setsLimits_iff {node : Document} : setsLimits node = true ↔ SetsLimits node := by
  rw [setsLimits, SetsLimits]
  cases node.get? "resources" with
  | none => simp
  | some resources =>
    simp only [Bool.and_eq_true, Bool.or_eq_true, Option.some.injEq, exists_eq_left']

/-- A greater depth reaches what a smaller one does. -/
theorem LimitsWithin.mono {values : Document} {depth deeper : Nat} (h : LimitsWithin values depth)
    (hle : depth ≤ deeper) : LimitsWithin values deeper := by
  obtain ⟨p, n, hdepth, hn, hlimits⟩ := h
  exact ⟨p, n, Nat.le_trans hdepth hle, hn, hlimits⟩

/-- The search ends early exactly if some node that it may come to limits resources. -/
theorem hasLimits_eq_any (values : Document) (depth : Nat) :
    hasLimits values depth = (values.nodes depth).any fun x => setsLimits x.2 :=
  Document.isHalt_walk_search values depth setsLimits ()

/-- **The search finds what there is to find**, down to its depth. -/
theorem hasLimits_iff {values : Document} (hvalues : values.Ordered) {depth : Nat} :
    hasLimits values depth = true ↔ LimitsWithin values depth := by
  rw [hasLimits_eq_any, List.any_eq_true]
  constructor
  · rintro ⟨⟨p, n⟩, hnode, hlimits⟩
    obtain ⟨hdepth, hn⟩ := (Document.mem_nodes_iff hvalues).1 hnode
    exact ⟨p, n, hdepth, hn, setsLimits_iff.1 hlimits⟩
  · rintro ⟨p, n, hdepth, hn, hlimits⟩
    exact ⟨(p, n), (Document.mem_nodes_iff hvalues).2 ⟨hdepth, hn⟩, setsLimits_iff.2 hlimits⟩

/-- The check on values reports its rule where the search finds nothing. -/
theorem reports_checkValues_iff {values : Document} {subject : Subject} :
    Finding.Reports (checkValues values subject) .missingResourceLimits ↔
      hasLimits values valuesDepth = false := by
  rw [checkValues, Finding.reports_unless_iff, Bool.not_eq_true]
  exact and_iff_left rfl

end Chart

/-- A configuration that does not ignore a rule reports it where it is found. -/
theorem Config.reports_apply_iff {c : Config} {rule : Rule} (hc : c.isIgnored rule.code = false)
    {fs : List Finding} : Finding.Reports (c.apply fs) rule ↔ Finding.Reports fs rule := by
  constructor
  · rintro ⟨f, hf, hcode⟩
    obtain ⟨g, hg, -, rfl⟩ := mem_apply_iff.1 hf
    exact ⟨g, hg, hcode⟩
  · rintro ⟨f, hf, hcode⟩
    exact ⟨c.settle f, mem_apply_iff.2 ⟨f, hf, hcode ▸ hc, rfl⟩, hcode⟩

namespace Lint

open Chart (LimitsWithin valuesDepth)
open Finding (Reports)

variable {c : Config} {descriptor text artifact directory : String} {v : Document}

/-- Of the checks on values, one reports missing limits. -/
theorem reports_values_iff (hv : Document.parse text = .ok v) {fs : List Finding}
    (h : values text artifact c = .ok fs) :
    Reports fs .missingResourceLimits ↔ ¬ LimitsWithin v valuesDepth := by
  have hquantities : ¬ Reports (Quantity.check { artifact := artifact } v c.quota.depth)
      .missingResourceLimits :=
    (Resource.ownsAll_checkQuantities ⟨v, { artifact := artifact }⟩ v _).ofRules.not_reports
      (by decide)
  have hsecrets : ¬ Reports (Secret.scan c.security text { artifact := artifact })
      .missingResourceLimits :=
    (Secret.ofRules_scan _ _ _).not_reports (by decide)
  rw [values, hv] at h
  obtain rfl := Except.ok.inj h
  rw [Finding.reports_append, Finding.reports_append, or_iff_left hsecrets,
    or_iff_left hquantities, Chart.reports_checkValues_iff,
    ← Chart.hasLimits_iff (Document.ordered_of_parse hv), Bool.not_eq_true]

/-- Of the checks on a chart, those on its descriptor do not. -/
theorem reports_chartFindings_iff (hv : Document.parse text = .ok v) {fs : List Finding}
    (h : chartFindings descriptor (some text) directory c = .ok fs) :
    Reports fs .missingResourceLimits ↔ ¬ LimitsWithin v valuesDepth := by
  rw [chartFindings] at h
  obtain ⟨d, -, hd⟩ := bind_eq_ok_iff.1 h
  obtain ⟨onValues, hvalues, rfl⟩ := map_eq_ok_iff.1 hd
  have hdescriptor : ¬ Reports (Chart.check ⟨d, { artifact := directory ++ "/Chart.yaml" }⟩)
      .missingResourceLimits := (Chart.ofRules_check _).not_reports (by decide)
  have hname : ¬ Reports
      (Chart.checkName ⟨d, { artifact := directory ++ "/Chart.yaml" }⟩ directory)
      .missingResourceLimits := (Chart.ofRules_checkName _ _).not_reports (by decide)
  have hdescribed := not_or.2 ⟨hdescriptor, hname⟩
  rw [Finding.reports_append, Finding.reports_append, or_iff_right hdescribed,
    reports_values_iff hv hvalues]

/-- A chart that can be read is reported on, and the report says that limits
are missing where the search for them finds none. -/
theorem exists_chart_reports {d : Document} (hd : Document.parse descriptor = .ok d)
    (hv : Document.parse text = .ok v) (directory : String)
    (hc : c.isIgnored "HC2001" = false) :
    ∃ r, chart descriptor (some text) directory c = .ok r ∧
      (Reports r.findings .missingResourceLimits ↔ ¬ LimitsWithin v valuesDepth) := by
  obtain ⟨fs, hfs⟩ : ∃ fs, chartFindings descriptor (some text) directory c = .ok fs := by
    rw [chartFindings, hd, valuesFindings, values, hv]
    exact ⟨_, rfl⟩
  have hrun := configuredLast_chart descriptor (some text) directory
  obtain ⟨r, hr, hfindings⟩ := hrun.exists_run (map_eq_ok_iff.2 ⟨fs, hfs, rfl⟩)
  refine ⟨r, hr, ?_⟩
  rw [hfindings, Config.reports_apply_iff hc, reports_chartFindings_iff hv hfs]

/-- **A report on a chart says that limits are missing** exactly when no
node of its values down to the search's own depth sets any. Where the depth
of the configuration is no greater, what is reported missing is missing down
to that depth, too; where it is no smaller, what is missing down to it is
reported. -/
theorem chart_reports_missing_limits {d : Document} (hd : Document.parse descriptor = .ok d)
    (hv : Document.parse text = .ok v) (directory : String)
    (hc : c.isIgnored "HC2001" = false) :
    ∃ r, chart descriptor (some text) directory c = .ok r ∧
      ((∃ f ∈ r.findings, f.code = "HC2001") ↔ ¬ LimitsWithin v 64) ∧
      (c.quota.depth ≤ 64 → (∃ f ∈ r.findings, f.code = "HC2001") →
        ¬ LimitsWithin v c.quota.depth) ∧
      (64 ≤ c.quota.depth → ¬ LimitsWithin v c.quota.depth →
        ∃ f ∈ r.findings, f.code = "HC2001") := by
  obtain ⟨r, hr, hreports⟩ := exists_chart_reports hd hv directory hc
  refine ⟨r, hr, hreports, ?shallower, ?deeper⟩
  case shallower =>
    intro hdepth hreported hlimits
    exact hreports.1 hreported (hlimits.mono hdepth)
  case deeper =>
    intro hdepth hmissing
    exact hreports.2 fun hlimits => hmissing (hlimits.mono hdepth)

/-- A search of the root alone. -/
def searchesRoot : Config where
  quota := { depth := 0 }

/-- Values that limit nothing, and the report that says so. -/
theorem chart_reports_missing_limits_replicas :
    ∃ d v r, Document.parse "name: web" = .ok d ∧ Document.parse "replicas: 1" = .ok v ∧
      chart "name: web" (some "replicas: 1") "web" searchesRoot = .ok r ∧
      (∃ f ∈ r.findings, f.code = "HC2001") ∧ ¬ LimitsWithin v searchesRoot.quota.depth := by
  have hdescriptor : (Document.parse "name: web").toOption.any (fun _ => true) = true := by
    decide +kernel
  have hvalues : (Document.parse "replicas: 1").toOption.any
      (fun v => !Chart.hasLimits v valuesDepth) = true := by decide +kernel
  obtain ⟨d, hd, -⟩ := exists_ok_of_any hdescriptor
  obtain ⟨v, hv, hnone⟩ := exists_ok_of_any hvalues
  obtain ⟨r, hr, hiff, hshallower, -⟩ :=
    chart_reports_missing_limits (c := searchesRoot) hd hv "web" rfl
  have hmissing : ¬ LimitsWithin v 64 := by
    intro hlimits
    have hfound := (Chart.hasLimits_iff (Document.ordered_of_parse hv)).2 hlimits
    rw [valuesDepth, hfound] at hnone
    exact nomatch hnone
  exact ⟨d, v, r, hd, hv, hr, hiff.2 hmissing, hshallower (by decide) (hiff.2 hmissing)⟩

/-- **The depth of a configuration is not what counts**: of limits one level
below the root a report tells nothing, though the root is all that is to be
searched. -/
theorem not_limits_within_configured_depth :
    ¬ ∀ (c : Config) (descriptor text directory : String) (d v : Document) (r : Report),
      c.isIgnored "HC2001" = false → Document.parse descriptor = .ok d →
      Document.parse text = .ok v → chart descriptor (some text) directory c = .ok r →
      ((∃ f ∈ r.findings, f.code = "HC2001") ↔ ¬ LimitsWithin v c.quota.depth) := by
  intro h
  have hdescriptor : (Document.parse "name: web").toOption.any (fun _ => true) = true := by
    decide +kernel
  have hvalues : (Document.parse "web:\n  resources:\n    limits:\n      cpu: 500m\n").toOption.any
      (fun v => Chart.hasLimits v valuesDepth && !Chart.hasLimits v 0) = true := by
    decide +kernel
  obtain ⟨d, hd, -⟩ := exists_ok_of_any hdescriptor
  obtain ⟨v, hv, hlimits⟩ := exists_ok_of_any hvalues
  obtain ⟨hdeep, hroot⟩ := Bool.and_eq_true_iff.1 hlimits
  have hordered : v.Ordered := Document.ordered_of_parse hv
  obtain ⟨r, hr, hreports⟩ := exists_chart_reports (c := searchesRoot) hd hv "web" rfl
  have hmissing : ¬ LimitsWithin v 0 := by
    intro hwithin
    rw [(Chart.hasLimits_iff hordered).2 hwithin] at hroot
    exact nomatch hroot
  have hreported := (h searchesRoot _ _ _ d v r rfl hd hv hr).2 hmissing
  exact hreports.1 hreported ((Chart.hasLimits_iff hordered).1 hdeep)

end Lint

end DeployLint
