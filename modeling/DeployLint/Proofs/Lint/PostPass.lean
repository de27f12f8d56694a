import DeployLint.Proofs.Config.Apply
import DeployLint.Proofs.Steps

/-!
# Linting — the configuration comes last

A run is configured last when what its rules find depends only on the tables
of the configuration, and the rest of it is applied to what they found
(`ConfiguredLast`). All runs are, though the configuration is applied at
different points: to the report as a whole, or to the documents of a
manifest and to the secrets in its text apart.

Two results are read off that one shape. A run answers what the bare
configuration answers, with the configuration applied to it
(`lint_eq_apply_bare`), and tightening a configuration never lets a report
pass that was stopped before (`shouldFail_of_tightened`).
-/

namespace DeployLint

/-- What a report says: its findings, and its totals where they were counted. -/
def Report.contents (r : Report) : List Finding × Option Totals := (r.findings, r.totals)

namespace Lint

variable {c c' : Config}
variable {raw : Config → Except LintError (List Finding × Option Totals)}
variable {run : Config → Except LintError Report}

/-- **A run that is configured last**: what its rules find, `raw`, depends on
the tables only, and the configuration is applied to all of it. -/
structure ConfiguredLast (raw : Config → Except LintError (List Finding × Option Totals))
    (run : Config → Except LintError Report) : Prop where
  raw_congr : ∀ {c c' : Config}, c.SameTables c' → raw c = raw c'
  contents_eq : ∀ c, (run c).map Report.contents = (raw c).map fun x => (c.apply x.1, x.2)

namespace ConfiguredLast

/-- A run configured last answers what the bare configuration answers, with
the configuration applied to it, and fails as that one does. -/
theorem eq_apply_bare (h : ConfiguredLast raw run) (c : Config) :
    (run c).map Report.contents =
      (run c.bare).map fun r => (c.apply r.findings, r.totals) := by
  have hbare : (run c.bare).map Report.contents = raw c := by
    rw [h.contents_eq, ← h.raw_congr c.sameTables_bare]
    cases raw c with
    | error e => rfl
    | ok x => simp only [Except.map, Config.apply_bare]
  rw [h.contents_eq, ← hbare]
  cases run c.bare <;> rfl

/-- What a run that succeeds found, with the configuration applied to it. -/
theorem exists_raw (h : ConfiguredLast raw run) {r : Report} (hr : run c = .ok r) :
    ∃ x, raw c = .ok x ∧ r.findings = c.apply x.1 := by
  have hcontents := h.contents_eq c
  rw [hr] at hcontents
  obtain ⟨x, hx, heq⟩ := map_eq_ok_iff.1 hcontents.symm
  exact ⟨x, hx, (Prod.mk.inj heq).1.symm⟩

/-- A run succeeds where its rules do. -/
theorem exists_run (h : ConfiguredLast raw run) {x : List Finding × Option Totals}
    (hx : raw c = .ok x) : ∃ r, run c = .ok r ∧ r.findings = c.apply x.1 := by
  have hcontents := h.contents_eq c
  rw [hx] at hcontents
  obtain ⟨r, hr, heq⟩ := map_eq_ok_iff.1 hcontents
  exact ⟨r, hr, (Prod.mk.inj heq).1⟩

/-- A run configured last that was stopped is stopped under any tighter
configuration. -/
theorem shouldFail_of_tightenedTo (h : ConfiguredLast raw run) (hc : c.TightenedTo c')
    {r : Report} (hr : run c = .ok r) (hfail : r.shouldFail c = true) :
    ∃ r', run c' = .ok r' ∧ r'.shouldFail c' = true := by
  obtain ⟨x, hx, hfindings⟩ := h.exists_raw hr
  obtain ⟨r', hr', hfindings'⟩ := h.exists_run (h.raw_congr hc.toSameTables ▸ hx)
  refine ⟨r', hr', Report.shouldFail_iff.2 ?_⟩
  rw [hfindings']
  refine hc.exists_mem_apply ?_
  rw [← hfindings]
  exact Report.shouldFail_iff.1 hfail

end ConfiguredLast

/-! ## What the rules find

The runs once more, without their last step. -/

/-- What the rules find on the text of a manifest. -/
def manifestFindings (text artifact : String) (c : Config) : Except LintError (List Finding) :=
  (Document.parseStream text).map fun ds =>
    (resources ds artifact).flatMap (resource c) ++
      Secret.scan c.security text { artifact := artifact }

/-- What the rules find on a chart's values, if it has any. -/
def valuesFindings (valuesText : Option String) (directory : String) (c : Config) :
    Except LintError (List Finding) :=
  match valuesText with
  | some text => values text (directory ++ "/values.yaml") c
  | none => .ok []

/-- What the rules find on a chart. -/
def chartFindings (descriptor : String) (valuesText : Option String) (directory : String)
    (c : Config) : Except LintError (List Finding) :=
  (Document.parse descriptor).bind fun d =>
    let described : Chart := ⟨d, { artifact := directory ++ "/Chart.yaml" }⟩
    (valuesFindings valuesText directory c).map fun onValues =>
      described.check ++ described.checkName directory ++ onValues

/-- What the rules find on a build file. -/
def dockerfileFindings (text artifact : String) (c : Config) : List Finding :=
  let subject : Subject := { artifact := artifact }
  Dockerfile.checkLines text subject ++ Dockerfile.checkPractices text subject ++
    Dockerfile.checkTags text subject ++ Secret.scan c.security text subject

/-- The rules on a resource read the tables only. -/
theorem resource_congr (h : c.SameTables c') (r : Resource) : resource c r = resource c' r := by
  rw [resource, resource, h.naming, h.security, h.quota]

/-- So do the rules on a chart's values. -/
theorem valuesFindings_congr (h : c.SameTables c') (valuesText : Option String)
    (directory : String) :
    valuesFindings valuesText directory c = valuesFindings valuesText directory c' := by
  cases valuesText with
  | none => rfl
  | some text => rw [valuesFindings, valuesFindings, values, values, h.security, h.quota]

/-- And what a release requests. -/
theorem releaseTotals_congr (h : c.SameTables c') (ds vs : List Document) :
    releaseTotals ds vs c = releaseTotals ds vs c' := by
  have hkind : c.isWorkloadKind = c'.isWorkloadKind := by
    funext kind
    rw [Config.isWorkloadKind, Config.isWorkloadKind, h.workloadKinds]
  have hworkload : Totals.isWorkload c = Totals.isWorkload c' := by
    funext d
    rw [Totals.isWorkload, Totals.isWorkload, hkind]
  rw [releaseTotals, releaseTotals, Totals.ofWorkloads, Totals.ofWorkloads, hworkload, h.quota]

/-! ## Every run is configured last -/

/-- A report on findings alone says these and no totals. -/
theorem contents_ofFindings (fs : List Finding) : (Report.ofFindings fs).contents = (fs, none) :=
  Prod.ext (Report.findings_ofFindings fs) (Report.totals_ofFindings fs)

/-- **Manifests.** The configuration is applied to the documents and to the
secrets apart, which comes to the same. -/
theorem configuredLast_manifests (text artifact : String) :
    ConfiguredLast (fun c => (manifestFindings text artifact c).map (·, none))
      (manifests text artifact) where
  raw_congr h := by
    simp only [manifestFindings, h.security, funext (resource_congr h)]
  contents_eq c := by
    rw [manifests, manifestFindings]
    cases Document.parseStream text with
    | error e => rfl
    | ok ds =>
      have happly : ((documents ds artifact c).extend
          (c.apply (Secret.scan c.security text { artifact := artifact }))).contents =
            (c.apply ((resources ds artifact).flatMap (resource c) ++
              Secret.scan c.security text { artifact := artifact }), none) := by
        rw [Report.contents, Report.findings_extend, Report.totals_extend, documents,
          Report.findings_ofFindings, Report.totals_ofFindings, Config.apply_append]
      exact congrArg Except.ok happly

/-- **Charts**, with values and without. -/
theorem configuredLast_chart (descriptor : String) (valuesText : Option String)
    (directory : String) :
    ConfiguredLast (fun c => (chartFindings descriptor valuesText directory c).map (·, none))
      (chart descriptor valuesText directory) where
  raw_congr h := by
    simp only [chartFindings, valuesFindings_congr h]
  contents_eq c := by
    rw [chart, chartFindings]
    -- the values are read last, so that a fault of the descriptor is the one told
    cases Document.parse descriptor with
    | error e => rfl
    | ok d =>
      cases valuesText with
      | none => exact congrArg Except.ok (contents_ofFindings _)
      | some text =>
        rw [valuesFindings]
        cases hvalues : values text (directory ++ "/values.yaml") c with
        | error e => simp only [hvalues]; rfl
        | ok fs => simp only [hvalues]; exact congrArg Except.ok (contents_ofFindings _)

/-- **Build files.** -/
theorem configuredLast_dockerfile (text artifact : String) :
    ConfiguredLast (fun c => .ok (dockerfileFindings text artifact c, none))
      (fun c => .ok (dockerfile text artifact c)) where
  raw_congr h := by
    simp only [dockerfileFindings, h.security]
  contents_eq c := congrArg Except.ok (contents_ofFindings _)

/-- **Quotas.** The totals are no findings, and no configuration is applied
to them. -/
theorem configuredLast_releaseQuota (ds vs : List Document) (artifact : String) :
    ConfiguredLast
      (fun c => .ok ((releaseTotals ds vs c).check c.quota { artifact := artifact },
        some (releaseTotals ds vs c)))
      (fun c => .ok (releaseQuota ds vs artifact c)) where
  raw_congr h := by
    simp only [releaseTotals_congr h, h.quota]
  contents_eq c := congrArg Except.ok (Prod.ext (Report.findings_ofFindings _) rfl)

/-! ## The two results -/

/-- **A configuration is a pass over what the bare one finds.** Each run
answers what it answers under the bare configuration, errors included, with
the findings applied and the totals as they are. Applying keeps the order,
drops exactly the findings of ignored rules and changes nothing but
severities; it is idempotent and goes through a concatenation, and under
`strict` it leaves no warning but by an override. -/
theorem lint_eq_apply_bare (c : Config) :
    (∀ text artifact, (manifests text artifact c).map Report.contents =
      (manifests text artifact c.bare).map fun r => (c.apply r.findings, r.totals)) ∧
    (∀ descriptor valuesText directory,
      (chart descriptor valuesText directory c).map Report.contents =
        (chart descriptor valuesText directory c.bare).map
          fun r => (c.apply r.findings, r.totals)) ∧
    (∀ text artifact,
      (dockerfile text artifact c).findings = c.apply (dockerfile text artifact c.bare).findings ∧
      (dockerfile text artifact c).totals = (dockerfile text artifact c.bare).totals) ∧
    (∀ ds vs artifact,
      (releaseQuota ds vs artifact c).findings =
        c.apply (releaseQuota ds vs artifact c.bare).findings ∧
      (releaseQuota ds vs artifact c).totals = (releaseQuota ds vs artifact c.bare).totals) ∧
    (∀ fs, List.Forall₂ (fun f g => g = { f with severity := g.severity })
      (fs.filter fun f => !c.isIgnored f.code) (c.apply fs)) ∧
    (∀ fs, c.apply (c.apply fs) = c.apply fs) ∧
    (∀ fs gs, c.apply (fs ++ gs) = c.apply fs ++ c.apply gs) ∧
    (c.strict = true → ∀ fs, ∀ f ∈ c.apply fs, f.severity = .warning →
      c.severityOverrides.get? f.code = some .warning) := by
  refine ⟨fun text artifact => (configuredLast_manifests text artifact).eq_apply_bare c,
    fun descriptor valuesText directory =>
      (configuredLast_chart descriptor valuesText directory).eq_apply_bare c,
    fun text artifact => ?_, fun ds vs artifact => ?_, c.apply_forall₂, c.apply_apply,
    c.apply_append, fun hstrict fs f hf hwarning => Config.get?_overrides_of_warning hstrict hf
      hwarning⟩
  · exact Prod.mk.inj (Except.ok.inj ((configuredLast_dockerfile text artifact).eq_apply_bare c))
  · exact Prod.mk.inj (Except.ok.inj ((configuredLast_releaseQuota ds vs artifact).eq_apply_bare c))

/-- Strict, but for long label keys. -/
def strictButLabels : Config where
  strict := true
  ignoredRules := NameSet.ofList ["DF1010"]
  severityOverrides := Fields.ofPairs [("KM1005", .warning)]

/-- A build file under it, and the one warning that `strict` leaves. -/
theorem lint_eq_apply_strictButLabels :
    (dockerfile "token=1" "Dockerfile" strictButLabels).findings =
      strictButLabels.apply (dockerfile "token=1" "Dockerfile" strictButLabels.bare).findings ∧
    strictButLabels.strict = true ∧
    ∃ f ∈ strictButLabels.apply [.of .labelKeyTooLong { artifact := "a.yaml" } "too long"],
      f.severity = .warning ∧ strictButLabels.severityOverrides.get? f.code = some .warning := by
  have h := lint_eq_apply_bare strictButLabels
  have hstrict := h.2.2.2.2.2.2.2 rfl [.of .labelKeyTooLong { artifact := "a.yaml" } "too long"]
  exact ⟨(h.2.2.1 "token=1" "Dockerfile").1, rfl, _, List.mem_singleton.2 rfl, rfl,
    hstrict _ (List.mem_singleton.2 rfl) rfl⟩

/-- **Tightening a configuration never lets a report pass that was stopped
before**, whatever the run. -/
theorem shouldFail_of_tightened (h : c.TightenedTo c') :
    (∀ text artifact r, manifests text artifact c = .ok r → r.shouldFail c = true →
      ∃ r', manifests text artifact c' = .ok r' ∧ r'.shouldFail c' = true) ∧
    (∀ descriptor valuesText directory r, chart descriptor valuesText directory c = .ok r →
      r.shouldFail c = true →
      ∃ r', chart descriptor valuesText directory c' = .ok r' ∧ r'.shouldFail c' = true) ∧
    (∀ text artifact, (dockerfile text artifact c).shouldFail c = true →
      (dockerfile text artifact c').shouldFail c' = true) ∧
    (∀ ds vs artifact, (releaseQuota ds vs artifact c).shouldFail c = true →
      (releaseQuota ds vs artifact c').shouldFail c' = true) := by
  refine ⟨fun text artifact r hr hfail =>
      (configuredLast_manifests text artifact).shouldFail_of_tightenedTo h hr hfail,
    fun descriptor valuesText directory r hr hfail =>
      (configuredLast_chart descriptor valuesText directory).shouldFail_of_tightenedTo h hr hfail,
    fun text artifact hfail => ?_, fun ds vs artifact hfail => ?_⟩
  · obtain ⟨r', hr', hfail'⟩ :=
      (configuredLast_dockerfile text artifact).shouldFail_of_tightenedTo h rfl hfail
    exact Except.ok.inj hr' ▸ hfail'
  · obtain ⟨r', hr', hfail'⟩ :=
      (configuredLast_releaseQuota ds vs artifact).shouldFail_of_tightenedTo h rfl hfail
    exact Except.ok.inj hr' ▸ hfail'

/-- Warnings stop a report, and a missing work directory is no matter. -/
def stopsAtWarnings : Config where
  failureThreshold := .warning
  ignoredRules := NameSet.ofList ["DF1006"]

/-- Everything stops a report, and warnings are errors. -/
def stopsAtAnything : Config where
  failureThreshold := .info
  strict := true

/-- A build file that the first stops is stopped by the second. -/
theorem shouldFail_of_stopsAtWarnings :
    stopsAtWarnings.TightenedTo stopsAtAnything ∧
    (dockerfile "token=1" "Dockerfile" stopsAtWarnings).shouldFail stopsAtWarnings = true ∧
    (dockerfile "token=1" "Dockerfile" stopsAtAnything).shouldFail stopsAtAnything = true := by
  have h : stopsAtWarnings.TightenedTo stopsAtAnything :=
    { security := rfl, naming := rfl, quota := rfl, workloadKinds := rfl
      ignored := fun _ hignored => nomatch hignored
      strict := fun _ => rfl
      threshold := by decide
      overrides := fun _ => rfl }
  have hbefore :
      (dockerfile "token=1" "Dockerfile" stopsAtWarnings).shouldFail stopsAtWarnings = true := by
    decide +kernel
  exact ⟨h, hbefore, (shouldFail_of_tightened h).2.2.1 "token=1" "Dockerfile" hbefore⟩

end Lint

end DeployLint
