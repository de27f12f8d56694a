import DeployLint.Proofs.Config.Apply
import DeployLint.Proofs.Finding.Order
import DeployLint.Proofs.Resource.Findings
import DeployLint.Proofs.Steps

/-!
# Linting — the documents of a manifest

The report on a manifest is put together document by document. What stands
in it on one document, `documentFindings`, is made of that document, its
position, the name of the artifact and the configuration; the reports of two
manifests that hold the same document at the same position say the same of
it. A null document has nothing said of it, but keeps its position.
-/

namespace DeployLint

/-- The findings of a report on the document at a position. -/
def Report.onDocument (r : Report) (i : Nat) : List Finding :=
  r.findings.filter fun f => f.subject.document == some i

namespace Lint

variable {artifact : String} {c : Config} {ds : List Document}

/-- What is found on the document at a position, as the configuration has it. -/
def documentFindings (artifact : String) (c : Config) (i : Nat) (d : Document) : List Finding :=
  if d.isNull then []
  else c.apply (resource c ⟨d, { artifact := artifact, document := some i }⟩)

/-- Of a null document nothing is said, and what is said of another is said
of it at its position. -/
theorem subject_of_mem_documentFindings {i : Nat} {d : Document} {f : Finding}
    (hf : f ∈ documentFindings artifact c i d) :
    d.isNull = false ∧ f.subject = { artifact := artifact, document := some i } := by
  rw [documentFindings] at hf
  split at hf
  · exact absurd hf List.not_mem_nil
  · rename_i hnull
    obtain ⟨g, hg, -, rfl⟩ := Config.mem_apply_iff.1 hf
    exact ⟨Bool.eq_false_iff.2 hnull, (Resource.ownsAll_resource c _ g hg).subject_eq⟩

/-- The secrets of a text are said of the artifact as a whole. -/
theorem subject_of_mem_apply_scan {text : String} {f : Finding}
    (hf : f ∈ c.apply (Secret.scan c.security text { artifact := artifact })) :
    f.subject = { artifact := artifact } := by
  obtain ⟨g, hg, -, rfl⟩ := Config.mem_apply_iff.1 hf
  obtain ⟨x, -, hx⟩ := List.mem_flatMap.1 hg
  obtain ⟨pattern, -, rfl⟩ := List.mem_map.1 hx
  rfl

/-! ## Document by document -/

/-- **The report goes document by document, in their order.** -/
theorem findings_documents (ds : List Document) (artifact : String) (c : Config) :
    (documents ds artifact c).findings =
      ds.zipIdx.flatMap fun x => documentFindings artifact c x.2 x.1 := by
  rw [documents, Report.findings_ofFindings, resources, Config.apply_flatMap, List.flatMap_map]
  -- positions are given before null documents are left out, so they do not shift
  induction ds.zipIdx with
  | nil => rfl
  | cons x xs ih =>
    obtain ⟨d, i⟩ := x
    rw [List.flatMap_cons, documentFindings, ← ih]
    cases hnull : d.isNull with
    | true => rw [List.filter_cons_of_neg (by simp [hnull]), if_pos rfl, List.nil_append]
    | false => rw [List.filter_cons_of_pos (by simp [hnull])]; rfl

/-- Every finding is on a document that is not null, at its position. -/
theorem exists_of_mem_findings {f : Finding} (hf : f ∈ (documents ds artifact c).findings) :
    ∃ i d, ds[i]? = some d ∧ d.isNull = false ∧
      f.subject = { artifact := artifact, document := some i } := by
  rw [findings_documents] at hf
  obtain ⟨⟨d, i⟩, hx, hmem⟩ := List.mem_flatMap.1 hf
  obtain ⟨hnull, hsubject⟩ := subject_of_mem_documentFindings hmem
  exact ⟨i, d, List.mk_mem_zipIdx_iff_getElem?.1 hx, hnull, hsubject⟩

/-- **Positions never decrease along the report.** -/
theorem findings_documents_pairwise (ds : List Document) (artifact : String) (c : Config) :
    (documents ds artifact c).findings.Pairwise fun f g =>
      ∀ i ∈ f.subject.document, ∀ j ∈ g.subject.document, i ≤ j := by
  have hindex : ∀ x : Document × Nat, ∀ f ∈ documentFindings artifact c x.2 x.1,
      ∀ i ∈ f.subject.document, x.2 = i := by
    intro x f hf i hi
    rw [(subject_of_mem_documentFindings hf).2] at hi
    exact Option.some.inj hi
  have hpositions : (ds.zipIdx.map Prod.snd).Pairwise (· ≤ ·) := by
    rw [List.zipIdx_map_snd]
    exact List.pairwise_le_range'
  rw [findings_documents]
  exact Finding.ascends_flatMap (List.pairwise_map.1 hpositions) hindex

/-! ## One document of many -/

/-- Within what is found on a document, its own position keeps all and any
other nothing. -/
theorem filter_documentFindings (i j : Nat) (d : Document) :
    (documentFindings artifact c j d).filter (fun f => f.subject.document == some i) =
      if j = i then documentFindings artifact c j d else [] := by
  have hindex : ∀ f ∈ documentFindings artifact c j d, f.subject.document = some j := by
    intro f hf
    rw [(subject_of_mem_documentFindings hf).2]
  split
  · rename_i heq
    refine List.filter_eq_self.2 fun f hf => ?_
    rw [hindex f hf, heq, beq_self_eq_true]
  · rename_i hne
    refine List.filter_eq_nil_iff.2 fun f hf => ?_
    rw [hindex f hf, beq_iff_eq]
    exact fun heq => hne (Option.some.inj heq)

/-- Of blocks that stand at the positions from `k` on, one position keeps its own. -/
theorem flatMap_zipIdx_ite {α β : Type} (g : Nat → α → List β) (xs : List α) (k i : Nat) :
    ((xs.zipIdx k).flatMap fun x => if x.2 = k + i then g x.2 x.1 else []) =
      (xs[i]?.map (g (k + i))).getD [] := by
  induction xs generalizing k i with
  | nil => rfl
  | cons x xs ih =>
    rw [List.zipIdx_cons, List.flatMap_cons]
    cases i with
    | zero =>
      -- the blocks behind the first stand at `k + 1` and later
      have hrest : ((xs.zipIdx (k + 1)).flatMap fun y => if y.2 = k + 0 then g y.2 y.1 else []) =
          [] := by
        refine List.flatMap_eq_nil_iff.2 fun y hy => if_neg fun heq => ?_
        have hle : k + 1 ≤ y.2 := List.le_snd_of_mem_zipIdx hy
        omega
      rw [hrest, List.append_nil, if_pos (Nat.add_zero k).symm]
      rfl
    | succ i =>
      have hne : ¬ k = k + (i + 1) := by omega
      have hshift : k + (i + 1) = k + 1 + i := by omega
      rw [if_neg hne, List.nil_append, hshift, ih (k + 1) i, List.getElem?_cons_succ]

/-- **What a report says of a document is what is found on it alone.** -/
theorem onDocument_documents (ds : List Document) (artifact : String) (c : Config) (i : Nat) :
    (documents ds artifact c).onDocument i =
      (ds[i]?.map (documentFindings artifact c i)).getD [] := by
  have h := flatMap_zipIdx_ite (documentFindings artifact c) ds 0 i
  rw [Nat.zero_add] at h
  rw [← h, Report.onDocument, findings_documents, List.filter_flatMap]
  exact List.flatMap_congr fun x _ => filter_documentFindings i x.2 x.1

/-! ## Manifests -/

/-- The report on a manifest: its documents, then its secrets. -/
theorem findings_manifests (text artifact : String) (c : Config) :
    (manifests text artifact c).map Report.findings =
      (Document.parseStream text).map fun ds => (documents ds artifact c).findings ++
        c.apply (Secret.scan c.security text { artifact := artifact }) := by
  rw [manifests]
  cases Document.parseStream text with
  | error e => rfl
  | ok ds => exact congrArg Except.ok (Report.findings_extend _ _)

/-- Positions never decrease along the report on a manifest either: the
secrets at its end have none. -/
theorem findings_manifests_pairwise {text : String} {r : Report}
    (hr : manifests text artifact c = .ok r) :
    r.findings.Pairwise fun f g => ∀ i ∈ f.subject.document, ∀ j ∈ g.subject.document, i ≤ j := by
  have hfindings := findings_manifests text artifact c
  rw [hr] at hfindings
  obtain ⟨ds, -, heq⟩ := map_eq_ok_iff.1 hfindings.symm
  have hnone : ∀ g ∈ c.apply (Secret.scan c.security text { artifact := artifact }),
      g.subject.document = none := by
    intro g hg
    rw [subject_of_mem_apply_scan hg]
  rw [← heq]
  refine List.pairwise_append.2 ⟨findings_documents_pairwise ds artifact c,
    List.pairwise_of_forall_mem_list fun f _ g hg i _ j hj => ?_, fun f _ g hg i _ j hj => ?_⟩
  · rw [hnone g hg] at hj
    exact nomatch hj
  · rw [hnone g hg] at hj
    exact nomatch hj

/-- The secrets of a text say nothing of any one document. -/
theorem filter_apply_scan (text artifact : String) (c : Config) (i : Nat) :
    (c.apply (Secret.scan c.security text { artifact := artifact })).filter
      (fun f => f.subject.document == some i) = [] := by
  refine List.filter_eq_nil_iff.2 fun f hf => ?_
  rw [subject_of_mem_apply_scan hf]
  exact Bool.false_ne_true

/-- What the report on a manifest says of a document is what is found on it alone. -/
theorem onDocument_manifests (text artifact : String) (c : Config) (i : Nat) :
    ((manifests text artifact c).map fun r => r.onDocument i) =
      (Document.parseStream text).map fun ds =>
        (ds[i]?.map (documentFindings artifact c i)).getD [] := by
  have hfilter : ((manifests text artifact c).map fun r => r.onDocument i) =
      ((manifests text artifact c).map Report.findings).map
        (List.filter fun f => f.subject.document == some i) := by
    cases manifests text artifact c <;> rfl
  rw [hfilter, findings_manifests]
  cases Document.parseStream text with
  | error e => rfl
  | ok ds =>
    refine congrArg Except.ok ?_
    rw [List.filter_append, filter_apply_scan, List.append_nil]
    exact onDocument_documents ds artifact c i

/-! ## The result -/

/-- **Reports follow their documents.** The report on a list of documents is
what is found on each that is not null, in their order: every finding is
said of such a document at its position, and positions never decrease. What
is said of a position is what is found on its document alone, so that two
lists which agree there have the same said of it, whatever else they hold.
The report on a manifest is that on its documents, followed by its secrets,
which are said of no document; so the same holds of it. -/
theorem lint_follows_documents (artifact : String) (c : Config) :
    (∀ ds, (documents ds artifact c).findings =
      ds.zipIdx.flatMap fun x => documentFindings artifact c x.2 x.1) ∧
    (∀ ds, ∀ f ∈ (documents ds artifact c).findings, ∃ i d, ds[i]? = some d ∧
      d.isNull = false ∧ f.subject = { artifact := artifact, document := some i }) ∧
    (∀ ds, (documents ds artifact c).findings.Pairwise fun f g =>
      ∀ i ∈ f.subject.document, ∀ j ∈ g.subject.document, i ≤ j) ∧
    (∀ (ds ds' : List Document) (i : Nat), ds[i]? = ds'[i]? →
      (documents ds artifact c).onDocument i = (documents ds' artifact c).onDocument i) ∧
    (∀ text, (manifests text artifact c).map Report.findings =
      (Document.parseStream text).map fun ds => (documents ds artifact c).findings ++
        c.apply (Secret.scan c.security text { artifact := artifact })) ∧
    (∀ text, ∀ f ∈ c.apply (Secret.scan c.security text { artifact := artifact }),
      f.subject = { artifact := artifact, document := none }) ∧
    (∀ text r, manifests text artifact c = .ok r → r.findings.Pairwise fun f g =>
      ∀ i ∈ f.subject.document, ∀ j ∈ g.subject.document, i ≤ j) ∧
    (∀ (text text' : String) (i : Nat),
      ((Document.parseStream text).map fun ds => ds[i]?) =
        ((Document.parseStream text').map fun ds => ds[i]?) →
      ((manifests text artifact c).map fun r => r.onDocument i) =
        ((manifests text' artifact c).map fun r => r.onDocument i)) := by
  refine ⟨fun ds => findings_documents ds artifact c, fun ds f hf => exists_of_mem_findings hf,
    fun ds => findings_documents_pairwise ds artifact c, fun ds ds' i hagree => ?_,
    fun text => findings_manifests text artifact c, fun text f hf => subject_of_mem_apply_scan hf,
    fun text r hr => findings_manifests_pairwise hr, fun text text' i hagree => ?_⟩
  · rw [onDocument_documents, onDocument_documents, hagree]
  · have hdocument : ∀ t, ((manifests t artifact c).map fun r => r.onDocument i) =
        ((Document.parseStream t).map fun ds => ds[i]?).map
          fun d? => (d?.map (documentFindings artifact c i)).getD [] := by
      intro t
      rw [onDocument_manifests]
      cases Document.parseStream t <;> rfl
    rw [hdocument, hdocument, hagree]

/-- What two texts have for their second document, where both have the text
`b` for it. -/
theorem second_of_asString? {text : String}
    (h : ((Document.parseStream text).toOption.bind fun ds => ds[1]?.bind Document.asString?) =
      some "b") :
    ((Document.parseStream text).map fun ds => ds[1]?) = .ok (some (.string "b")) := by
  cases hparse : Document.parseStream text with
  | error e => rw [hparse] at h; exact nomatch h
  | ok ds =>
    rw [hparse] at h
    replace h : ds[1]?.bind Document.asString? = some "b" := h
    obtain ⟨d, hd, hstring⟩ := Option.bind_eq_some_iff.1 h
    refine congrArg Except.ok (hd.trans (congrArg some ?_))
    match d, hstring with
    | .scalar (.string _), rfl => rfl

/-- Behind a null document and behind another one, the second document is
reported alike, in lists and in manifests. -/
theorem lint_follows_second_document :
    (documents [.null, .string "b"] "a.yaml" {}).onDocument 1 =
        (documents [.string "a", .string "b", .null] "a.yaml" {}).onDocument 1 ∧
      (∃ f ∈ (documents [.string "b"] "a.yaml" {}).findings,
        f.subject = { artifact := "a.yaml", document := some 0 }) ∧
      (∃ r, manifests "--- ~\n--- b" "a.yaml" {} = .ok r ∧ r.findings.Pairwise fun f g =>
        ∀ i ∈ f.subject.document, ∀ j ∈ g.subject.document, i ≤ j) ∧
      ((manifests "--- ~\n--- b" "a.yaml" {}).map fun r => r.onDocument 1) =
        ((manifests "--- a\n--- b\n---" "a.yaml" {}).map fun r => r.onDocument 1) := by
  have h := lint_follows_documents "a.yaml" {}
  have hagree : ((Document.parseStream "--- ~\n--- b").map fun ds => ds[1]?) =
      ((Document.parseStream "--- a\n--- b\n---").map fun ds => ds[1]?) :=
    (second_of_asString? (by decide +kernel)).trans (second_of_asString? (by decide +kernel)).symm
  refine ⟨h.2.2.2.1 _ _ 1 rfl, ?_, ?_, h.2.2.2.2.2.2.2 _ _ 1 hagree⟩
  · have hne : (documents [.string "b"] "a.yaml" {}).findings ≠ [] := by decide +kernel
    obtain ⟨f, hf⟩ := List.exists_mem_of_ne_nil _ hne
    obtain ⟨i, d, hd, -, hsubject⟩ := h.2.1 [.string "b"] f hf
    match i, hd with
    | 0, _ => exact ⟨f, hf, hsubject⟩
  · have hread : (manifests "--- ~\n--- b" "a.yaml" {}).toBool = true := by decide +kernel
    match hr : manifests "--- ~\n--- b" "a.yaml" {}, hread with
    | .ok r, _ => exact ⟨r, rfl, h.2.2.2.2.2.2.1 _ r hr⟩

end Lint

end DeployLint
