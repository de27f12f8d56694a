import DeployLint.Proofs.Document.Texts
import DeployLint.Proofs.Finding.Demands
import DeployLint.Proofs.Text.Cutting
import DeployLint.Resource.Metadata

/-!
# Resources — the lengths of labels and annotations

Of each label two lengths are asked, that of its key and that of its value as
messages show it. Of each annotation only the key is looked at: a key with a
slash is cut at the last one, and either side has a limit of its own. All that
is too long is reported, entry by entry in the order of the keys
(`checkLabels_eq_broken`, `checkAnnotations_eq_broken`).
-/

namespace DeployLint

namespace Resource

variable {r : Resource} {limits : NamingLimits} {subject : Subject}
variable {part key message text : String} {limit : Nat}

/-! ## Entries of the metadata -/

/-- What a part of the metadata holds; nothing if it is no mapping. -/
def metadataEntries (r : Resource) (part : String) : Fields Document :=
  match r.document.at? (.ofKeys ["metadata", part]) with
  | some (.mapping fields) => fields
  | _ => []

theorem getD_asMapping?_eq_metadataEntries (r : Resource) (part : String) :
    ((r.document.getPath? ["metadata", part]).bind Document.asMapping?).getD [] =
      r.metadataEntries part := by
  rw [metadataEntries, Document.at?_ofKeys]
  split
  · rename_i fields hpart
    rw [hpart]
    rfl
  · rename_i hother
    cases hpart : r.document.getPath? ["metadata", part] with
    | none => rfl
    | some node =>
      cases node with
      | scalar value => rfl
      | sequence items => rfl
      | mapping fields => exact absurd hpart (hother fields)

/-- The keys of a part ascend, where the document is one that was read. -/
theorem ascending_metadataEntries (h : r.document.Ordered) :
    (r.metadataEntries part).Ascending := by
  rw [metadataEntries]
  split
  · rename_i fields hpart
    cases h.of_at? hpart with
    | mapping hascending _ => exact hascending
  · exact List.Pairwise.nil

/-! ## What is asked -/

/-- A text of an entry of the metadata keeps a length; it is a warning at that
entry if it does not. Lengths count characters. -/
def lengthDemand (subject : Subject) (part key code message text : String) (limit : Nat) :
    Demand where
  finding :=
    { code, severity := .warning, subject, path := some s!"metadata.{part}.{key}", message }
  Kept := text.length ≤ limit

/-- What is asked of a label: of its key, then of its value, a scalar as it is
written and anything else as JSON. -/
def labelDemands (subject : Subject) (limits : NamingLimits) (key : String) (value : Document) :
    List Demand :=
  let demand := lengthDemand subject "labels" key
  [demand "KM1005" s!"Label key too long: {key}" key limits.label,
    demand "KM1006" s!"Label value too long: {value.text}" value.text limits.label]

/-- What is asked of the key of an annotation: of the domain before its last
slash, then of the name behind it; without a slash, of the key as a whole. -/
def annotationDemands (subject : Subject) (limits : NamingLimits) (key : String) : List Demand :=
  let demand := lengthDemand subject "annotations" key
  if '/' ∈ key.toList then
    let domain := Text.beforeLast '/' key
    let name := Text.behindLast '/' key
    [demand "KM1007" s!"Annotation prefix too long: {domain}" domain limits.annotationPrefix,
      demand "KM1008" s!"Annotation name too long: {name}" name limits.annotationName]
  else [demand "KM1009" s!"Annotation key too long: {key}" key limits.annotationName]

theorem annotationDemands_of_not_mem (h : '/' ∉ key.toList) :
    annotationDemands subject limits key =
      [lengthDemand subject "annotations" key "KM1009" s!"Annotation key too long: {key}" key
        limits.annotationName] :=
  if_neg h

/-- Further slashes belong to the domain, and either side may be empty. -/
theorem annotationDemands_of_append {domain name : String} (h : '/' ∉ name.toList)
    (hkey : key = domain ++ "/" ++ name) :
    annotationDemands subject limits key =
      [lengthDemand subject "annotations" key "KM1007" s!"Annotation prefix too long: {domain}"
          domain limits.annotationPrefix,
        lengthDemand subject "annotations" key "KM1008" s!"Annotation name too long: {name}" name
          limits.annotationName] := by
  have hcut : Text.cutLast? '/' key = some (domain, name) :=
    Text.cutLast?_eq_some_iff.2 ⟨by simp [hkey], h⟩
  have hmem : '/' ∈ key.toList := by
    rw [(Text.cutLast?_eq_some_iff.1 hcut).1]
    exact List.mem_append_right _ List.mem_cons_self
  obtain ⟨hbefore, hbehind⟩ :=
    Prod.mk.inj (Option.some.inj ((Text.cutLast?_of_mem hmem).symm.trans hcut))
  rw [annotationDemands, if_pos hmem, hbefore, hbehind]

/-! ## What is reported -/

/-- The path to an entry of the metadata. -/
theorem text_key_ofKeys (part key : String) :
    ((Path.ofKeys ["metadata", part]).key key).text = s!"metadata.{part}.{key}" := by
  rw [← String.toList_inj]
  simp [Path.ofKeys, Path.key, Path.child, Path.text, Path.stepText, ToString.toString]

/-- A length is compared, and what is too long is reported at its entry. -/
theorem broken_lengthDemand_cons {ds : List Demand} (rule : Rule) (code : String)
    (hcode : rule.code = code) :
    Demand.broken (lengthDemand r.subject part key code message text limit :: ds) =
      (if limit < text.length then
        [r.finding rule .warning ((Path.ofKeys ["metadata", part]).key key) message] else []) ++
      Demand.broken ds := by
  have hfinding : r.finding rule .warning ((Path.ofKeys ["metadata", part]).key key) message =
      (lengthDemand r.subject part key code message text limit).finding := by
    rw [finding, Finding.graded, Finding.atPath, text_key_ofKeys, hcode, lengthDemand]
  rw [Demand.broken_cons, hfinding]
  simp only [lengthDemand, ← Nat.not_lt, ite_not]

theorem checkLabel_eq_broken (r : Resource) (limits : NamingLimits) (key : String)
    (value : Document) :
    r.checkLabel limits key value = Demand.broken (labelDemands r.subject limits key value) := by
  rw [checkLabel, labelDemands, broken_lengthDemand_cons .labelKeyTooLong "KM1005" rfl,
    broken_lengthDemand_cons .labelValueTooLong "KM1006" rfl]
  exact congrArg _ (List.append_nil _).symm

theorem checkAnnotationKey_eq_broken (r : Resource) (limits : NamingLimits) (key : String) :
    r.checkAnnotationKey limits key = Demand.broken (annotationDemands r.subject limits key) := by
  rw [checkAnnotationKey]
  split
  · rename_i domain name hcut
    obtain ⟨hchars, hname⟩ := Text.cutLast?_eq_some_iff.1 hcut
    have hkey : key = domain ++ "/" ++ name := by
      rw [← String.toList_inj, hchars]
      simp
    rw [annotationDemands_of_append hname hkey,
      broken_lengthDemand_cons .annotationPrefixTooLong "KM1007" rfl,
      broken_lengthDemand_cons .annotationNameTooLong "KM1008" rfl]
    exact congrArg _ (List.append_nil _).symm
  · rename_i hcut
    rw [annotationDemands_of_not_mem (Text.cutLast?_eq_none_iff.1 hcut),
      broken_lengthDemand_cons .annotationKeyTooLong "KM1009" rfl]
    exact (List.append_nil _).symm

/-- **Labels are asked one after the other.** -/
theorem checkLabels_eq_broken (r : Resource) (limits : NamingLimits) :
    r.checkLabels limits = Demand.broken
      ((r.metadataEntries "labels").flatMap fun x => labelDemands r.subject limits x.1 x.2) := by
  rw [checkLabels, labels?, getD_asMapping?_eq_metadataEntries, Demand.broken_flatMap]
  exact List.flatMap_congr fun x _ => checkLabel_eq_broken r limits x.1 x.2

/-- **So are annotations**, of which only the keys are read. -/
theorem checkAnnotations_eq_broken (r : Resource) (limits : NamingLimits) :
    r.checkAnnotations limits = Demand.broken
      ((r.metadataEntries "annotations").names.flatMap (annotationDemands r.subject limits)) := by
  rw [checkAnnotations, annotations?, getD_asMapping?_eq_metadataEntries, Demand.broken_flatMap]
  exact List.flatMap_congr fun key _ => checkAnnotationKey_eq_broken r limits key

/-! ## The result -/

/-- **The findings on lengths are exact.** They are all that is broken of what
is asked of the labels, and of the annotations, entry by entry, whatever the
limits; the keys ascend where the document was read. A label is asked for its
key and then for its value. Of the key of an annotation, with what stands
before and behind its last slash, first the one is asked and then the other,
and a key without a slash as a whole. Resources whose annotations have the
same keys have the same findings, whatever their annotations hold. -/
theorem lengths_found_exactly (r : Resource) (limits : NamingLimits) :
    (r.checkLabels limits = Demand.broken
        ((r.metadataEntries "labels").flatMap fun x => labelDemands r.subject limits x.1 x.2) ∧
      r.checkAnnotations limits = Demand.broken
        ((r.metadataEntries "annotations").names.flatMap (annotationDemands r.subject limits))) ∧
    (∀ part, r.document.Ordered → (r.metadataEntries part).Ascending) ∧
    (∀ key, '/' ∉ key.toList → annotationDemands r.subject limits key =
      [lengthDemand r.subject "annotations" key "KM1009" s!"Annotation key too long: {key}" key
        limits.annotationName]) ∧
    (∀ domain name, '/' ∉ name.toList →
      let key := domain ++ "/" ++ name
      annotationDemands r.subject limits key =
        [lengthDemand r.subject "annotations" key "KM1007" s!"Annotation prefix too long: {domain}"
            domain limits.annotationPrefix,
          lengthDemand r.subject "annotations" key "KM1008" s!"Annotation name too long: {name}"
            name limits.annotationName]) ∧
    (∀ r' : Resource, r'.subject = r.subject →
      (r'.metadataEntries "annotations").names = (r.metadataEntries "annotations").names →
      r'.checkAnnotations limits = r.checkAnnotations limits) := by
  refine ⟨⟨checkLabels_eq_broken r limits, checkAnnotations_eq_broken r limits⟩,
    fun part => ascending_metadataEntries, fun key => annotationDemands_of_not_mem,
    fun domain name hname => annotationDemands_of_append hname rfl, fun r' hsubject hnames => ?_⟩
  rw [checkAnnotations_eq_broken, checkAnnotations_eq_broken, hsubject, hnames]

/-- A resource of labels and annotations. -/
def annotated (labels annotations : Fields Document) : Resource where
  subject := { artifact := "in" }
  document := .mapping
    [("metadata", .mapping [("annotations", .mapping annotations), ("labels", .mapping labels)])]

theorem ordered_annotated {labels annotations : Fields Document}
    (hlabels : (Document.mapping labels).Ordered)
    (hannotations : (Document.mapping annotations).Ordered) :
    (annotated labels annotations).document.Ordered := by
  have hkeys : "annotations" < "labels" := by decide
  refine .mapping (List.pairwise_singleton _ _) (List.forall_mem_singleton.2 ?_)
  exact .mapping (List.pairwise_pair.2 hkeys)
    (List.forall_mem_cons.2 ⟨hannotations, List.forall_mem_singleton.2 hlabels⟩)

/-- Labels of three characters that are more bytes, a list that is short only
as a list, and keys of annotations with two slashes, with a bare one and with none. -/
theorem lengths_found_exactly_slashes :
    let limits : NamingLimits := { label := 3, annotationPrefix := 2, annotationName := 1 }
    let labels : Fields Document :=
      [("app", .sequence [.string "x"]), ("h€é", .string "h€é"), ("tier", .scalar (.bool true))]
    let annotations (value : Document) : Fields Document :=
      [("/", value), ("a/b/cd", value), ("note", value)]
    let r := annotated labels (annotations .null)
    (Demand.broken ((r.metadataEntries "labels").flatMap
        fun x => labelDemands r.subject limits x.1 x.2)).map (fun f => (f.code, f.path, f.message)) =
      [("KM1006", some "metadata.labels.app", "Label value too long: [\"x\"]"),
        ("KM1005", some "metadata.labels.tier", "Label key too long: tier"),
        ("KM1006", some "metadata.labels.tier", "Label value too long: true")] ∧
    (r.checkAnnotations limits).map (fun f => (f.code, f.path, f.message)) =
      [("KM1007", some "metadata.annotations.a/b/cd", "Annotation prefix too long: a/b"),
        ("KM1008", some "metadata.annotations.a/b/cd", "Annotation name too long: cd"),
        ("KM1009", some "metadata.annotations.note", "Annotation key too long: note")] ∧
    (r.metadataEntries "labels").Ascending ∧
    (annotationDemands r.subject limits "note").length = 1 ∧
    (annotationDemands r.subject limits ("a/b" ++ "/" ++ "cd")).length = 2 ∧
    (annotated [] (annotations (.string "long"))).checkAnnotations limits =
      r.checkAnnotations limits := by
  intro limits labels annotations r
  obtain ⟨⟨hlabels, -⟩, hascending, hplain, hsplit, hvalues⟩ := lengths_found_exactly r limits
  have hordered : r.document.Ordered := by
    refine ordered_annotated (.mapping (by decide) ?_) (.mapping (by decide) ?_)
    · simp only [labels, List.forall_mem_cons]
      exact ⟨.sequence (List.forall_mem_singleton.2 (.scalar _)), .scalar _, .scalar _,
        List.forall_mem_nil _⟩
    · simp only [annotations, List.forall_mem_cons]
      exact ⟨.scalar _, .scalar _, .scalar _, List.forall_mem_nil _⟩
  refine ⟨?_, by decide, hascending "labels" hordered, ?_, ?_, hvalues _ rfl rfl⟩
  · rw [← hlabels]
    decide
  · rw [hplain "note" (by decide)]
    rfl
  · rw [hsplit "a/b" "cd" (by decide)]
    rfl

end Resource

end DeployLint
