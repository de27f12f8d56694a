import DeployLint.Document.Reading
import DeployLint.Proofs.Json.RoundTrip
import DeployLint.Proofs.Steps
import DeployLint.Report.Format

/-!
# Reports — what a reader of the JSON form gets

A report without totals is written as a record of its counts and of one
record for each finding. Reading the text gives exactly these mappings,
`Report.document`, and two reports that are written alike are alike in all
that they hold (`parseJson_format_json`).
-/

namespace DeployLint

/-! ## Values that may be absent -/

namespace Json

variable {α : Type} {toJson : α → Json} {o o' : Option α}

theorem exact_natCast {n : Nat} (hn : n < 2 ^ 64) : (Json.int n).Exact :=
  .int (by omega) (by omega)

theorem exact_orNull (h : ∀ a ∈ o, (toJson a).Exact) : (orNull toJson o).Exact := by
  cases o with
  | none => exact .null
  | some a => exact h a rfl

theorem nesting_orNull (h : ∀ a, (toJson a).nesting = 0) : (orNull toJson o).nesting = 0 := by
  cases o with
  | none => rfl
  | some a => exact h a

theorem toDocument_orNull :
    (orNull toJson o).toDocument = (o.map fun a => (toJson a).toDocument).getD .null := by
  cases o <;> rfl

/-- Where no value is written as null, null tells that there is none. -/
theorem orNull_inj (hinj : ∀ a b, toJson a = toJson b → a = b) (hnull : ∀ a, toJson a ≠ .null)
    (h : orNull toJson o = orNull toJson o') : o = o' := by
  cases o with
  | none =>
    cases o' with
    | none => rfl
    | some b => exact absurd h.symm (hnull b)
  | some a =>
    cases o' with
    | none => exact absurd h (hnull a)
    | some b => exact congrArg some (hinj a b h)

end Json

/-! ## The documents of findings and reports -/

/-- A number of a report, as the integer that it is below `2 ^ 63`. -/
def Document.number (n : Nat) : Document := .scalar (.int (Int64.ofNat n))

theorem Json.toDocument_natCast {n : Nat} (hn : n < 2 ^ 63) :
    (Json.int n).toDocument = .number n := by
  have hrange : -0x8000000000000000 ≤ (n : Int) ∧ (n : Int) < 0x8000000000000000 := by omega
  rw [Json.toDocument, Scalar.ofInt, if_pos hrange]
  rfl

/-- The mapping of a finding. What is absent is null, and so is the category
of a code that has none. -/
def Finding.document (f : Finding) : Document :=
  .mapping
    [("artifact", .string f.subject.artifact),
      ("category", (f.category?.map fun c => .string c.title).getD .null),
      ("code", .string f.code),
      ("document", (f.subject.document.map .number).getD .null),
      ("line", (f.line.map fun n => .number n.toNat).getD .null),
      ("message", .string f.message),
      ("path", (f.path.map .string).getD .null),
      ("severity", .string f.severity.text)]

/-- The mapping of a report without totals: its counts, and the mappings of
its findings in order. -/
def Report.document (r : Report) : Document :=
  .mapping
    [("error_count", .number r.tally.errors),
      ("findings", .sequence (r.findings.map Finding.document)),
      ("info_count", .number r.tally.infos),
      ("warning_count", .number r.tally.warnings)]

/-- The position of a finding's document is below a bound. The number of its
line has thirty-two bits, so it needs none. -/
def Finding.Below (bound : Nat) (f : Finding) : Prop := ∀ n ∈ f.subject.document, n < bound

/-- The numbers of a report are below a bound. -/
structure Report.Below (bound : Nat) (r : Report) : Prop where
  errors : r.tally.errors < bound
  warnings : r.tally.warnings < bound
  infos : r.tally.infos < bound
  findings : ∀ f ∈ r.findings, f.Below bound

/-! ## Findings -/

namespace Finding

/-- The record of a finding can be read back. -/
theorem exact_toRecord {f : Finding} (h : f.Below (2 ^ 64)) : f.toRecord.Exact := by
  refine .object ?_
  simp only [List.forall_mem_cons, List.not_mem_nil, false_implies, implies_true, and_true]
  exact ⟨.string _, .string _, Json.exact_orNull fun _ _ => .string _, .string _,
    Json.exact_orNull fun n hn => Json.exact_natCast (h n hn),
    Json.exact_orNull fun _ _ => .string _,
    Json.exact_orNull fun n _ => Json.exact_natCast (n.toNat_lt.trans (by decide)), .string _⟩

/-- The members of a finding's record are leaves. -/
theorem nesting_toRecord (f : Finding) : f.toRecord.nesting = 1 := by
  have hstring {α : Type} (text : α → String) (o : Option α) :
      (Json.orNull (fun a => Json.string (text a)) o).nesting = 0 :=
    Json.nesting_orNull fun _ => rfl
  have hnumber {α : Type} (number : α → Nat) (o : Option α) :
      (Json.orNull (fun a => Json.int (number a)) o).nesting = 0 :=
    Json.nesting_orNull fun _ => rfl
  simp only [toRecord, Json.nesting, Json.nestingMembers, hstring, hnumber fun n => n,
    hnumber UInt32.toNat, Nat.max_self]

theorem toDocument_toRecord {f : Finding} (h : f.Below (2 ^ 63)) :
    f.toRecord.toDocument = f.document := by
  have hnumber {α : Type} (number : α → Nat) (o : Option α) (ho : ∀ a ∈ o, number a < 2 ^ 63) :
      (Json.orNull (fun a => Json.int (number a)) o).toDocument =
        (o.map fun a => .number (number a)).getD .null := by
    rw [Json.toDocument_orNull, Option.map_congr fun a ha => Json.toDocument_natCast (ho a ha)]
  have hline : ∀ n ∈ f.line, n.toNat < 2 ^ 63 := fun n _ => n.toNat_lt.trans (by decide)
  simp only [toRecord, Json.toDocument, Json.toFields, Json.toDocument_orNull,
    hnumber (fun n => n) _ h, hnumber UInt32.toNat _ hline, Fields.ofPairs, List.foldl_cons, List.foldl_nil,
    Fields.insert, String.reduceLT, String.reduceEq, if_true, if_false]
  rfl

/-- A finding is known by its record. -/
theorem toRecord_injective {f g : Finding} (h : f.toRecord = g.toRecord) : f = g := by
  obtain ⟨code, severity, ⟨artifact, document⟩, path, line, message⟩ := f
  obtain ⟨code', severity', ⟨artifact', document'⟩, path', line', message'⟩ := g
  simp only [toRecord, Json.object.injEq, List.cons.injEq, Prod.mk.injEq, true_and, and_true,
    Json.string.injEq] at h
  obtain ⟨rfl, hseverity, -, rfl, hdocument, hpath, hline, rfl⟩ := h
  have hnumber : ∀ m n : Nat, Json.int m = Json.int n → m = n :=
    fun m n h => Int.ofNat.inj (Json.int.inj h)
  have hstring : ∀ a b : String, Json.string a = Json.string b → a = b :=
    fun a b h => Json.string.inj h
  obtain rfl := Json.orNull_inj hnumber nofun hdocument
  obtain rfl := Json.orNull_inj hstring nofun hpath
  obtain rfl := Json.orNull_inj
    (fun m n h => UInt32.toNat_inj.1 (hnumber m.toNat n.toNat h)) nofun hline
  obtain rfl : severity = severity' := by
    cases severity <;> cases severity' <;> first | rfl | exact absurd hseverity (by decide)
  rfl

end Finding

/-! ## Reports -/

namespace Report

theorem toRecord_of_no_totals {r : Report} (htotals : r.totals = none) :
    r.toRecord = .object
      [("error_count", .int r.tally.errors), ("warning_count", .int r.tally.warnings),
        ("info_count", .int r.tally.infos),
        ("findings", .array (r.findings.map Finding.toRecord))] := by
  rw [toRecord, htotals]
  rfl

/-- The record of a report can be read back. -/
theorem exact_toRecord {r : Report} (htotals : r.totals = none) (hr : r.Below (2 ^ 64)) :
    r.toRecord.Exact := by
  have hfindings : ∀ j ∈ r.findings.map Finding.toRecord, j.Exact :=
    List.forall_mem_map.2 fun f hf => Finding.exact_toRecord (hr.findings f hf)
  rw [toRecord_of_no_totals htotals]
  refine .object ?_
  simp only [List.forall_mem_cons, List.not_mem_nil, false_implies, implies_true, and_true]
  exact ⟨Json.exact_natCast hr.errors, Json.exact_natCast hr.warnings, Json.exact_natCast hr.infos,
    .array hfindings⟩

/-- The record of a report nests three deep at most. -/
theorem nesting_toRecord {r : Report} (htotals : r.totals = none) : r.toRecord.nesting ≤ 3 := by
  have hitems : Json.nestingItems (r.findings.map Finding.toRecord) ≤ 1 :=
    Json.nestingItems_le (List.forall_mem_map.2 fun f _ => Nat.le_of_eq f.nesting_toRecord)
  rw [toRecord_of_no_totals htotals]
  simp only [Json.nesting, Json.nestingMembers]
  omega

theorem toDocument_toRecord {r : Report} (htotals : r.totals = none) (hr : r.Below (2 ^ 63)) :
    r.toRecord.toDocument = r.document := by
  have hfindings : (Json.array (r.findings.map Finding.toRecord)).toDocument =
      .sequence (r.findings.map Finding.document) := by
    rw [Json.toDocument, Json.toItems_eq_map, List.map_map]
    exact congrArg Document.sequence
      (List.map_congr_left fun f hf => Finding.toDocument_toRecord (hr.findings f hf))
  rw [toRecord_of_no_totals htotals, Json.toDocument]
  simp only [Json.toFields, Json.toDocument_natCast hr.errors, Json.toDocument_natCast hr.warnings,
    Json.toDocument_natCast hr.infos, hfindings, Fields.ofPairs, List.foldl_cons, List.foldl_nil,
    Fields.insert, String.reduceLT, String.reduceEq, if_true, if_false]
  rfl

/-- A report without totals is known by its record. -/
theorem toRecord_inj {r r' : Report} (htotals : r.totals = none) (htotals' : r'.totals = none)
    (h : r.toRecord = r'.toRecord) : r.tally = r'.tally ∧ r.findings = r'.findings := by
  rw [toRecord_of_no_totals htotals, toRecord_of_no_totals htotals'] at h
  obtain ⟨findings, ⟨errors, warnings, infos⟩, totals⟩ := r
  obtain ⟨findings', ⟨errors', warnings', infos'⟩, totals'⟩ := r'
  simp only [Json.object.injEq, List.cons.injEq, Prod.mk.injEq, true_and, and_true,
    Json.int.injEq, Int.natCast_inj, Json.array.injEq] at h
  obtain ⟨rfl, rfl, rfl, hfindings⟩ := h
  exact ⟨rfl, List.map_injective_iff.2 @Finding.toRecord_injective hfindings⟩

theorem read_format_json {r : Report} (htotals : r.totals = none) (hr : r.Below (2 ^ 64)) :
    Json.read (r.format .json) = .ok r.toRecord :=
  Json.read_pretty (exact_toRecord htotals hr)
    (Nat.lt_of_le_of_lt (nesting_toRecord htotals) (by decide))

/-- **The JSON form of a report loses nothing.** A report without totals,
whose numbers are machine words, is told by its JSON form but for its
totals; where the numbers fit integers, reading the form gives the mapping
of the report. -/
theorem parseJson_format_json {r : Report} (htotals : r.totals = none) (hr : r.Below (2 ^ 64)) :
    (r.Below (2 ^ 63) → Document.parseJson (r.format .json) = .ok r.document) ∧
      ∀ r' : Report, r'.totals = none → r'.Below (2 ^ 64) → r'.format .json = r.format .json →
        r'.tally = r.tally ∧ r'.findings = r.findings := by
  have hread := read_format_json htotals hr
  constructor
  · intro hsmall
    rw [Document.parseJson, hread]
    exact congrArg Except.ok (toDocument_toRecord htotals hsmall)
  · intro r' htotals' hr' hformat
    have hread' := read_format_json htotals' hr'
    rw [hformat, hread] at hread'
    exact toRecord_inj htotals' htotals (Except.ok.inj hread').symm

/-- A report with a quotation mark, a line break and a backslash in its
texts, a code without a category and numbers that are absent. -/
def escapedReport (detail : String) : Report where
  findings :=
    [{ code := "KM1001", severity := .error, subject := ⟨"a\"b.yaml", some 3⟩,
       path := some "metadata.name", message := "one\n" ++ detail },
     { code := "ZZ", severity := .info, subject := ⟨"", none⟩, line := some 7, message := "\\" }]
  tally := { errors := 1, infos := 1 }

/-- The report is read back, and another one is written in another way. -/
theorem parseJson_format_json_escaped :
    Document.parseJson ((escapedReport "two").format .json) =
        .ok (escapedReport "two").document ∧
      (escapedReport "\\").format .json ≠ (escapedReport "two").format .json := by
  have hbelow : ∀ bound : Nat, 7 < bound → ∀ detail, (escapedReport detail).Below bound := by
    intro bound hbound detail
    have hsmall : ∀ n : Nat, n ≤ 7 → n < bound := fun n hn => Nat.lt_of_le_of_lt hn hbound
    refine ⟨hsmall 1 (by decide), hsmall 0 (by decide), hsmall 1 (by decide), ?_⟩
    refine List.forall_mem_cons.2 ⟨?_, List.forall_mem_singleton.2 nofun⟩
    rintro n ⟨⟩
    exact hsmall 3 (by decide)
  obtain ⟨hread, hknown⟩ := @parseJson_format_json (escapedReport "two") rfl
    (hbelow _ (by decide) _)
  refine ⟨hread (hbelow _ (by decide) _), fun hformat => ?_⟩
  have hfindings := (hknown (escapedReport "\\") rfl (hbelow _ (by decide) _) hformat).2
  exact absurd hfindings (by decide)

end Report

end DeployLint
