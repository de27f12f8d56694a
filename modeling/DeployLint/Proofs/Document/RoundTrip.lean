import DeployLint.Proofs.Document.Reading
import DeployLint.Proofs.Json.RoundTrip

/-!
# Document — shown as JSON and read back

A mapping or a sequence is shown as one line of JSON, and reading that line
gives the document back (`parseJson_text`): the JSON value holds all of it,
and the names of a mapping, which ascend already, are put in the order that
they have. Doubles are the exception, since they need not be read as
written.
-/

namespace DeployLint

namespace Document

/-! ## Documents without doubles -/

/-- No leaf of the tree is a double. -/
inductive FloatFree : Document → Prop
  | scalar {value : Scalar} : (∀ x, value ≠ .float x) → FloatFree (.scalar value)
  | sequence {items : List Document} : (∀ d ∈ items, FloatFree d) → FloatFree (.sequence items)
  | mapping {fields : List (String × Document)} :
      (∀ f ∈ fields, FloatFree f.2) → FloatFree (.mapping fields)

mutual

/-- How deep the mappings and sequences of a tree nest. -/
def nesting : Document → Nat
  | .scalar _ => 0
  | .sequence items => nestingItems items + 1
  | .mapping fields => nestingFields fields + 1

def nestingItems : List Document → Nat
  | [] => 0
  | d :: ds => max d.nesting (nestingItems ds)

def nestingFields : List (String × Document) → Nat
  | [] => 0
  | (_, d) :: ds => max d.nesting (nestingFields ds)

end

end Document

namespace Json

/-! ## The JSON value of a document -/

/-- The value of a document without doubles can be read back. -/
theorem exact_ofDocument {d : Document} (h : d.FloatFree) : (ofDocument d).Exact := by
  induction h with
  | @scalar value h =>
    rw [ofDocument]
    cases value with
    | null => exact .null
    | bool value => exact .bool value
    | int value =>
      have hlow := value.le_toInt
      have hhigh := value.toInt_lt
      exact .int hlow (by omega)
    | float x => exact absurd rfl (h x)
    | string value => exact .string value
  | sequence _ ih =>
    rw [ofDocument, ofItems_eq_map]
    exact .array (List.forall_mem_map.2 ih)
  | mapping _ ih =>
    rw [ofDocument, ofFields_eq_map]
    exact .object (List.forall_mem_map.2 ih)

mutual

/-- The value of a document nests as deep as the document. -/
theorem nesting_ofDocument : ∀ d : Document, (ofDocument d).nesting = d.nesting
  | .scalar value => by
    cases value with
    | float x =>
      rw [ofDocument, ofScalar]
      split <;> rfl
    | _ => rfl
  | .sequence items => by
    rw [ofDocument, nesting, Document.nesting, nesting_ofItems items]
  | .mapping fields => by
    rw [ofDocument, nesting, Document.nesting, nesting_ofFields fields]

theorem nesting_ofItems : ∀ ds : List Document,
    nestingItems (ofItems ds) = Document.nestingItems ds
  | [] => rfl
  | d :: ds => by
    rw [ofItems, nestingItems, Document.nestingItems, nesting_ofDocument d, nesting_ofItems ds]

theorem nesting_ofFields : ∀ ds : List (String × Document),
    nestingMembers (ofFields ds) = Document.nestingFields ds
  | [] => rfl
  | (name, d) :: ds => by
    rw [ofFields, nestingMembers, Document.nestingFields, nesting_ofDocument d,
      nesting_ofFields ds]

end

theorem toDocument_ofScalar {value : Scalar} (h : ∀ x, value ≠ .float x) :
    toDocument (ofScalar value) = .scalar value := by
  cases value with
  | int value =>
    have hrange : -0x8000000000000000 ≤ value.toInt ∧ value.toInt < 0x8000000000000000 :=
      ⟨value.le_toInt, value.toInt_lt⟩
    rw [ofScalar, toDocument, Scalar.ofInt, if_pos hrange, Int64.ofInt_toInt]
  | float x => exact absurd rfl (h x)
  | _ => rfl

/-- **A document is the document of its own value.** -/
theorem toDocument_ofDocument {d : Document} (hd : d.Ordered) (h : d.FloatFree) :
    toDocument (ofDocument d) = d := by
  induction hd with
  | scalar value =>
    cases h with
    | scalar h => rw [ofDocument, toDocument_ofScalar h]
  | @sequence items _ ih =>
    cases h with
    | sequence h =>
      have hitems : (items.map ofDocument).map toDocument = items := by
        rw [List.map_map]
        exact (List.map_congr_left fun d hd => ih d hd (h d hd)).trans (List.map_id items)
      rw [ofDocument, ofItems_eq_map, toDocument, toItems_eq_map, hitems]
  | @mapping fields hnames _ ih =>
    cases h with
    | mapping h =>
      have hfields : (fields.map fun f => (f.1, ofDocument f.2)).map
          (fun m => (m.1, toDocument m.2)) = fields := by
        rw [List.map_map]
        refine (List.map_congr_left fun f hf => ?_).trans (List.map_id fields)
        exact congrArg (Prod.mk f.1) (ih f hf (h f hf))
      rw [ofDocument, ofFields_eq_map, toDocument, toFields_eq_map, hfields,
        Fields.ofPairs_eq_self hnames]

end Json

namespace Document

/-- **A mapping or a sequence without doubles is read back from its text**,
whatever its texts and names hold, as long as it nests at most 127 deep. -/
theorem parseJson_text {d : Document} (hd : d.Ordered) (hcontainer : ∀ value, d ≠ .scalar value)
    (hfloats : d.FloatFree) (hdepth : d.nesting ≤ 127) : parseJson d.text = .ok d := by
  have htext : d.text = (Json.ofDocument d).compact := by
    cases d with
    | scalar value => exact absurd rfl (hcontainer value)
    | _ => rfl
  have hread : Json.read (Json.ofDocument d).compact = .ok (Json.ofDocument d) := by
    refine Json.read_compact (Json.exact_ofDocument hfloats) ?_
    rw [Json.nesting_ofDocument]
    exact Nat.lt_succ_of_le hdepth
  rw [parseJson, htext, hread]
  exact congrArg Except.ok (Json.toDocument_ofDocument hd hfloats)

/-- A tree with an empty name and empty containers, characters that are
escaped and the least integer. -/
def edgeCases : Document :=
  .mapping [("", .sequence []), ("\x01\"\\\n",
    .sequence [.scalar (.int Int64.minValue), .null, .mapping [], .string "ü\x7f"])]

/-- The text of the tree has an escape for each of the four characters, and
gives the tree back. -/
theorem parseJson_text_edgeCases :
    edgeCases.text = "\x7b\"\":[],\"\\u0001\\\"\\\\\\n\":" ++
        "[-9223372036854775808,null,\x7b\x7d,\"ü\x7f\"]\x7d" ∧
      edgeCases.nesting = 3 ∧ parseJson edgeCases.text = .ok edgeCases := by
  have hordered : edgeCases.Ordered := by
    refine .mapping (by decide) (List.forall_mem_cons.2
      ⟨.sequence fun d hd => absurd hd List.not_mem_nil, List.forall_mem_singleton.2 ?_⟩)
    refine .sequence (List.forall_mem_cons.2 ⟨.scalar _, List.forall_mem_cons.2 ⟨.scalar _, ?_⟩⟩)
    refine List.forall_mem_cons.2 ⟨.mapping (by decide) ?_, List.forall_mem_singleton.2 (.scalar _)⟩
    exact fun f hf => absurd hf List.not_mem_nil
  have hfloats : edgeCases.FloatFree := by
    refine .mapping (List.forall_mem_cons.2
      ⟨.sequence fun d hd => absurd hd List.not_mem_nil, List.forall_mem_singleton.2 ?_⟩)
    refine .sequence (List.forall_mem_cons.2
      ⟨.scalar nofun, List.forall_mem_cons.2 ⟨.scalar nofun, ?_⟩⟩)
    refine List.forall_mem_cons.2 ⟨.mapping ?_, List.forall_mem_singleton.2 (.scalar nofun)⟩
    exact fun f hf => absurd hf List.not_mem_nil
  have hnesting : edgeCases.nesting = 3 := by decide
  refine ⟨by decide +kernel, hnesting, parseJson_text hordered nofun hfloats ?_⟩
  rw [hnesting]
  decide

end Document

end DeployLint
