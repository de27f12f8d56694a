import DeployLint.Document.Reading
import DeployLint.Proofs.Document.Order
import DeployLint.Proofs.Steps

/-!
# Document — what reading gives is ordered

A map is built by setting one name after another, and `insert` keeps the
names ascending. Hence every document that is read, from YAML or from JSON,
is `Ordered`, whatever the order of the names in the text.
-/

namespace DeployLint

/-- A map of pairs with ordered values is an ordered document. -/
theorem Document.Ordered.mapping_ofPairs {pairs : List (String × Document)}
    (h : ∀ f ∈ pairs, f.2.Ordered) : (Document.mapping (Fields.ofPairs pairs)).Ordered :=
  .mapping (Fields.ofPairs_spec pairs).1 fun f hf => h f ((Fields.ofPairs_spec pairs).2 f hf)

/-! ## From values to documents -/

namespace Json

mutual

/-- The document of a JSON value is ordered. -/
theorem ordered_toDocument : ∀ j : Json, j.toDocument.Ordered
  | .null => .scalar .null
  | .bool value => .scalar (.bool value)
  | .int value => .scalar (.ofInt value)
  | .float value => .scalar (.float value)
  | .string value => .scalar (.string value)
  | .array items => .sequence (ordered_toItems items)
  | .object members => .mapping_ofPairs (ordered_toFields members)

theorem ordered_toItems : ∀ js : List Json, ∀ d ∈ toItems js, d.Ordered
  | [] => fun _ hd => (nomatch hd)
  | j :: js => List.forall_mem_cons.2 ⟨ordered_toDocument j, ordered_toItems js⟩

theorem ordered_toFields : ∀ js : List (String × Json), ∀ f ∈ toFields js, f.2.Ordered
  | [] => fun _ hf => (nomatch hf)
  | (_, j) :: js => List.forall_mem_cons.2 ⟨ordered_toDocument j, ordered_toFields js⟩

end

end Json

namespace Yaml.Value

mutual

/-- The document of a YAML value is ordered. -/
theorem ordered_toDocument : ∀ v : Value, v.toDocument.Ordered
  | .null => .scalar .null
  | .bool b => .scalar (.bool b)
  | .int n => .scalar (.ofInt n)
  | .float x => .scalar (.float x)
  | .string s => .scalar (.string s)
  | .sequence vs => .sequence (ordered_toDocuments vs)
  | .mapping ps => .mapping_ofPairs (ordered_toFields ps)
  | .tagged _ v => ordered_toDocument v

theorem ordered_toDocuments : ∀ vs : List Value, ∀ d ∈ toDocuments vs, d.Ordered
  | [] => fun _ hd => (nomatch hd)
  | v :: vs => List.forall_mem_cons.2 ⟨ordered_toDocument v, ordered_toDocuments vs⟩

theorem ordered_toFields : ∀ ps : List (Value × Value), ∀ f ∈ toFields ps, f.2.Ordered
  | [] => fun _ hf => (nomatch hf)
  | (_, v) :: ps => List.forall_mem_cons.2 ⟨ordered_toDocument v, ordered_toFields ps⟩

end

end Yaml.Value

/-! ## Readings -/

namespace Yaml

/-- Reads the value of a text that is a single document. -/
def readValue (text : String) : Except Fault Value :=
  match rawDocumentsOf text with
  | [] => .ok .null
  | d :: rest => do
    let v ← d.compose
    if rest.isEmpty then pure v else throw .severalDocuments

/-- Reading a text is reading its value. -/
theorem read_eq_map_readValue (text : String) :
    read text = (readValue text).map Value.toDocument := by
  rw [read, readValue]
  cases rawDocumentsOf text with
  | nil => rfl
  | cons d rest =>
    dsimp only
    cases d.compose with
    | error f => rfl
    | ok v =>
      cases rest with
      | nil => rfl
      | cons _ _ => rfl

end Yaml

namespace Document

/-- The document of a text is that of its value. -/
theorem parse_eq_ok_iff {text : String} {d : Document} :
    parse text = .ok d ↔ ∃ v, Yaml.readValue text = .ok v ∧ v.toDocument = d := by
  rw [parse, mapError_eq_ok_iff, Yaml.read_eq_map_readValue, map_eq_ok_iff]

/-- **The documents of a stream are those of its raw documents**, each from
the value that it composes to. -/
theorem parseStream_eq_ok_iff {text : String} {ds : List Document} :
    parseStream text = .ok ds ↔
      List.Forall₂ (fun raw d => ∃ v, raw.compose = .ok v ∧ v.toDocument = d)
        (Yaml.rawDocumentsOf text) ds := by
  rw [parseStream, mapError_eq_ok_iff, Yaml.readStream, mapM_eq_ok_iff]
  simp only [map_eq_ok_iff]

/-- **Every document of a stream is ordered.** -/
theorem ordered_of_mem_parseStream {text : String} {ds : List Document}
    (h : parseStream text = .ok ds) : ∀ d ∈ ds, d.Ordered := by
  have hread : List.Forall₂ (fun d (_ : Yaml.RawDocument) => d.Ordered ∧ True) ds
      (Yaml.rawDocumentsOf text) := by
    refine ((parseStream_eq_ok_iff.1 h).imp ?_).flip
    rintro raw d ⟨v, -, rfl⟩
    exact ⟨v.ordered_toDocument, trivial⟩
  exact ((List.forall₂_and_left ds _).1 hread).1

/-- A text that is a single YAML document gives an ordered one. -/
theorem ordered_of_parse {text : String} {d : Document} (h : parse text = .ok d) : d.Ordered := by
  obtain ⟨v, -, rfl⟩ := parse_eq_ok_iff.1 h
  exact v.ordered_toDocument

/-- A text that is a single JSON document gives an ordered one. -/
theorem ordered_of_parseJson {text : String} {d : Document} (h : parseJson text = .ok d) :
    d.Ordered := by
  obtain ⟨j, -, rfl⟩ := map_eq_ok_iff.1 (mapError_eq_ok_iff.1 h)
  exact j.ordered_toDocument

/-- **Every document of a file is ordered**, whatever its format. -/
theorem ordered_of_mem_parseFile {name : String} {content : Option ByteArray} {ds : List Document}
    (h : parseFile name content = .ok ds) : ∀ d ∈ ds, d.Ordered := by
  obtain ⟨text, -, hread⟩ := bind_eq_ok_iff.1 h
  split at hread
  · obtain ⟨d, hjson, hd⟩ := bind_eq_ok_iff.1 hread
    obtain rfl := Except.ok.inj hd
    exact List.forall_mem_singleton.2 (ordered_of_parseJson hjson)
  · exact ordered_of_mem_parseStream hread

end Document

end DeployLint
