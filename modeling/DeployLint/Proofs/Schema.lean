import Mathlib.Data.List.Flatten
import DeployLint.Proofs.Document.Places
import DeployLint.Proofs.Finding.Demands
import DeployLint.Proofs.Text.Cutting
import DeployLint.Schema

/-!
# Schemas — what a schema asks for

A value is compared with the type that a schema asks for case by case, and its
type is named case by case in the message. The two agree on every value
(`isOfType?_eq`), so a mismatch is never reported with the type that was asked
for (`message_typeDemand_ne`). What is reported is what is broken of a
list of demands, one of each required name and one of each property that the
data has (`check_eq_broken`); a schema that asks for more has a longer list.
-/

namespace DeployLint

namespace Schema

variable {data schema more value : Document} {subject : Subject} {name type : String}

/-! ## Types -/

/-- The types that a schema may ask for. -/
def knownTypes : List String := ["string", "number", "boolean", "array", "object"]

/-- **A value is of a known type exactly where that is the name of its own.** -/
theorem isOfType?_eq (value : Document) (type : String) :
    isOfType? value type =
      if type ∈ knownTypes then some (value.typeName == type) else none := by
  -- the known types against the shapes of a value
  have hcases : ∀ known ∈ knownTypes, isOfType? value known = some (value.typeName == known) := by
    simp only [knownTypes, List.forall_mem_cons]
    cases value with
    | scalar value =>
      cases value <;> exact ⟨rfl, rfl, rfl, rfl, rfl, List.forall_mem_nil _⟩
    | sequence items => exact ⟨rfl, rfl, rfl, rfl, rfl, List.forall_mem_nil _⟩
    | mapping fields => exact ⟨rfl, rfl, rfl, rfl, rfl, List.forall_mem_nil _⟩
  split
  · rename_i hknown
    exact hcases type hknown
  · rename_i hunknown
    unfold isOfType?
    split
    case h_6 => rfl
    all_goals exact absurd (by decide) hunknown

theorem isOfType?_eq_some_false_iff :
    isOfType? value type = some false ↔ ¬ (type ∈ knownTypes → value.typeName = type) := by
  rw [isOfType?_eq, Classical.not_imp]
  split
  · rename_i hknown
    rw [and_iff_right hknown, Option.some.injEq, beq_eq_false_iff_ne]
  · rename_i hunknown
    exact iff_of_false (fun h => nomatch h) fun h => hunknown h.1

/-- The name of a type is a known one, but for the empty leaf's. -/
theorem typeName_mem (value : Document) : value.typeName ∈ "null" :: knownTypes := by
  cases value with
  | scalar value => cases value <;> simp [Document.typeName, knownTypes]
  | sequence items => simp [Document.typeName, knownTypes]
  | mapping fields => simp [Document.typeName, knownTypes]

/-- The names of types are words. -/
theorem blank_not_mem_of_mem (h : type ∈ "null" :: knownTypes) : ' ' ∉ type.toList := by
  have hall : ∀ known ∈ "null" :: knownTypes, ' ' ∉ known.toList := by decide
  exact hall type h

/-! ## What a schema says -/

theorem mem_requiredNames_iff : name ∈ requiredNames schema ↔
    ∃ items, schema.get? "required" = some (.sequence items) ∧ .string name ∈ items := by
  rw [requiredNames]
  cases schema.get? "required" with
  | none => simp
  | some node => simp [Document.mem_stringItems_iff]

theorem mem_properties_iff {x : String × Document} : x ∈ properties schema ↔
    ∃ fields, schema.get? "properties" = some (.mapping fields) ∧ x ∈ fields := by
  rw [properties]
  cases schema.get? "properties" with
  | none => simp
  | some node => cases node <;> simp [Document.asMapping?]

/-- The properties of an ordered schema stand in the order of their names. -/
theorem ascending_properties (h : schema.Ordered) : (properties schema).Ascending := by
  rw [properties]
  cases hnode : schema.get? "properties" with
  | none => exact List.Pairwise.nil
  | some node =>
    have hstep : schema.step? (.key "properties") = some node := hnode
    cases h.child ((Document.step?_eq_some_iff h).1 hstep) with
    | scalar value => exact List.Pairwise.nil
    | sequence _ => exact List.Pairwise.nil
    | mapping hascending _ => exact hascending

/-! ## Demands of a schema -/

/-- A required name is a key. -/
def requiredDemands (data schema : Document) (subject : Subject) : List Demand :=
  (requiredNames schema).map fun name =>
    .error subject "JS1001" (.ofKeys [name]) s!"Missing required field: {name}"
      (data.hasKey name = true)

/-- A value is of the type that its property asks for, if that is a known one. -/
def typeDemand (subject : Subject) (name type : String) (value : Document) : Demand :=
  .error subject "JS1002" (.ofKeys [name]) s!"Field {name} should be {type}, got {value.typeName}"
    (type ∈ knownTypes → value.typeName = type)

/-- What a property asks for, where the data has it. -/
def propertyDemands (data : Document) (subject : Subject) (x : String × Document) : List Demand :=
  match data.get? x.1, x.2.get? "type" with
  | some value, some (.scalar (.string type)) => [typeDemand subject x.1 type value]
  | _, _ => []

/-- All that a schema asks for: what is required in the order of its list, and
what is of a type in the order of the properties. -/
def demands (data schema : Document) (subject : Subject) : List Demand :=
  requiredDemands data schema subject ++
    (properties schema).flatMap (propertyDemands data subject)

theorem checkRequired_eq_broken (data schema : Document) (subject : Subject) :
    checkRequired data schema subject = Demand.broken (requiredDemands data schema subject) := by
  rw [requiredDemands, Demand.broken_map_error_bool]
  rfl

theorem checkProperty_eq_broken (data : Document) (subject : Subject) (x : String × Document) :
    checkProperty data subject x.1 x.2 = Demand.broken (propertyDemands data subject x) := by
  rw [checkProperty, propertyDemands]
  cases data.get? x.1 with
  | none => rfl
  | some value =>
    cases x.2.get? "type" with
    | none => rfl
    | some node =>
      cases node with
      | sequence items => rfl
      | mapping fields => rfl
      | scalar type =>
        cases type with
        | string type =>
          simp only [Option.bind_some, Document.asString?, isOfType?_eq_some_false_iff, ite_not]
          exact (Demand.broken_error ..).symm
        | null => rfl
        | bool b => rfl
        | int n => rfl
        | float y => rfl

/-- **The check asks for this and reports all that is broken.** -/
theorem check_eq_broken (data schema : Document) (subject : Subject) :
    check data schema subject = Demand.broken (demands data schema subject) := by
  rw [check, demands, Demand.broken_append, Demand.broken_flatMap, checkRequired_eq_broken]
  exact congrArg _ (List.flatMap_congr fun x _ => checkProperty_eq_broken data subject x)

theorem mem_propertyDemands_iff {x : String × Document} {d : Demand} :
    d ∈ propertyDemands data subject x ↔ ∃ value type, data.get? x.1 = some value ∧
      x.2.get? "type" = some (.string type) ∧ d = typeDemand subject x.1 type value := by
  unfold propertyDemands
  split
  · rename_i value type hvalue htype
    simp only [List.mem_singleton, hvalue, htype, Document.string, Option.some.injEq,
      Document.scalar.injEq, Scalar.string.injEq, exists_eq_left', exists_and_left]
  · rename_i hother
    refine iff_of_false List.not_mem_nil ?_
    rintro ⟨value, type, hvalue, htype, -⟩
    exact hother value type hvalue htype

/-! ## Data that keeps a schema -/

/-- Data that has every required field, and where it has a property of a known
type, a value of that type. -/
structure Keeps (data schema : Document) : Prop where
  required : ∀ items, schema.get? "required" = some (.sequence items) →
    ∀ name, .string name ∈ items → data.hasKey name = true
  types : ∀ fields, schema.get? "properties" = some (.mapping fields) →
    ∀ name property, (name, property) ∈ fields →
      ∀ value type, data.get? name = some value → property.get? "type" = some (.string type) →
        type ∈ knownTypes → value.typeName = type

theorem kept_requiredDemands_iff : (∀ d ∈ requiredDemands data schema subject, d.Kept) ↔
    ∀ items, schema.get? "required" = some (.sequence items) →
      ∀ name, .string name ∈ items → data.hasKey name = true := by
  rw [requiredDemands, List.forall_mem_map]
  constructor
  · intro h items hitems name hname
    exact h name (mem_requiredNames_iff.2 ⟨items, hitems, hname⟩)
  · intro h name hname
    obtain ⟨items, hitems, hitem⟩ := mem_requiredNames_iff.1 hname
    exact h items hitems name hitem

theorem kept_propertyDemands_iff {x : String × Document} :
    (∀ d ∈ propertyDemands data subject x, d.Kept) ↔
      ∀ value type, data.get? x.1 = some value → x.2.get? "type" = some (.string type) →
        type ∈ knownTypes → value.typeName = type := by
  constructor
  · intro h value type hvalue htype
    exact h _ (mem_propertyDemands_iff.2 ⟨value, type, hvalue, htype, rfl⟩)
  · intro h d hd
    obtain ⟨value, type, hvalue, htype, rfl⟩ := mem_propertyDemands_iff.1 hd
    exact h value type hvalue htype

/-- **All is kept exactly by data that keeps the schema.** -/
theorem kept_demands_iff : (∀ d ∈ demands data schema subject, d.Kept) ↔ Keeps data schema := by
  rw [demands, List.forall_mem_append, kept_requiredDemands_iff, List.forall_mem_flatMap]
  simp only [kept_propertyDemands_iff]
  constructor
  · rintro ⟨hrequired, htypes⟩
    refine ⟨hrequired, fun fields hfields name property hmem => ?_⟩
    exact htypes (name, property) (mem_properties_iff.2 ⟨fields, hfields, hmem⟩)
  · rintro ⟨hrequired, htypes⟩
    refine ⟨hrequired, fun x hx => ?_⟩
    obtain ⟨fields, hfields, hmem⟩ := mem_properties_iff.1 hx
    exact htypes fields hfields x.1 x.2 hmem

/-! ## Messages -/

/-- **A mismatch is never reported with the same type twice**: what was asked
for and what was found are each the last word of what stands in front. -/
theorem message_typeDemand_ne {left word : String}
    (hbroken : ¬ (typeDemand subject name type value).Kept) (hword : ' ' ∉ word.toList) :
    (typeDemand subject name type value).finding.message ≠
      left ++ " should be " ++ word ++ ", got " ++ word := by
  obtain ⟨hknown, hne⟩ := Classical.not_imp.1 hbroken
  -- both words stand behind a blank, whatever is in front
  have hblank : ∀ before : String,
      (∀ c ∈ (before ++ " should be ").toList.getLast?, c = ' ') ∧
      (∀ c ∈ (before ++ ", got ").toList.getLast?, c = ' ') := fun before => by simp
  intro hmessage
  obtain ⟨hfront, hfound⟩ := Text.append_inj_of_behindLast (hblank _).2
    (blank_not_mem_of_mem (typeName_mem value)) (hblank _).2 hword hmessage
  obtain ⟨-, hasked⟩ := Text.append_inj_of_behindLast (hblank _).1
    (blank_not_mem_of_mem (List.mem_cons_of_mem _ hknown)) (hblank _).1 hword
    ((String.append_left_inj _).1 hfront)
  exact hne (hfound.trans hasked.symm)

/-! ## Schemas that ask for more -/

/-- A schema that asks for all that another asks for, in the same order, and
for other required names and other properties between. -/
structure Extends (schema more : Document) : Prop where
  required : (requiredNames schema).Sublist (requiredNames more)
  properties : (Schema.properties schema).Sublist (Schema.properties more)

theorem Extends.demands_sublist (h : Extends schema more) :
    (demands data schema subject).Sublist (demands data more subject) :=
  (h.required.map _).append (h.properties.flatMap _)

/-- **The check of a schema is sound and complete.** It reports nothing exactly
where the data keeps the schema. In every case it reports the required names
that are no keys, in the order of their list and as often as it has them, and
then the properties of another type, which stand in the order of their names in
a schema that is ordered. No finding of a type says that something should be of
the type that it is of, and a schema that asks for more takes no finding
away. -/
theorem check_finds_mismatches (data schema : Document) (subject : Subject) :
    (check data schema subject = [] ↔ Keeps data schema) ∧
    check data schema subject = Demand.broken (requiredDemands data schema subject ++
      (properties schema).flatMap (propertyDemands data subject)) ∧
    (schema.Ordered → (properties schema).Ascending) ∧
    (∀ f ∈ check data schema subject, f.code = "JS1002" →
      ∀ left word, ' ' ∉ word.toList →
        f.message ≠ left ++ " should be " ++ word ++ ", got " ++ word) ∧
    ∀ more, Extends schema more →
      (check data schema subject).Sublist (check data more subject) := by
  refine ⟨?accepts, check_eq_broken data schema subject, ascending_properties, ?messages, ?more⟩
  case accepts => rw [check_eq_broken, Demand.broken_eq_nil_iff, kept_demands_iff]
  case messages =>
    intro f hf hcode left word hword
    rw [check_eq_broken] at hf
    obtain ⟨d, hd, hbroken, rfl⟩ := Demand.mem_broken_iff.1 hf
    rcases List.mem_append.1 hd with hrequired | hproperty
    · obtain ⟨name, -, rfl⟩ := List.mem_map.1 hrequired
      exact absurd hcode (by decide : "JS1001" ≠ "JS1002")
    · obtain ⟨x, -, hx⟩ := List.mem_flatMap.1 hproperty
      obtain ⟨value, type, -, -, rfl⟩ := mem_propertyDemands_iff.1 hx
      exact message_typeDemand_ne hbroken hword
  case more =>
    intro more hmore
    rw [check_eq_broken, check_eq_broken]
    exact Demand.broken_sublist hmore.demands_sublist

/-- A schema of required names and of properties with a type each. -/
def asking (required : List Document) (types : List (String × String)) : Document :=
  .mapping [("properties", .mapping (types.map fun x => (x.1, .mapping [("type", .string x.2)]))),
    ("required", .sequence required)]

theorem ordered_asking {required : List Document} {types : List (String × String)}
    (hrequired : ∀ d ∈ required, d.Ordered) (htypes : (types.map (·.1)).Pairwise (· < ·)) :
    (asking required types).Ordered := by
  have hnames : Fields.Ascending
      (types.map fun x => (x.1, Document.mapping [("type", .string x.2)])) := by
    rw [Fields.Ascending, Fields.names, List.map_map]
    exact htypes
  have htype : ∀ type : String, (Document.mapping [("type", .string type)]).Ordered := fun type =>
    .mapping (List.pairwise_singleton _ _) (List.forall_mem_singleton.2 (.scalar _))
  have hkeys : "properties" < "required" := by decide
  refine .mapping (List.pairwise_pair.2 hkeys) (List.forall_mem_cons.2
    ⟨.mapping hnames (List.forall_mem_map.2 fun x _ => htype x.2), ?_⟩)
  exact List.forall_mem_singleton.2 (.sequence hrequired)

/-- A port that is a text, a name that is asked for twice, and a type that is
none: what is found for the schema of the port is still found for the other. -/
theorem check_finds_mismatches_repeats :
    let data : Document := .mapping [("debug", .null), ("port", .string "80")]
    let narrow := asking [] [("port", "number")]
    let wide := asking [.string "name", .null, .string "port", .string "name"]
      [("debug", "flag"), ("port", "number"), ("tags", "array")]
    let subject : Subject := { artifact := "values.json" }
    let finding : Finding :=
      { code := "JS1002", severity := .error, subject, path := some "port",
        message := "Field port should be number, got string" }
    ¬ Keeps data narrow ∧ Keeps data (asking [.string "port"] [("port", "string")]) ∧
    (Demand.broken (demands data wide subject)).map (fun f => (f.code, f.path)) =
      [("JS1001", some "name"), ("JS1001", some "name"), ("JS1002", some "port")] ∧
    (wide.Ordered ∧ (properties wide).Ascending) ∧
    finding.message ≠ "Field port should be number, got number" ∧
    (Extends narrow wide ∧ [finding].Sublist (check data wide subject)) := by
  intro data narrow wide subject finding
  obtain ⟨hnarrow, -, -, hmessages, hmore⟩ := check_finds_mismatches data narrow subject
  obtain ⟨-, hbroken, hascending, -, -⟩ := check_finds_mismatches data wide subject
  obtain ⟨hkeeps, -⟩ := check_finds_mismatches data (asking [.string "port"] [("port", "string")])
    subject
  have hfound : check data narrow subject = [finding] := by decide
  have hwide : (check data wide subject).map (fun f => (f.code, f.path)) =
      [("JS1001", some "name"), ("JS1001", some "name"), ("JS1002", some "port")] := by decide
  have hordered : wide.Ordered := by
    refine ordered_asking ?_ (by decide)
    simp only [List.forall_mem_cons]
    exact ⟨.scalar _, .scalar _, .scalar _, .scalar _, List.forall_mem_nil _⟩
  have hextends : Extends narrow wide :=
    ⟨List.nil_sublist _, ((List.nil_sublist _).cons_cons _).cons _⟩
  refine ⟨fun h => ?_, hkeeps.1 (by decide), ?_, ⟨hordered, hascending hordered⟩, ?_, hextends, ?_⟩
  · rw [hnarrow.2 h] at hfound
    exact absurd hfound (List.cons_ne_nil _ _).symm
  · rw [hbroken] at hwide
    exact hwide
  · have hmem : finding ∈ check data narrow subject := hfound ▸ List.mem_singleton_self finding
    exact hmessages finding hmem rfl "Field port" "number" (by decide)
  · exact hfound ▸ hmore wide hextends

end Schema

end DeployLint
