import DeployLint.Document.Basic

/-!
# JSON — values

A JSON value keeps the members of its objects in the order they were given.
A document has one JSON value, and a JSON value one document: members are
put in order by their names, and of several of one name the last one counts.
-/

namespace DeployLint

/-- A JSON value. -/
inductive Json where
  | null
  | bool (value : Bool)
  | int (value : Int)
  | float (value : Float)
  | string (value : String)
  | array (items : List Json)
  | object (members : List (String × Json))

namespace Json

/-! ## From documents -/

/-- A leaf of a document. Infinities and what is no number become null. -/
def ofScalar : Scalar → Json
  | .null => .null
  | .bool value => .bool value
  | .int value => .int value.toInt
  | .float value => if value.isFinite then .float value else .null
  | .string value => .string value

mutual

/-- A document. -/
def ofDocument : Document → Json
  | .scalar value => ofScalar value
  | .sequence items => .array (ofItems items)
  | .mapping fields => .object (ofFields fields)

def ofItems : List Document → List Json
  | [] => []
  | d :: ds => ofDocument d :: ofItems ds

def ofFields : List (String × Document) → List (String × Json)
  | [] => []
  | (name, d) :: ds => (name, ofDocument d) :: ofFields ds

end

/-! ## To documents -/

mutual

/-- The document of a value. -/
def toDocument : Json → Document
  | .null => .null
  | .bool value => .scalar (.bool value)
  | .int value => .scalar (.ofInt value)
  | .float value => .scalar (.float value)
  | .string value => .string value
  | .array items => .sequence (toItems items)
  | .object members => .mapping (Fields.ofPairs (toFields members))

def toItems : List Json → List Document
  | [] => []
  | j :: js => toDocument j :: toItems js

def toFields : List (String × Json) → List (String × Document)
  | [] => []
  | (name, j) :: js => (name, toDocument j) :: toFields js

end

/-! ## Lists of values -/

theorem ofItems_eq_map (items : List Document) : ofItems items = items.map ofDocument := by
  induction items with
  | nil => rfl
  | cons d ds ih => rw [ofItems, ih, List.map_cons]

theorem ofFields_eq_map (fields : List (String × Document)) :
    ofFields fields = fields.map fun f => (f.1, ofDocument f.2) := by
  induction fields with
  | nil => rfl
  | cons f fs ih => rw [ofFields, ih, List.map_cons]

theorem toItems_eq_map (items : List Json) : toItems items = items.map toDocument := by
  induction items with
  | nil => rfl
  | cons j js ih => rw [toItems, ih, List.map_cons]

theorem toFields_eq_map (members : List (String × Json)) :
    toFields members = members.map fun m => (m.1, toDocument m.2) := by
  induction members with
  | nil => rfl
  | cons m ms ih => rw [toFields, ih, List.map_cons]

/-! ## Optional values -/

/-- A value that may be absent; `null` stands for its absence. -/
def orNull {α : Type} (toJson : α → Json) : Option α → Json
  | some value => toJson value
  | none => .null

/-- A member that is left out if its value is absent. -/
def optional {α : Type} (name : String) (toJson : α → Json) : Option α → List (String × Json)
  | some value => [(name, toJson value)]
  | none => []

end Json

end DeployLint
