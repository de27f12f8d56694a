import DeployLint.Document.Basic
import DeployLint.Finding

/-!
# Schemas

A schema is a document that says which fields another document has to have
and of which type each of its fields is. Nothing else of it is looked at,
and a type that is not one of the five known ones allows everything.
-/

namespace DeployLint

namespace Schema

/-- Whether a value is of a type that a schema asks for. Of a type that is not
known nothing is said. -/
def isOfType? (value : Document) : String → Option Bool
  | "string" =>
    some
      (match value with
      | .scalar (.string _) => true
      | _ => false)
  | "number" =>
    some
      (match value with
      | .scalar (.int _) => true
      | .scalar (.float _) => true
      | _ => false)
  | "boolean" =>
    some
      (match value with
      | .scalar (.bool _) => true
      | _ => false)
  | "array" =>
    some
      (match value with
      | .sequence _ => true
      | _ => false)
  | "object" => some value.isMapping
  | _ => none

/-- The names of the fields that a schema asks for, as often as it does. -/
def requiredNames (schema : Document) : List String :=
  ((schema.get? "required").map Document.stringItems).getD []

/-- The fields that a schema says something of. -/
def properties (schema : Document) : Fields Document :=
  ((schema.get? "properties").bind Document.asMapping?).getD []

/-- The findings on fields that are missing. -/
def checkRequired (data schema : Document) (subject : Subject) : List Finding :=
  ((requiredNames schema).filter fun name => !data.hasKey name).map fun name =>
    (Finding.graded .schemaMissingField .error subject
      s!"Missing required field: {name}").atPath (.ofKeys [name])

/-- The finding on one field of another type than the schema asks for. -/
def checkProperty (data : Document) (subject : Subject) (name : String) (property : Document) :
    List Finding :=
  match data.get? name, (property.get? "type").bind Document.asString? with
  | some value, some type =>
    if isOfType? value type = some false then
      [(Finding.graded .schemaTypeMismatch .error subject
        s!"Field {name} should be {type}, got {value.typeName}").atPath (.ofKeys [name])]
    else []
  | _, _ => []

/-- The findings on a document that does not keep a schema. -/
def check (data schema : Document) (subject : Subject) : List Finding :=
  checkRequired data schema subject ++
    (properties schema).flatMap fun (name, property) => checkProperty data subject name property

end Schema

end DeployLint
