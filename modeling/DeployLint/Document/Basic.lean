import DeployLint.Fields
import DeployLint.Document.Path
import DeployLint.Decimal.Layout

/-!
# Document — the tree every rule reads

A document is a tree of mappings, sequences and scalars, whichever format
its text had. Mappings hold their keys in ascending order, so that walking a
document visits it in one order only.
-/

namespace DeployLint

/-- A leaf of a document. -/
inductive Scalar where
  | null
  | bool (value : Bool)
  | int (value : Int64)
  | float (value : Float)
  | string (value : String)

/-- A node of a document. -/
inductive Document where
  | scalar (value : Scalar)
  | sequence (items : List Document)
  | mapping (fields : List (String × Document))

namespace Scalar

/-- A scalar as it is written in messages. -/
def text : Scalar → String
  | null => "null"
  | bool true => "true"
  | bool false => "false"
  | int value => toString value.toInt
  | float value => Decimal.plain.write value
  | string value => value

/-- A whole number: an integer where it fits, else the double nearest to it. -/
def ofInt (n : Int) : Scalar :=
  if -0x8000000000000000 ≤ n ∧ n < 0x8000000000000000 then .int (Int64.ofInt n)
  else .float (Float.ofInt n)

end Scalar

namespace Document

/-- The empty leaf. -/
def null : Document := .scalar .null

/-- A text as a document. -/
def string (value : String) : Document := .scalar (.string value)

instance : Inhabited Document := ⟨null⟩

/-! ## Looking inside -/

/-- The value of a key of a mapping. -/
def get? (d : Document) (name : String) : Option Document :=
  match d with
  | .mapping fields => Fields.get? name fields
  | _ => none

/-- What a chain of keys leads to. -/
def getPath? (d : Document) (names : List String) : Option Document :=
  names.foldlM (fun node name => node.get? name) d

/-- An item of a sequence. -/
def item? (d : Document) (position : Nat) : Option Document :=
  match d with
  | .sequence items => items[position]?
  | _ => none

def hasKey (d : Document) (name : String) : Bool := (d.get? name).isSome

def asMapping? : Document → Option (Fields Document)
  | .mapping fields => some fields
  | _ => none

def asSequence? : Document → Option (List Document)
  | .sequence items => some items
  | _ => none

def asScalar? : Document → Option Scalar
  | .scalar value => some value
  | _ => none

def asString? : Document → Option String
  | .scalar (.string value) => some value
  | _ => none

theorem asString?_eq_some_iff {d : Document} {text : String} :
    d.asString? = some text ↔ d = .string text := by
  cases d with
  | scalar value => cases value <;> simp [asString?, string]
  | sequence items => simp [asString?, string]
  | mapping fields => simp [asString?, string]

def isNull : Document → Bool
  | .scalar .null => true
  | _ => false

def isMapping : Document → Bool
  | .mapping _ => true
  | _ => false

/-- The mapping that a key leads to, if it leads to one. -/
def mappingAt? (d : Document) (name : String) : Option Document :=
  (d.get? name).filter isMapping

theorem mappingAt?_eq_some_iff {d value : Document} {name : String} :
    d.mappingAt? name = some value ↔ d.get? name = some value ∧ value.isMapping = true :=
  Option.filter_eq_some_iff

/-- The text of a scalar; mappings and sequences have none. -/
def scalarText? (d : Document) : Option String := d.asScalar?.map Scalar.text

/-- The name of a node's type, in the words of JSON. -/
def typeName : Document → String
  | .mapping _ => "object"
  | .sequence _ => "array"
  | .scalar .null => "null"
  | .scalar (.bool _) => "boolean"
  | .scalar (.int _) => "number"
  | .scalar (.float _) => "number"
  | .scalar (.string _) => "string"

/-- The texts among the items of a sequence. -/
def stringItems (d : Document) : List String :=
  match d with
  | .sequence items => items.filterMap asString?
  | _ => []

/-- The texts among the items of a sequence; a text alone counts as a sequence of one. -/
def stringValues (d : Document) : List String :=
  match d.asString? with
  | some value => [value]
  | none => d.stringItems

/-- What one step of a path leads to. -/
def step? (d : Document) : Segment → Option Document
  | .key name => d.get? name
  | .index position => d.item? position

/-- What a path leads to. -/
def at? (d : Document) (p : Path) : Option Document := p.segments.foldlM step? d

end Document

end DeployLint
