import DeployLint.Yaml.Event
import DeployLint.Decimal.Literal
import DeployLint.Decimal.Layout

/-!
# YAML — values and scalars

What a node stands for, and how the text of a scalar decides it. A plain
scalar is read as null, a truth value, an integer or a double if its text is
one of their spellings; all other scalars are text, unless a tag demands a
type of them.
-/

namespace DeployLint

namespace Yaml

/-- What a node stands for. Mappings keep their pairs in the order of the text. -/
inductive Value where
  | null
  | bool (value : Bool)
  | int (value : Int)
  | float (value : Float)
  | string (value : String)
  | sequence (items : List Value)
  | mapping (pairs : List (Value × Value))
  | tagged (tag : String) (value : Value)

namespace Value

/-! ## Equality -/

/-- Whether two doubles count as one key. -/
def sameFloat (x y : Float) : Bool := x == y || (x.isNaN && y.isNaN)

mutual

/-- Whether two values count as one key. The order of pairs does not matter. -/
def same : Value → Value → Bool
  | .null, .null => true
  | .bool a, .bool b => a == b
  | .int a, .int b => a == b
  | .float a, .float b => sameFloat a b
  | .string a, .string b => a == b
  | .sequence as, .sequence bs => sameItems as bs
  | .mapping as, .mapping bs => as.length == bs.length && samePairs as bs
  | .tagged t a, .tagged u b => t == u && same a b
  | _, _ => false

/-- Whether two lists hold the same values, one by one. -/
def sameItems : List Value → List Value → Bool
  | [], [] => true
  | a :: as, b :: bs => same a b && sameItems as bs
  | _, _ => false

/-- Whether every pair of a list has its like in another one. -/
def samePairs : List (Value × Value) → List (Value × Value) → Bool
  | [], _ => true
  | (k, v) :: rest, bs => bs.any (fun (l, w) => same k l && same v w) && samePairs rest bs

end

/-- A value as a message on repeated keys shows it. -/
def asRepeatedKey : Value → RepeatedKey
  | .null => .null
  | .bool value => .bool value
  | .int value => .number (toString value)
  | .float value => .number (Decimal.yaml.write value)
  | .string value => .string value
  | .sequence _ => .collection
  | .mapping _ => .collection
  | .tagged _ _ => .collection

end Value

/-! ## Spellings -/

/-- The number that digits of a base write. -/
def digitsToNat? (base : Nat) (cs : List Char) : Option Nat :=
  if cs.isEmpty then none
  else
    cs.foldlM
      (fun n c => (Text.hexValue? c).bind fun d => if d < base then some (base * n + d) else none) 0

/-- Whether digits begin with a zero that says nothing: a number is not spelt so. -/
def hasIdleZero (cs : List Char) : Bool :=
  let digits :=
    match cs with
    | '-' :: ds => ds
    | '+' :: ds => ds
    | ds => ds
  1 < digits.length && digits.head? == some '0' && digits.all Char.isDigit

/-- The number of digits behind their sign, with the mark of their base. -/
def basedNat? (cs : List Char) : Option Nat :=
  match cs with
  | '0' :: 'x' :: ds => digitsToNat? 16 ds
  | '0' :: 'o' :: ds => digitsToNat? 8 ds
  | '0' :: 'b' :: ds => digitsToNat? 2 ds
  | ds => if hasIdleZero ds then none else digitsToNat? 10 ds

/-- The integer that a text spells, of whatever size. -/
def integer? : List Char → Option Int
  | '-' :: ds => (basedNat? ds).map fun n => -(n : Int)
  | '+' :: ds => (basedNat? ds).map Int.ofNat
  | ds => (basedNat? ds).map Int.ofNat

/-- What comes of a text that spells an integer. -/
inductive IntegerReading where
  /-- An integer within sixty-four bits, with or without a sign. -/
  | fits (value : Int)
  /-- An integer within a hundred and twenty-eight bits only. -/
  | wide (value : Int)
deriving DecidableEq, Repr

/-- Reads a text as an integer. Beyond the wide ones there are none. -/
def integerReading? (cs : List Char) : Option IntegerReading :=
  (integer? cs).bind fun n =>
    if -0x8000000000000000 ≤ n ∧ n < 0x10000000000000000 then some (.fits n)
    else if -0x80000000000000000000000000000000 ≤ n ∧ n < 0x100000000000000000000000000000000 then
      some (.wide n)
    else none

def isNullWord (s : String) : Bool := ["null", "Null", "NULL", "~"].contains s

def boolWord? (s : String) : Option Bool :=
  if ["true", "True", "TRUE"].contains s then some true
  else if ["false", "False", "FALSE"].contains s then some false
  else none

/-- Reads a text as a double. Literals that are too large for one spell none. -/
def double? (s : String) : Option Float :=
  let (cs, again) :=
    match s.toList with
    | '+' :: cs => (cs, cs.head? == some '+' || cs.head? == some '-')
    | cs => (cs, false)
  if again then none
  else if [".inf", ".Inf", ".INF"].contains (String.ofList cs) then some (1.0 / 0.0)
  else if ["-.inf", "-.Inf", "-.INF"].contains s then some (-(1.0 / 0.0))
  else if [".nan", ".NaN", ".NAN"].contains s then some (0.0 / 0.0)
  else (Decimal.literalChars? cs).filter Float.isFinite

/-! ## Scalars -/

/-- What a plain scalar stands for. -/
def plainValue (s : String) : Except ContentFault Value :=
  if s.isEmpty || isNullWord s then .ok .null
  else
    match boolWord? s with
    | some b => .ok (.bool b)
    | none =>
      match integerReading? s.toList with
      | some (.fits n) => .ok (.int n)
      | some (.wide n) => .error (.wideInteger n)
      | none =>
        match if hasIdleZero s.toList then none else double? s with
        | some x => .ok (.float x)
        | none => .ok (.string s)

/-- The full tag of a type. -/
def coreTag (name : String) : String := "tag:yaml.org,2002:" ++ name

/-- What a scalar stands for whose tag is not a private one. -/
def taggedValue (tag s : String) : Except ContentFault Value :=
  if tag == coreTag "bool" then
    match boolWord? s with
    | some b => .ok (.bool b)
    | none => .error (.mismatch s .boolean)
  else if tag == coreTag "int" then
    match integerReading? s.toList with
    | some (.fits n) => .ok (.int n)
    | some (.wide n) => .error (.wideInteger n)
    | none => .error (.mismatch s .integer)
  else if tag == coreTag "float" then
    match double? s with
    | some x => .ok (.float x)
    | none => .error (.mismatch s .float)
  else if tag == coreTag "null" then
    if isNullWord s then .ok .null else .error (.mismatch s .null)
  else .ok (.string s)

/-- What a scalar without a tag stands for. -/
def untaggedValue (s : String) (style : ScalarStyle) : Except ContentFault Value :=
  if style == .plain then plainValue s else .ok (.string s)

/-- The name of a private tag, which an exclamation mark begins. -/
def privateTag? (tag : Option String) : Option String :=
  match tag.map String.toList with
  | some ['!'] => some "!"
  | some ('!' :: name) => some (String.ofList name)
  | _ => none

/-- What a scalar stands for. A private tag leaves the reading to the style. -/
def scalarValue (tag : Option String) (s : String) (style : ScalarStyle) :
    Except ContentFault Value :=
  match privateTag? tag, tag with
  | some name, _ => (untaggedValue s style).map (.tagged name)
  | none, some tag => taggedValue tag s
  | none, none => untaggedValue s style

end Yaml

end DeployLint
