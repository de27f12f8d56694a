import DeployLint.Document.Basic
import DeployLint.Decimal.Literal
import DeployLint.Text.Blank
import DeployLint.Text.Digits
import DeployLint.Text.Search
import DeployLint.Notice

/-!
# Quantities — amounts of processor time and memory

A resource writes how much it needs as a number or as a text with a unit.
Processor time is read in cores and memory in MiB. Only the binary units of
memory are converted; another unit counts as MiB already.

Reading is generous: it takes what begins as a number. Whether a text looks
like a quantity at all is a question of its own, which rules ask and sums
do not.
-/

namespace DeployLint

namespace Quantity

/-- The text of a quantity: a text without the blanks around it, or a number
as it is written. -/
def text? : Document → Option String
  | .scalar (.string s) => some (Text.trim s)
  | .scalar (.int n) => some (Scalar.int n).text
  | .scalar (.float x) => some (Scalar.float x).text
  | _ => none

/-! ## Processor time -/

/-- The cores that a text stands for: thousandths with the unit `m`. -/
def coresOfText? (text : String) : Option Float :=
  match Text.beforeEnd? text "m" with
  | some thousandths => (Decimal.literal? thousandths).map (· / 1000.0)
  | none => Decimal.literal? text

/-- The cores that a node stands for. -/
def cores? (d : Document) : Option Float := (text? d).bind coresOfText?

/-! ## Memory -/

/-- A unit of memory that is converted. -/
inductive MemoryUnit where
  | kibi
  | mebi
  | gibi
deriving DecidableEq, Repr

namespace MemoryUnit

def suffix : MemoryUnit → String
  | kibi => "Ki"
  | mebi => "Mi"
  | gibi => "Gi"

/-- An amount of a unit in MiB. -/
def inMiB (amount : Float) : MemoryUnit → Float
  | kibi => amount / 1024.0
  | mebi => amount
  | gibi => amount * 1024.0

end MemoryUnit

/-- A text with one of the units that are converted, as what precedes the
unit and the unit. -/
def unit? (text : String) : Option (String × MemoryUnit) :=
  [MemoryUnit.kibi, .mebi, .gibi].findSome? fun unit =>
    (Text.beforeEnd? text unit.suffix).map fun amount => (amount, unit)

/-- The longest start of a text that is a decimal number without a sign:
digits with an optional point and further digits, or a point and digits. -/
def leadingDecimal? (cs : List Char) : Option (List Char) :=
  let whole := cs.takeWhile Text.isDecimalDigit
  match whole.isEmpty, cs.dropWhile Text.isDecimalDigit with
  | true, '.' :: after =>
    let fraction := after.takeWhile Text.isDecimalDigit
    if fraction.isEmpty then none else some ('.' :: fraction)
  | true, _ => none
  | false, '.' :: after => some (whole ++ '.' :: after.takeWhile Text.isDecimalDigit)
  | false, _ => some whole

/-- The longest start of a text that is a decimal number. -/
def leadingNumber? : List Char → Option (List Char)
  | '+' :: cs => (leadingDecimal? cs).map ('+' :: ·)
  | '-' :: cs => (leadingDecimal? cs).map ('-' :: ·)
  | cs => leadingDecimal? cs

/-- The MiB that a text stands for: with a binary unit, the amount before it;
else the number that the text is, or that it begins with. -/
def miBOfText? (text : String) : Option Float :=
  match unit? text with
  | some (amount, unit) => (Decimal.literal? amount).map unit.inMiB
  | none =>
    (Decimal.literal? text).or ((leadingNumber? text.toList).bind Decimal.literalChars?)

/-- The MiB that a node stands for. -/
def miB? (d : Document) : Option Float := (text? d).bind miBOfText?

/-- What reading memory tells: that a unit is not known. -/
def miBNotices (d : Document) : List Notice :=
  match text? d with
  | none => []
  | some text =>
    if (unit? text).isNone && (Decimal.literal? text).isNone &&
        (leadingNumber? text.toList).isSome then
      [.debug s!"Memory quantity '{text}' has an unrecognized suffix, treating as MiB"]
    else []

/-! ## Shapes -/

/-- Whether a text has the usual shape of processor time: the unit `m` at its
end, or nothing but digits and points. -/
def isPlausibleCpu (text : String) : Bool :=
  Text.endsWith text "m" ||
    let digits := text.toList.filter (· != '.')
    !digits.isEmpty && digits.all Char.isDigit

/-- The units that memory usually has. -/
def memorySuffixes : List String := ["Ki", "Mi", "Gi", "Ti", "K", "M", "G", "T"]

/-- Whether a text has the usual shape of memory: a known unit at its end, or
nothing but digits. -/
def isPlausibleMemory (text : String) : Bool :=
  memorySuffixes.any (Text.endsWith text) ||
    (!text.isEmpty && text.toList.all Char.isDigit)

end Quantity

end DeployLint
