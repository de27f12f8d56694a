/-!
# Decimal — number literals

The literals that stand for a double: an optional sign, then digits with an
optional point and an optional exponent, or one of the words for infinity
and for no number, in any case. Nothing else is allowed around or between.
-/

namespace DeployLint

namespace Decimal

/-- The value of a run of ASCII digits. -/
def natOfDigits (cs : List Char) : Nat :=
  cs.foldl (fun n c => 10 * n + (c.toNat - '0'.toNat)) 0

/-- The double nearest to `m * 10 ^ e`. Beyond four hundred orders of
magnitude the answer is known without the power of ten. -/
def scale (m : Nat) (e : Int) : Float :=
  let order := (Nat.toDigits 10 m).length + e
  if m == 0 || order < -400 then 0.0
  else if 400 < order then 1.0 / 0.0
  else Float.ofScientific m (e < 0) e.natAbs

/-- The exponent part at the start of a text, and the rest. A text that
starts with no exponent part has exponent zero. -/
def exponentPart? (cs : List Char) : Option Int :=
  match cs with
  | [] => some 0
  | c :: rest =>
    if c = 'e' || c = 'E' then
      let (negative, digits) :=
        match rest with
        | '-' :: ds => (true, ds)
        | '+' :: ds => (false, ds)
        | ds => (false, ds)
      if digits.isEmpty || !digits.all Char.isDigit then none
      else
        let n : Int := natOfDigits digits
        some (if negative then -n else n)
    else none

/-- The value of a literal of digits, without a sign. -/
def unsigned? (cs : List Char) : Option Float :=
  let whole := cs.takeWhile Char.isDigit
  let (fraction, rest) :=
    match cs.dropWhile Char.isDigit with
    | '.' :: after => (after.takeWhile Char.isDigit, after.dropWhile Char.isDigit)
    | after => ([], after)
  if whole.isEmpty && fraction.isEmpty then none
  else
    (exponentPart? rest).map fun e =>
      scale (natOfDigits (whole ++ fraction)) (e - (fraction.length : Int))

/-- The value of a literal without its sign. -/
def magnitude? (cs : List Char) : Option Float :=
  let word := cs.map Char.toLower
  if word = ['i', 'n', 'f'] || word = ['i', 'n', 'f', 'i', 'n', 'i', 't', 'y'] then some (1.0 / 0.0)
  else if word = ['n', 'a', 'n'] then some (0.0 / 0.0)
  else unsigned? cs

/-- The double that a literal stands for. -/
def literalChars? : List Char → Option Float
  | '-' :: cs => (magnitude? cs).map Float.neg
  | '+' :: cs => magnitude? cs
  | cs => magnitude? cs

/-- The double that a literal stands for. -/
def literal? (s : String) : Option Float := literalChars? s.toList

end Decimal

end DeployLint
