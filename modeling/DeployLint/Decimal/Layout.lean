import DeployLint.Decimal.Shortest

/-!
# Decimal — how a number is laid out

The digits of a number say nothing on where the point stands, or whether an
exponent is written. Those decisions are one record; the formats of the
library are values of it.
-/

namespace DeployLint

namespace Decimal

/-- The decisions of a number format. -/
structure Layout where
  /-- Where a number halfway between two shortest candidates goes. -/
  tie : Tie
  /-- The scientific exponents that are written without an exponent part. -/
  positional : Int → Bool
  /-- What follows the digits of a whole number written without an exponent. -/
  wholeEnding : List Char
  /-- What stands between the mark and the digits of an exponent that is not negative. -/
  exponentPlus : List Char
  infinite : List Char
  undefined : List Char

/-- Digits without an exponent part: zeros fill up to the point, on either side. -/
def positionalChars (layout : Layout) (d : Digits) : List Char :=
  let ds := d.chars
  if 0 ≤ d.exponent then
    ds ++ List.replicate d.exponent.toNat '0' ++ layout.wholeEnding
  else
    let places := (-d.exponent).toNat
    if places < ds.length then
      ds.take (ds.length - places) ++ '.' :: ds.drop (ds.length - places)
    else
      '0' :: '.' :: List.replicate (places - ds.length) '0' ++ ds

/-- Digits with an exponent part: one digit before the point. -/
def scientificChars (layout : Layout) (d : Digits) : List Char :=
  let x := d.scientific
  let lead :=
    match d.chars with
    | [] => []
    | [c] => [c]
    | c :: cs => c :: '.' :: cs
  let sign := if x < 0 then ['-'] else layout.exponentPlus
  lead ++ 'e' :: sign ++ Nat.toDigits 10 x.natAbs

/-- A double in a given layout. -/
def Layout.chars (layout : Layout) (x : Float) : List Char :=
  let p := parts x
  match p.magnitude with
  | .undefined => layout.undefined
  | .infinite => (if p.negative then ['-'] else []) ++ layout.infinite
  | .finite m q narrow =>
    let d := shortest layout.tie m q narrow
    let body :=
      if layout.positional d.scientific then positionalChars layout d else scientificChars layout d
    (if p.negative then ['-'] else []) ++ body

/-- A double in a given layout. -/
def Layout.write (layout : Layout) (x : Float) : String := String.ofList (layout.chars x)

/-- Plain text: never an exponent, and nothing after the digits of a whole number. -/
def plain : Layout where
  tie := .away
  positional := fun _ => true
  wholeEnding := []
  exponentPlus := []
  infinite := ['i', 'n', 'f']
  undefined := ['N', 'a', 'N']

/-- Numbers of a JSON text: a point is always there, and an exponent, with its
sign, from `1e+16` upward and below `1e-5`. The two last texts are never
written, since such numbers have no JSON form. -/
def json : Layout where
  tie := .toEven
  positional := fun x => -5 ≤ x && x ≤ 15
  wholeEnding := ['.', '0']
  exponentPlus := ['+']
  infinite := ['n', 'u', 'l', 'l']
  undefined := ['n', 'u', 'l', 'l']

/-- Numbers in the messages on YAML keys: as in JSON, but for the sign of a
positive exponent. -/
def yaml : Layout where
  tie := .toEven
  positional := fun x => -5 ≤ x && x ≤ 15
  wholeEnding := ['.', '0']
  exponentPlus := []
  infinite := ['.', 'i', 'n', 'f']
  undefined := ['.', 'n', 'a', 'n']

end Decimal

end DeployLint
