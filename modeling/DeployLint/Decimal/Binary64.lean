/-!
# Decimal — a double taken apart

A double is a sign with a significand times a power of two, an infinity, or
no number at all. The parts are read off its bits, so that what is said
about them is said in exact arithmetic.
-/

namespace DeployLint

namespace Decimal

/-- What a double stands for, its sign apart. -/
inductive Magnitude where
  /-- The number `significand * 2 ^ exponent`. `narrow` holds where the gap
  below the number is half the gap above it. -/
  | finite (significand : Nat) (exponent : Int) (narrow : Bool)
  | infinite
  | undefined
deriving DecidableEq, Repr

/-- A double, taken apart. -/
structure Parts where
  negative : Bool
  magnitude : Magnitude
deriving DecidableEq, Repr

/-- The parts of the double with the given bits: one for the sign, eleven
for the exponent, fifty-two for the fraction. -/
def Parts.ofBits (bits : Nat) : Parts :=
  let negative := bits >>> 63 % 2 == 1
  let exponent : Nat := bits >>> 52 % 1 <<< 11
  let fraction := bits % 1 <<< 52
  if exponent == 2047 then
    ⟨negative, if fraction == 0 then .infinite else .undefined⟩
  else if exponent == 0 then
    ⟨negative, .finite fraction (-1074) false⟩
  else
    let narrow := fraction == 0 && exponent != 1
    ⟨negative, .finite (1 <<< 52 + fraction) ((exponent : Int) - 1075) narrow⟩

/-- The parts of a double. -/
def parts (x : Float) : Parts := Parts.ofBits x.toBits.toNat

end Decimal

end DeployLint
