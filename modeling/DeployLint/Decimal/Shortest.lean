import DeployLint.Decimal.Binary64

/-!
# Decimal — the shortest digits that read back

The reals that round to a double form an interval around it. Of the decimal
numbers in that interval, the one with the fewest digits is chosen, and of
several with as few the one nearest to the double. A point of a decimal
grid lies in the interval only if one of the two grid points next to the
double does, so the search looks at two candidates a grid, from one digit
upward; seventeen digits are always enough.
-/

namespace DeployLint

namespace Decimal

/-- What becomes of a double halfway between two candidates. -/
inductive Tie where
  /-- The candidate away from zero. -/
  | away
  /-- The candidate whose last digit is even. -/
  | toEven
deriving DecidableEq, Repr

/-- The decimal number `value * 10 ^ exponent`. -/
structure Digits where
  value : Nat
  exponent : Int
deriving DecidableEq, Repr

/-- The number of decimal digits of a natural number. -/
def digitCount (n : Nat) : Nat := (Nat.toDigits 10 n).length

/-- The exponent `k` with `10 ^ (k - 1) ≤ m * 2 ^ q < 10 ^ k`, for a positive
number that is not below `10 ^ (-400)`. -/
def leadingExponent (m : Nat) (q : Int) : Int :=
  digitCount ((m <<< q.toNat * Nat.pow 10 400) >>> (-q).toNat) - 400

/-- The best candidate on the grid of step `10 ^ g`, if one lies in the
interval of the reals that round to `m * 2 ^ q`. All distances are counted
in quarters of `2 ^ q`, so that the ends of the interval are whole; they
belong to it exactly if `m` is even. -/
def onGrid? (tie : Tie) (m : Nat) (q : Int) (narrow : Bool) (g : Int) : Option Digits :=
  let step := Nat.pow 10 g.toNat <<< (2 - q).toNat
  let unit := Nat.pow 10 (-g).toNat <<< (q - 2).toNat
  let low := (4 * m - if narrow then 1 else 2) * unit
  let mid := 4 * m * unit
  let high := (4 * m + 2) * unit
  let inside (p : Nat) : Bool := if m % 2 == 0 then low ≤ p && p ≤ high else low < p && p < high
  let below := mid / step
  let above := below + 1
  let down := inside (below * step) && below != 0
  let up := inside (above * step)
  let chosen : Option Nat :=
    match down, up with
    | true, true =>
      match compare (mid - below * step) (above * step - mid) with
      | .lt => some below
      | .gt => some above
      | .eq =>
        match tie with
        | .away => some above
        | .toEven => some (if below % 2 == 0 then below else above)
    | true, false => some below
    | false, true => some above
    | false, false => none
  chosen.map fun value => ⟨value, g⟩

/-- A decimal number without trailing zeros, by as many steps as it may have digits. -/
def Digits.strip : Nat → Digits → Digits
  | 0, d => d
  | fuel + 1, d =>
    if d.value != 0 && d.value % 10 == 0 then strip fuel ⟨d.value / 10, d.exponent + 1⟩ else d

/-- The shortest decimal number that reads back as `m * 2 ^ q`, the nearest
of those. -/
def shortest (tie : Tie) (m : Nat) (q : Int) (narrow : Bool) : Digits :=
  if m == 0 then ⟨0, 0⟩
  else
    let k := leadingExponent m q
    let grids := (List.range 17).map fun (n : Nat) => k - 1 - (n : Int)
    match grids.findSome? (onGrid? tie m q narrow) with
    | some d => d.strip (digitCount d.value)
    | none => ⟨m <<< q.toNat, 0⟩

/-- The digit characters of a decimal number, most significant first. -/
def Digits.chars (d : Digits) : List Char := Nat.toDigits 10 d.value

/-- The exponent of the first digit, as in scientific notation. -/
def Digits.scientific (d : Digits) : Int := d.exponent + (digitCount d.value : Int) - 1

end Decimal

end DeployLint
