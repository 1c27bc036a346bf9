import IrMachine.Number.Binary

/-!
# Shortest decimals

The shortest decimal that reads back as a given binary number. A finite number `m * 2 ^ q` stands
for an interval of reals: all that round to it, ends included exactly when `m` is even. On the grid
of decimals with `n` digits the two neighbours of the number are tried, for `n = 1, 2, ...`; the
first grid with a neighbour inside the interval wins, and of two neighbours the nearer one.

All comparisons are between natural numbers over one common denominator.
-/

namespace IrMachine

/-- The positive decimal `coefficient * 10 ^ power`. -/
structure Decimal where
  coefficient : Nat
  power : Int
deriving DecidableEq, Inhabited

namespace Decimal

/-- Drops up to `fuel` trailing zeros of the coefficient. -/
def strip : Nat → Decimal → Decimal
  | 0, decimal => decimal
  | fuel + 1, decimal =>
      if decimal.coefficient % 10 = 0 ∧ decimal.coefficient ≠ 0 then
        strip fuel ⟨decimal.coefficient / 10, decimal.power + 1⟩
      else decimal

/-- A number and the ends of its rounding interval, over a common denominator. -/
structure Interval where
  value : Nat
  low : Nat
  high : Nat
  denominator : Nat
  closed : Bool

/-- The rounding interval of the number `significand * 2 ^ exponent` of a format. The gap below a
power of two is half as wide as the gap above it, except at the least exponent. -/
def interval (format : BinaryFormat) (significand : Nat) (exponent : Int) : Interval :=
  let below :=
    if significand = 1 <<< format.fractionBits ∧ format.minExponent < exponent then 1 else 2
  let scale := 1 <<< (exponent - 2).toNat
  { value := 4 * significand * scale
    low := (4 * significand - below) * scale
    high := (4 * significand + 2) * scale
    denominator := 1 <<< (2 - exponent).toNat
    closed := significand % 2 = 0 }

/-- Whether `coefficient * 10 ^ power` lies in the interval. -/
def Interval.holds (range : Interval) (coefficient : Nat) (power : Int) : Bool :=
  let point := coefficient * Nat.pow 10 power.toNat * range.denominator
  let scale := Nat.pow 10 (-power).toNat
  if range.closed then range.low * scale ≤ point ∧ point ≤ range.high * scale
  else range.low * scale < point ∧ point < range.high * scale

/-- The largest grid point with step `10 ^ power` that is not above the number. -/
def Interval.floor (range : Interval) (power : Int) : Nat :=
  range.value * Nat.pow 10 (-power).toNat / (Nat.pow 10 power.toNat * range.denominator)

/-- Whether the number lies at or beyond the middle between a grid point and the next one. -/
def Interval.upperHalf (range : Interval) (coefficient : Nat) (power : Int) : Bool :=
  (2 * coefficient + 1) * Nat.pow 10 power.toNat * range.denominator
    ≤ 2 * range.value * Nat.pow 10 (-power).toNat

/-- The grid neighbour with step `10 ^ power` that stands for the number, if one does. -/
def Interval.neighbour? (range : Interval) (power : Int) : Option Nat :=
  let lower := range.floor power
  match range.holds lower power, range.holds (lower + 1) power with
  | true, true => some (if range.upperHalf lower power then lower + 1 else lower)
  | true, false => some lower
  | false, true => some (lower + 1)
  | false, false => none

/-- The least `k` from `start` on with `value < denominator * 10 ^ k`, within `fuel` steps. -/
def magnitudeFrom (range : Interval) : Nat → Int → Int
  | 0, start => start
  | fuel + 1, start =>
      if range.value * Nat.pow 10 (-start).toNat < range.denominator * Nat.pow 10 start.toNat then
        start
      else magnitudeFrom range fuel (start + 1)

/-- Tries the grids with steps `10 ^ power`, `10 ^ (power - 1)` and so on. -/
def Interval.search (range : Interval) : Nat → Int → Decimal
  | 0, power => ⟨range.floor power, power⟩
  | fuel + 1, power =>
      match range.neighbour? power with
      | some coefficient => ⟨coefficient, power⟩
      | none => range.search fuel (power - 1)

/-- The shortest decimal that rounds to `significand * 2 ^ exponent`, which is not zero. Seventeen
digits are enough for every number of double precision. -/
def shortest (format : BinaryFormat) (significand : Nat) (exponent : Int) : Decimal :=
  let range := interval format significand exponent
  let magnitude := magnitudeFrom range 700 (-330)
  strip 20 (range.search 17 (magnitude - 1))

end Decimal

end IrMachine
