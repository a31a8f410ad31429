import DirectiveScan.Number.Binary64

namespace DirectiveScan.Binary64

/-! The text of a double: the fewest decimal digits that read back as the same
double, written without an exponent. -/

/-- The reals that round to a double, as numerators over one denominator. -/
structure Interval where
  lower : Nat
  value : Nat
  upper : Nat
  denominator : Nat
  /-- Whether the two ends round to the double as well. -/
  closed : Bool
deriving Repr

/-- The reals that round to `mantissa * 2 ^ exponent`. Just above a power of two
the lower neighbour is half as far away. -/
def interval (mantissa : Nat) (exponent : Int) : Interval :=
  let narrow := mantissa = normalMantissa ∧ leastExponent < exponent
  let scale := exponent - 2
  let factor := if 0 ≤ scale then Nat.pow 2 scale.toNat else 1
  let denominator := if 0 ≤ scale then 1 else Nat.pow 2 (-scale).toNat
  { lower := (4 * mantissa - if narrow then 1 else 2) * factor
    value := 4 * mantissa * factor
    upper := (4 * mantissa + 2) * factor
    denominator
    closed := mantissa % 2 = 0 }

/-- Whether `digits * 10 ^ power` rounds to the double. -/
def Interval.contains (range : Interval) (digits : Nat) (power : Int) : Bool :=
  let point := digits * range.denominator * Nat.pow 10 power.toNat
  let unit := Nat.pow 10 (-power).toNat
  if range.closed then range.lower * unit ≤ point && point ≤ range.upper * unit
  else range.lower * unit < point && point < range.upper * unit

/-- The distance of `digits * 10 ^ power` from the double, in a unit that depends
on the power only. -/
def Interval.distance (range : Interval) (digits : Nat) (power : Int) : Nat :=
  let point := digits * range.denominator * Nat.pow 10 power.toNat
  let value := range.value * Nat.pow 10 (-power).toNat
  (point - value) + (value - point)

/-- The greatest multiple of `10 ^ power` not above the double. -/
def Interval.floor (range : Interval) (power : Int) : Nat :=
  range.value * Nat.pow 10 (-power).toNat / (range.denominator * Nat.pow 10 power.toNat)

/-- The first grid, from coarse to fine, with a point that reads back. -/
def shortestFrom (range : Interval) : Nat → Int → Nat × Int
  | 0, power => (range.floor power, power)
  | steps + 1, power =>
      let below := range.floor power
      let hitBelow := range.contains below power
      let hitAbove := range.contains (below + 1) power
      if hitBelow && hitAbove then
        if range.distance (below + 1) power < range.distance below power then (below + 1, power)
        else (below, power)
      else if hitBelow then (below, power)
      else if hitAbove then (below + 1, power)
      else shortestFrom range steps (power - 1)

/-- A power of ten above every double. -/
def coarsestPower : Int := 310

/-- The fewest digits, with their power of ten, that read back as the double. -/
def shortest (mantissa : Nat) (exponent : Int) : Nat × Int :=
  shortestFrom (interval mantissa exponent) 700 coarsestPower

/-- Digits times a power of ten in positional notation. -/
def positional (digits : Nat) (power : Int) : String :=
  let text := Nat.toDigits 10 digits
  if 0 ≤ power then String.ofList (text ++ List.replicate power.toNat '0')
  else
    let places := (-power).toNat
    let padded := List.replicate (places + 1 - text.length) '0' ++ text
    String.ofList (padded.take (padded.length - places) ++ '.' :: padded.drop (padded.length - places))

/-- The text of a double. -/
def text : Binary64 → String
  | .infinite => "inf"
  | .finite 0 _ => "0"
  | .finite mantissa exponent =>
      let (digits, power) := shortest mantissa exponent
      positional digits power

end DirectiveScan.Binary64

namespace DirectiveScan.Decimal

/-- The text of the double nearest to a decimal. -/
def text (value : Decimal) : String := (Binary64.ofDecimal value).text

end DirectiveScan.Decimal
