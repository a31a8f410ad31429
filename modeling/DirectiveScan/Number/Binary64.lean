import DirectiveScan.Number.Decimal

namespace DirectiveScan

/-! The nearest double precision number of an exact decimal, computed in exact
arithmetic. Only numbers that are not negative occur. -/

/-- A double precision number that is not negative. -/
inductive Binary64 where
  /-- The number `mantissa * 2 ^ exponent`. -/
  | finite (mantissa : Nat) (exponent : Int)
  | infinite
deriving DecidableEq, Repr

namespace Binary64

/-- Half of the smallest mantissa that needs more than 53 bits. -/
def normalMantissa : Nat := Nat.pow 2 52

def leastExponent : Int := -1074

def greatestExponent : Int := 971

/-- The quotient rounded to the nearest integer, a half going to the even neighbour. -/
def roundQuotient (numerator denominator : Nat) : Nat :=
  let quotient := numerator / denominator
  let remainder := numerator % denominator
  if 2 * remainder < denominator then quotient
  else if denominator < 2 * remainder then quotient + 1
  else if quotient % 2 = 0 then quotient else quotient + 1

/-- `numerator / denominator` divided by `2 ^ exponent`, again as a quotient. -/
def scaleQuotient (numerator denominator : Nat) (exponent : Int) : Nat × Nat :=
  if 0 ≤ exponent then (numerator, denominator * Nat.pow 2 exponent.toNat)
  else (numerator * Nat.pow 2 (-exponent).toNat, denominator)

/-- The binary exponent under which the quotient has a 53 bit mantissa. -/
def exponentOf (numerator denominator : Nat) : Int :=
  let estimate : Int := Nat.log2 numerator - Nat.log2 denominator - 52
  let scaled := scaleQuotient numerator denominator estimate
  let normal := if scaled.1 < normalMantissa * scaled.2 then estimate - 1 else estimate
  max normal leastExponent

/-- The double nearest to a quotient. -/
def ofQuotient (numerator denominator : Nat) : Binary64 :=
  if numerator = 0 then .finite 0 0
  else
    let exponent := exponentOf numerator denominator
    let scaled := scaleQuotient numerator denominator exponent
    let mantissa := roundQuotient scaled.1 scaled.2
    let carried := mantissa = 2 * normalMantissa
    let mantissa := if carried then normalMantissa else mantissa
    let exponent := if carried then exponent + 1 else exponent
    if greatestExponent < exponent then .infinite else .finite mantissa exponent

/-- Every decimal above this power of ten is infinite, every one below the
opposite power is zero. -/
def decimalRange : Int := 400

/-- The double nearest to a decimal. -/
def ofDecimal (value : Decimal) : Binary64 :=
  let magnitude : Int := (Nat.toDigits 10 value.coefficient).length + value.exponent
  if value.coefficient = 0 then .finite 0 0
  else if decimalRange < magnitude then .infinite
  else if magnitude < -decimalRange then .finite 0 0
  else if 0 ≤ value.exponent then
    ofQuotient (value.coefficient * Nat.pow 10 value.exponent.toNat) 1
  else
    ofQuotient value.coefficient (Nat.pow 10 (-value.exponent).toNat)

end Binary64

end DirectiveScan
