namespace DirectiveScan

/-! A numeric literal is read as an exact decimal number. Nothing is rounded
while reading; rounding happens when the number is written. -/

/-- The number `coefficient * 10 ^ exponent`. -/
structure Decimal where
  coefficient : Nat
  exponent : Int
deriving DecidableEq, Repr, Inhabited

namespace Decimal

def ofNat (value : Nat) : Decimal := ⟨value, 0⟩

/-- Read a run of digits in a base, most significant digit first. -/
def ofDigits (base : Nat) (digits : List Nat) : Nat :=
  digits.foldl (fun total digit => total * base + digit) 0

/-- The number written as whole digits, fraction digits and a power of ten. -/
def ofParts (whole fraction : List Nat) (power : Int) : Decimal :=
  ⟨ofDigits 10 (whole ++ fraction), power - fraction.length⟩

end Decimal

end DirectiveScan
