/-!
# Binary numbers

Numbers with a decimal point are kept with 53 binary digits: a decimal stands for the nearest binary
number, and of two that are equally near for the one with an even last digit. Where a whole number
is asked for, it is the binary number that counts.
-/

namespace Retouch

/-- A binary number that is not negative: `digits` times two to the power `exponent`. -/
structure Binary where
  digits : Nat
  exponent : Int
  deriving DecidableEq

namespace Binary

/-- The quotient to the nearest whole number; halves go to the even neighbour. -/
def divNearest (n d : Nat) : Nat :=
  let whole := n / d
  let twice := 2 * (n % d)
  if twice < d then whole
  else if twice = d then whole + whole % 2
  else whole + 1

/-- The exponent of the first binary digit of a quotient of positive numbers. -/
def leadingExponent (n d : Nat) : Int :=
  let guess : Int := (n.log2 : Int) - (d.log2 : Int)
  if d <<< guess.toNat ≤ n <<< (-guess).toNat then guess else guess - 1

/-- The binary number that is nearest to a quotient. -/
def ofQuotient (n d : Nat) : Binary :=
  if n = 0 then ⟨0, 0⟩
  else
    let exponent := max (leadingExponent n d - 52) (-1074)
    ⟨divNearest (n <<< (-exponent).toNat) (d <<< exponent.toNat), exponent⟩

/-- Decides whether a binary number is too large to be kept. -/
def isTooLarge (b : Binary) : Bool :=
  0 < b.digits && 1024 ≤ (b.digits.log2 : Int) + b.exponent

/-- The whole number that a binary number is, if it is one. -/
def toNat? (b : Binary) : Option Nat :=
  if 0 ≤ b.exponent then some (b.digits <<< b.exponent.toNat)
  else
    let unit := 1 <<< (-b.exponent).toNat
    if b.digits % unit = 0 then some (b.digits / unit) else none

end Binary

end Retouch
