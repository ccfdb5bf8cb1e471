/-!
# Decimal numbers

A decimal number is an integer times a power of ten. Data formats take such numbers only as far as the
64-bit floating-point format reaches.
-/

namespace TaskSwitcher

/-- A decimal number that is not negative. -/
structure Decimal where
  digits : Nat
  exponent : Int

namespace Decimal

/-- The number half a step beyond the largest finite 64-bit number. This number and all above it are
rounded to infinity. -/
def infinityBound : Nat := Nat.pow 2 1024 - Nat.pow 2 970

/-- The number of digits in front of the point, or minus the number of zeros directly behind it. -/
def magnitude (number : Decimal) : Int :=
  (Nat.toDigits 10 number.digits).length + number.exponent

/-- Whether the number reaches the bound, computed with whole numbers. -/
def reachesBound (number : Decimal) : Bool :=
  if 0 ≤ number.exponent then
    infinityBound ≤ number.digits * Nat.pow 10 number.exponent.toNat
  else
    infinityBound * Nat.pow 10 (-number.exponent).toNat ≤ number.digits

/-- Whether the number is rounded to infinity. The bound has 309 digits, so only numbers of just that
magnitude have to be compared with it; no power of ten with a huge exponent is ever computed. -/
def isInfinite (number : Decimal) : Bool :=
  if number.digits = 0 then false
  else if number.magnitude = 309 then number.reachesBound
  else 309 < number.magnitude

end Decimal

end TaskSwitcher
