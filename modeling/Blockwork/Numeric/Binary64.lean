import Blockwork.Text.Bytes

/-!
# Double precision

Some quantities are kept as fractions of double precision, that is with fifty-three binary digits.
Such a fraction is represented here by its exact value, and an arithmetic operation is the exact
operation followed by rounding to the nearest fraction, a tie going to the even neighbour.
-/

namespace Blockwork
namespace Binary64

/-- The integer nearest to a quotient; a tie goes to the even neighbour. -/
def roundQuotient (numerator denominator : Nat) : Nat :=
  let quotient := numerator / denominator
  let twice := 2 * (numerator % denominator)
  if twice < denominator then quotient
  else if denominator < twice then quotient + 1
  else if quotient % 2 = 0 then quotient
  else quotient + 1

/-- A quotient divided by a power of two, as numerator and denominator. -/
def scale (numerator denominator : Nat) : Int → Nat × Nat
  | .ofNat exponent => (numerator, denominator * Nat.pow 2 exponent)
  | .negSucc exponent => (numerator * Nat.pow 2 (exponent + 1), denominator)

/-- The exponent for which a positive quotient divided by that power of two lies between the
powers 52 and 53 of two. -/
def exponent (numerator denominator : Nat) : Int :=
  let guess : Int := Nat.log2 numerator - Nat.log2 denominator - 52
  let (scaled, unit) := scale numerator denominator guess
  if scaled < unit * 0x10000000000000 then guess - 1
  else if unit * 0x20000000000000 ≤ scaled then guess + 1
  else guess

/-- The fraction of double precision nearest to a positive quotient. -/
def nearestQuotient (numerator denominator : Nat) : Rat :=
  let power := exponent numerator denominator
  let (scaled, unit) := scale numerator denominator power
  (roundQuotient scaled unit : Rat) * (2 : Rat) ^ power

/-- The fraction of double precision nearest to a number. -/
def nearest (value : Rat) : Rat :=
  if value.num = 0 then 0
  else if value.num < 0 then -nearestQuotient value.num.natAbs value.den
  else nearestQuotient value.num.natAbs value.den

/-- A quotient of integers, each rounded first. -/
def quotient (numerator denominator : Int) : Rat :=
  nearest (nearest numerator / nearest denominator)

/-- A sum. -/
def add (left right : Rat) : Rat := nearest (left + right)

/-- A fraction with the given number of decimal places; a tie goes to the even neighbour. -/
def fixed (places : Nat) (value : Rat) : Bytes :=
  let units := roundQuotient (value.num.natAbs * Nat.pow 10 places) value.den
  let whole := units / Nat.pow 10 places
  let rest := Bytes.decimal (units % Nat.pow 10 places)
  let sign := if value.num < 0 then utf8 "-" else []
  let fraction :=
    if places = 0 then [] else utf8 "." ++ List.replicate (places - rest.length) 48 ++ rest
  sign ++ Bytes.decimal whole ++ fraction

end Binary64
end Blockwork
