/-!
# The double nearest to a decimal

A decimal `digits · 10 ^ exponent` is read as the double nearest to it; of two equally near, the
one with an even mantissa.  All arithmetic is exact, on natural numbers.
-/

namespace DevConsole.Decimal

/-- `num / den` rounded to the nearest whole number, a half to the even neighbour. -/
def roundHalfEven (num den : Nat) : Nat :=
  let q := num / den
  let r := num % den
  if 2 * r < den then q
  else if den < 2 * r then q + 1
  else q + q % 2

/-- `num / den` times `2 ^ (-e)`, as a numerator and a denominator. -/
def scale (num den : Nat) (e : Int) : Nat × Nat :=
  (num * Nat.pow 2 (-e).toNat, den * Nat.pow 2 e.toNat)

/-- The exponent `e` for which `num / den` is a mantissa of 53 bits times `2 ^ e`, but at least
the exponent of the smallest double. -/
def binaryExponent (num den : Nat) : Int :=
  let e := max (-1074) ((num.log2 : Int) - den.log2 - 53)
  let (n, d) := scale num den e
  if Nat.pow 2 53 * d ≤ n then e + 1 else e

/-- The bits of the double nearest to the positive ratio `num / den`; those of infinity if it is
too large. -/
def nearestBits (num den : Nat) : Nat :=
  let e := binaryExponent num den
  let (n, d) := scale num den e
  let m := roundHalfEven n d
  let (m, e) := if m = Nat.pow 2 53 then (Nat.pow 2 52, e + 1) else (m, e)
  if 971 < e then 2047 * Nat.pow 2 52
  else if m < Nat.pow 2 52 then m
  else (e + 1075).toNat * Nat.pow 2 52 + (m - Nat.pow 2 52)

/-- The double nearest to `digits · 10 ^ exponent`. -/
def nearest (digits : Nat) (exponent : Int) : Float :=
  let magnitude := (Nat.toDigits 10 digits).length + exponent
  if digits = 0 ∨ magnitude < -330 then 0
  else if 310 < magnitude then Float.ofBits (UInt64.ofNat (2047 * Nat.pow 2 52))
  else
    let bits := nearestBits (digits * Nat.pow 10 exponent.toNat) (Nat.pow 10 (-exponent).toNat)
    Float.ofBits (UInt64.ofNat bits)

end DevConsole.Decimal
