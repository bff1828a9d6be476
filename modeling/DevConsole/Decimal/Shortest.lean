/-!
# The shortest decimal of a double

A double is written with the fewest significant digits that read back as the same double; of two
such decimals the one nearer to its value.  The reals that read back as `m · 2 ^ q` form an
interval around it, which holds its ends when `m` is even.  For one digit, two digits and so on,
the two neighbours of the value on that decimal grid are tried in exact arithmetic.
-/

namespace DevConsole.Decimal

/-- A positive value and the interval of the reals that round to it, over one denominator. -/
structure Rounding where
  low : Nat
  value : Nat
  high : Nat
  den : Nat
  closed : Bool

/-- The interval of the double with the given bits, sign excluded, which is neither zero nor
infinite. -/
def Rounding.ofBits (bits : Nat) : Rounding :=
  let fraction : Nat := bits % Nat.pow 2 52
  let biased : Nat := bits / Nat.pow 2 52
  let m := if biased = 0 then fraction else fraction + Nat.pow 2 52
  let q : Int := (if biased = 0 then 1 else (biased : Int)) - 1075
  let unit := Nat.pow 2 q.toNat
  let below := if fraction = 0 ∧ 1 < biased then 1 else 2
  { low := (4 * m - below) * unit
    value := 4 * m * unit
    high := (4 * m + 2) * unit
    den := 4 * Nat.pow 2 (-q).toNat
    closed := m % 2 = 0 }

/-- Whether `digits / grid` rounds to the value. -/
def Rounding.holds (r : Rounding) (digits grid : Nat) : Bool :=
  let x := digits * r.den
  if r.closed then r.low * grid ≤ x && x ≤ r.high * grid
  else r.low * grid < x && x < r.high * grid

/-- The neighbour of the value among the multiples of `1 / grid` that rounds to it, the nearer of
two. -/
def Rounding.pick? (r : Rounding) (grid : Nat) : Option Nat :=
  let d := r.value * grid / r.den
  let excess := r.value * grid % r.den
  match r.holds d grid, r.holds (d + 1) grid with
  | true, true =>
    some (if 2 * excess < r.den ∨ (2 * excess = r.den ∧ d % 2 = 0) then d else d + 1)
  | true, false => some d
  | false, true => some (d + 1)
  | false, false => none

/-- The place of the decimal point of `value / den`: the `p` with
`10 ^ (p - 1) ≤ value / den < 10 ^ p`. -/
def Rounding.point (r : Rounding) : Int :=
  if r.den ≤ r.value then (Nat.toDigits 10 (r.value / r.den)).length
  else 1 - (Nat.toDigits 10 ((r.den + r.value - 1) / r.value - 1)).length

/-- `r` with value and interval times `10 ^ places`. -/
def Rounding.shift (r : Rounding) (places : Int) : Rounding :=
  let up := Nat.pow 10 places.toNat
  { r with
    low := r.low * up
    value := r.value * up
    high := r.high * up
    den := r.den * Nat.pow 10 (-places).toNat }

/-- The first grid with a hit, from `count` digits on. -/
def Rounding.search (r : Rounding) (point : Int) : (fuel count : Nat) → Nat × Int
  | 0, count => (((r.shift (count - point)).pick? 1).getD 0, point - count)
  | fuel + 1, count =>
    match (r.shift (count - point)).pick? 1 with
    | some d => (d, point - count)
    | none => r.search point fuel (count + 1)

/-- Digits `d` and an exponent `e` such that `d · 10 ^ e` is the shortest decimal of the double
with the given bits. Seventeen digits always suffice. -/
def shortest (bits : Nat) : Nat × Int :=
  let r := Rounding.ofBits bits
  r.search r.point 16 1

/-- A decimal in the form of a program's literals: positional from `0.0001` up to sixteen digits
before the point, with a point in it, and with an exponent of at least two digits otherwise. -/
def layout (digits : List Char) (point : Int) : List Char :=
  if -4 < point ∧ point ≤ 16 then
    if point ≤ 0 then '0' :: '.' :: List.replicate (-point).toNat '0' ++ digits
    else
      let n := point.toNat
      let whole := digits.take n ++ List.replicate (n - digits.length) '0'
      let fraction := digits.drop n
      whole ++ '.' :: (if fraction.isEmpty then ['0'] else fraction)
  else
    let fraction := digits.drop 1
    let exponent := point - 1
    let size := Nat.toDigits 10 exponent.natAbs
    digits.take 1 ++ (if fraction.isEmpty then [] else '.' :: fraction) ++
      'e' :: (if exponent < 0 then '-' else '+') ::
      (List.replicate (2 - size.length) '0' ++ size)

/-- The text of a double: the shortest decimal that reads back, or a word for what is no number. -/
def text (x : Float) : String :=
  let bits := x.toBits.toNat % Nat.pow 2 63
  let sign := if Nat.pow 2 63 ≤ x.toBits.toNat then "-" else ""
  if 2047 * Nat.pow 2 52 < bits then "nan"
  else if bits = 2047 * Nat.pow 2 52 then sign ++ "inf"
  else if bits = 0 then sign ++ "0.0"
  else
    let (d, e) := shortest bits
    let digits := Nat.toDigits 10 d
    let significant := (digits.reverse.dropWhile (· == '0')).reverse
    sign ++ String.ofList (layout significant (digits.length + e))

end DevConsole.Decimal
