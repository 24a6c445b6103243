import Rollout.Decimal.Binary64

/-!
# The shortest decimal text of a binary64 number

Of all decimals that round to a given binary64 number, the text has the fewest digits, and of
those the digits nearest to the number. The decimals that round to `m · 2 ^ q` form an interval
around it, to which the ends belong when `m` is even; for one digit, two digits and so on, the
two decimals next to the number are tried in exact arithmetic.

## Main definitions

* `Magnitude.shortest` — the digits and the power of ten
* `decimalText` — the text of a decimal
* `Binary64.text` — the text of a number
-/

namespace Rollout.Decimal

namespace Magnitude

/-- The naturals `a`, `b` with `a / b = n · 10 ^ k · 2 ^ t`. -/
def fraction (n : Nat) (k t : Int) : Nat × Nat :=
  (scaleUp (n * Nat.pow 10 k.toNat) t, scaleUp (Nat.pow 10 (-k).toNat) (-t))

/-- Whether `d · 10 ^ k` lies in the interval of the numbers that round to a magnitude. Its ends
are half-way to the two neighbours; below a power of two the neighbour is nearer. -/
def covers (x : Magnitude) (d : Nat) (k : Int) : Bool :=
  let nearer := x.mantissa = leastNormal ∧ minExponent < x.exponent
  let lower := 4 * x.mantissa - (if nearer then 1 else 2)
  let upper := 4 * x.mantissa + 2
  let (a, b) := fraction d k (2 - x.exponent)
  if x.mantissa % 2 = 0 then lower * b ≤ a && a ≤ upper * b
  else lower * b < a && a < upper * b

/-- The exponent of the first decimal digit of a positive magnitude. -/
def decimalExponent (x : Magnitude) : Int :=
  let (a, b) := fraction x.mantissa 0 x.exponent
  if b ≤ a then ((Nat.toDigits 10 (a / b)).length : Int) - 1
  else -((Nat.toDigits 10 ((b - 1) / a)).length : Int)

/-- The greatest `d` with `d · 10 ^ k` not above a magnitude. -/
def gridFloor (x : Magnitude) (k : Int) : Nat :=
  let (a, b) := fraction x.mantissa (-k) x.exponent
  a / b

/-- Of the decimals `d · 10 ^ k` and `(d + 1) · 10 ^ k` on both sides of a magnitude, the one
that rounds to it; of two, the nearer, and half-way between them the one whose last digit is
even. -/
def nearestOnGrid (x : Magnitude) (k : Int) : Option Nat :=
  let d := x.gridFloor k
  match x.covers d k, x.covers (d + 1) k with
  | false, false => none
  | true, false => some d
  | false, true => some (d + 1)
  | true, true =>
    let (a, b) := fraction x.mantissa (-k) x.exponent
    some (roundHalfEven a b)

/-- The digits `d` and the exponent `k` of the shortest decimal `d · 10 ^ k` that rounds to a
positive magnitude. Seventeen digits are always enough. -/
def shortest (x : Magnitude) : Nat × Int :=
  let e := x.decimalExponent
  let onGrid (n : Nat) : Option (Nat × Int) := (x.nearestOnGrid (e - n)).map fun d => (d, e - n)
  ((List.range 17).findSome? onGrid).getD (0, 0)

end Magnitude

/-- The digits of a natural up to the last one that is not zero. -/
def significantDigits (d : Nat) : List Char :=
  ((Nat.toDigits 10 d).reverse.dropWhile (· == '0')).reverse

/-- How many zeros the digits of a natural end with. -/
def trailingZeros (d : Nat) : Nat := (Nat.toDigits 10 d).length - (significantDigits d).length

/-- `n` times the digit zero. -/
def zeros (n : Int) : List Char := List.replicate n.toNat '0'

/-- The least exponent of the first digit with which a number is positional. -/
def leastPositional : Int := -5

/-- The greatest exponent of the first digit with which a number is positional. -/
def greatestPositional : Int := 15

/-- The text of the decimal `d · 10 ^ k` with positive `d`. A positional text always has a
fraction, and no text has a zero at the end of its digits otherwise. -/
def decimalText (d : Nat) (k : Int) : String :=
  let digits := significantDigits d
  let k := k + (trailingZeros d : Int)
  let e := k + (digits.length : Int) - 1
  if leastPositional ≤ e ∧ e ≤ greatestPositional then
    if 0 ≤ k then String.ofList (digits ++ zeros k ++ ['.', '0'])
    else if 0 ≤ e then
      String.ofList (digits.take (e.toNat + 1) ++ '.' :: digits.drop (e.toNat + 1))
    else String.ofList ('0' :: '.' :: zeros (-e - 1) ++ digits)
  else
    let fraction := if digits.length ≤ 1 then [] else '.' :: digits.drop 1
    String.ofList (digits.take 1 ++ fraction) ++ (if e < 0 then "e-" else "e+") ++
      toString e.natAbs

/-- The shortest text of a number that reads back as it. -/
def Binary64.text (x : Binary64) : String :=
  let sign := if x.negative then "-" else ""
  if x.magnitude.mantissa = 0 then sign ++ "0.0"
  else
    let (d, k) := x.magnitude.shortest
    sign ++ decimalText d k

end Rollout.Decimal
