/-!
# Binary64 numbers, exactly

A finite number of the binary64 format is a sign and a magnitude `m · 2 ^ q` with natural `m`
and integer `q`. All arithmetic here is exact arithmetic on naturals followed by one rounding to
the nearest binary64 magnitude, a tie going to the even mantissa.

## Main definitions

* `Magnitude.ofRatio?` — the binary64 magnitude nearest to a ratio of naturals
* `Magnitude.mul?`, `Magnitude.div?` — product and quotient, rounded
* `Magnitude.ofDecimal?` — the magnitude that a decimal is read as
-/

namespace Rollout.Decimal

/-- The number `mantissa · 2 ^ exponent`. -/
structure Magnitude where
  mantissa : Nat
  exponent : Int
deriving DecidableEq, Repr, Inhabited

/-- A finite binary64 number; zero has a sign of its own. -/
structure Binary64 where
  negative : Bool
  magnitude : Magnitude
deriving DecidableEq, Repr, Inhabited

/-- The natural nearest to `num / den`; halfway between two, the even one. -/
def roundHalfEven (num den : Nat) : Nat :=
  let q := num / den
  let r := num % den
  if 2 * r < den then q
  else if den < 2 * r then q + 1
  else if q % 2 = 0 then q else q + 1

namespace Magnitude

/-- The least exponent of the format, that of its subnormal numbers. -/
def minExponent : Int := -1074

/-- The greatest exponent of the format. -/
def maxExponent : Int := 971

/-- The least mantissa of a number that is not subnormal, `2 ^ 52`. Powers of two have it. -/
def leastNormal : Nat := 0x10000000000000

/-- The magnitude zero. -/
def zero : Magnitude := ⟨0, minExponent⟩

/-- `n · 2 ^ e`, or `n` itself where `e` is negative. -/
def scaleUp (n : Nat) (e : Int) : Nat := n * Nat.pow 2 e.toNat

/-- The integer part of the binary logarithm of `num / den`, for positive `num` and `den`. -/
def floorLog2 (num den : Nat) : Int :=
  let estimate : Int := (Nat.log2 num : Int) - Nat.log2 den
  if scaleUp den estimate ≤ scaleUp num (-estimate) then estimate else estimate - 1

/-- The exponent in whose units `num / den` is rounded, for positive `num` and `den`. -/
def lastPlace (num den : Nat) : Int := max (floorLog2 num den - 52) minExponent

/-- The magnitude nearest to `num / den`, for positive `num` and `den`, with an exponent that may
be above the greatest one. -/
def rounded (num den : Nat) : Magnitude :=
  let e := lastPlace num den
  let m := roundHalfEven (scaleUp num (-e)) (scaleUp den e)
  if m = 2 * leastNormal then ⟨leastNormal, e + 1⟩ else ⟨m, e⟩

/-- The magnitude nearest to `num / den`, or `none` when that is above all of them. -/
def ofRatio? (num den : Nat) : Option Magnitude :=
  if num = 0 then some zero
  else if maxExponent < (rounded num den).exponent then none
  else some (rounded num den)

/-- The magnitude nearest to a natural. -/
def ofNat? (n : Nat) : Option Magnitude := ofRatio? n 1

/-- The product, rounded. -/
def mul? (x y : Magnitude) : Option Magnitude :=
  let e := x.exponent + y.exponent
  ofRatio? (scaleUp (x.mantissa * y.mantissa) e) (scaleUp 1 (-e))

/-- The quotient, rounded. -/
def div? (x y : Magnitude) : Option Magnitude :=
  let e := x.exponent - y.exponent
  ofRatio? (scaleUp x.mantissa e) (scaleUp y.mantissa (-e))

/-- The magnitude nearest to a power of ten. -/
def powTen? (n : Nat) : Option Magnitude := ofNat? (Nat.pow 10 n)

/-- The greatest power of ten that the format reaches. -/
def maxPowTen : Nat := 308

/-- A magnitude divided `steps` times by the greatest power of ten, each quotient rounded.
Nothing is left to do once it is zero. -/
def divMaxPowTen? (x : Magnitude) : Nat → Option Magnitude
  | 0 => some x
  | steps + 1 =>
    if x.mantissa = 0 then some x
    else do (← x.div? (← powTen? maxPowTen)).divMaxPowTen? steps

/-- A magnitude divided by a power of ten: as long as that is above the greatest one, by this
one first. -/
def divPowTen? (x : Magnitude) (n : Nat) : Option Magnitude := do
  let steps := (n - 1) / maxPowTen
  (← x.divMaxPowTen? steps).div? (← powTen? (n - steps * maxPowTen))

/-- The magnitude that the decimal `significand · 10 ^ exponent` is read as: the significand is
rounded first and then scaled by a rounded power of ten, with one more rounding. That is within
an ulp or so of the decimal, and not always nearest to it. `none` stands for a decimal out of
range. -/
def ofDecimal? (significand : Nat) (exponent : Int) : Option Magnitude := do
  let f ← ofNat? significand
  if exponent < 0 then f.divPowTen? (-exponent).toNat
  else if exponent ≤ maxPowTen then f.mul? (← powTen? exponent.toNat)
  else if f.mantissa = 0 then some f
  else none

end Magnitude

end Rollout.Decimal
