import Mathlib.Algebra.Order.Field.Power
import Mathlib.Data.Rat.Cast.Order
import Mathlib.Tactic.FieldSimp
import Mathlib.Tactic.Linarith
import Mathlib.Tactic.NormNum
import Mathlib.Tactic.Positivity
import Mathlib.Tactic.Ring
import Rollout.Decimal.Binary64

/-!
# Rounding to binary64

A ratio of naturals is rounded by exact arithmetic on naturals alone. What that comes to is said
here about the rational number that the ratio is: around each magnitude there is an interval of the
numbers that are rounded to it. The interval ends half-way to the neighbours, and its ends belong to
the magnitude with the even mantissa.

## Main definitions

* `Within` — a number is in an interval whose ends depend on the parity of a mantissa
* `Magnitude.toRat` — the number that a magnitude is
* `Magnitude.Attracts` — a number is in the interval of a magnitude
* `Magnitude.IsCanonical`, `Magnitude.IsFinite` — the magnitudes that the format has

## Main results

* `roundHalfEven_within`, `Magnitude.floorLog2_spec` — the parts of rounding
* `Magnitude.Attracts.unique`, `Magnitude.Attracts.nearest` — a number is in one interval only,
  that of the nearest magnitude
* `Magnitude.ofRatio?_eq_some_iff` — a ratio is rounded to the magnitude in whose interval it is
* `Magnitude.IsFinite.of_ofDecimal?` — a decimal is read as a magnitude of the format
-/

namespace Rollout.Decimal

/-! ### Naturals -/

/-- A number is in the interval of the numbers that are rounded to `m`. The ends of the interval
belong to it when `m` is even. -/
def Within (m : ℕ) (low high v : ℚ) : Prop :=
  (low < v ∧ v < high) ∨ (m % 2 = 0 ∧ low ≤ v ∧ v ≤ high)

section Within

variable {m : ℕ} {low high u v w : ℚ}

theorem Within.bounds (h : Within m low high v) : low ≤ v ∧ v ≤ high := by
  rcases h with ⟨h₁, h₂⟩ | ⟨-, h⟩
  · exact ⟨h₁.le, h₂.le⟩
  · exact h

theorem within_mul {c : ℚ} (hc : 0 < c) :
    Within m (low * c) (high * c) (v * c) ↔ Within m low high v := by
  simp only [Within, mul_lt_mul_iff_left₀ hc, mul_le_mul_iff_left₀ hc]

theorem Within.between (hu : Within m low high u) (hw : Within m low high w) (huv : u ≤ v)
    (hvw : v ≤ w) : Within m low high v := by
  rcases hu with ⟨hu, -⟩ | ⟨heven, hu, -⟩
  · rcases hw with ⟨-, hw⟩ | ⟨heven, -, hw⟩
    · exact .inl ⟨hu.trans_le huv, hvw.trans_lt hw⟩
    · exact .inr ⟨heven, hu.le.trans huv, hvw.trans hw⟩
  · exact .inr ⟨heven, hu.trans huv, hvw.trans hw.bounds.2⟩

/-- A number below a natural is rounded to that natural at most. -/
theorem Within.le_of_lt {n : ℕ} (h : Within m (m - 1 / 2) (m + 1 / 2) v) (hv : v < n) : m ≤ n := by
  have : (m : ℚ) < n + 1 := by linarith [h.bounds.1]
  exact Nat.lt_succ_iff.mp (by exact_mod_cast this)

/-- A number from a natural on is rounded to that natural at least. -/
theorem Within.ge_of_le {n : ℕ} (h : Within m (m - 1 / 2) (m + 1 / 2) v) (hv : n ≤ v) : n ≤ m := by
  have : (n : ℚ) < m + 1 := by linarith [h.bounds.2]
  exact Nat.lt_succ_iff.mp (by exact_mod_cast this)

end Within

variable {num den : ℕ}

theorem roundHalfEven_within (num : ℕ) (h : 0 < den) :
    Within (roundHalfEven num den) (roundHalfEven num den - 1 / 2) (roundHalfEven num den + 1 / 2)
      (num / den) := by
  have hden : (0 : ℚ) < den := by exact_mod_cast h
  have hdiv : (den : ℚ) * (num / den : ℕ) + (num % den : ℕ) = num := by
    exact_mod_cast Nat.div_add_mod num den
  have hmod : ((num % den : ℕ) : ℚ) < den := by exact_mod_cast Nat.mod_lt num h
  have hratio : (num : ℚ) / den = (num / den : ℕ) + (num % den : ℕ) / den := by
    rw [← hdiv]
    field_simp
  have hrest : (0 : ℚ) ≤ (num % den : ℕ) / den := by positivity
  have hless : ((num % den : ℕ) : ℚ) / den < 1 := (div_lt_one hden).mpr hmod
  unfold roundHalfEven Within
  rw [hratio]
  dsimp only
  split
  case isTrue hdown =>
    have : ((num % den : ℕ) : ℚ) / den < 1 / 2 := by
      rw [div_lt_div_iff₀ hden two_pos]
      exact_mod_cast by omega
    exact .inl ⟨by linarith, by linarith⟩
  case isFalse hdown =>
    split
    case isTrue hup =>
      have : (1 : ℚ) / 2 < (num % den : ℕ) / den := by
        rw [div_lt_div_iff₀ two_pos hden]
        exact_mod_cast by omega
      push_cast
      exact .inl ⟨by linarith, by linarith⟩
    case isFalse hup =>
      -- the number is half-way between two naturals
      have hhalf : ((num % den : ℕ) : ℚ) / den = 1 / 2 := by
        rw [div_eq_div_iff hden.ne' two_ne_zero]
        exact_mod_cast by omega
      rw [hhalf]
      split
      case isTrue heven => exact .inr ⟨heven, by linarith, le_rfl⟩
      case isFalse hodd =>
        push_cast
        exact .inr ⟨by omega, by linarith, by linarith⟩

namespace Magnitude

/-! ### Powers of two -/

theorem zpow_mul_pow_toNat {c : ℚ} (hc : c ≠ 0) (t : ℤ) : c ^ t * c ^ (-t).toNat = c ^ t.toNat := by
  obtain ⟨n, rfl | rfl⟩ := t.eq_nat_or_neg
  · simp
  · simp [hc]

theorem cast_scaleUp (n : ℕ) (t : ℤ) : (scaleUp n t : ℚ) = n * 2 ^ t.toNat := by
  simp [scaleUp]

theorem scaleUp_pos {n : ℕ} (h : 0 < n) (t : ℤ) : 0 < scaleUp n t :=
  Nat.mul_pos h (Nat.pow_pos two_pos)

/-- A ratio is divided by a power of two. -/
theorem scaleUp_div_scaleUp (num den : ℕ) (t : ℤ) :
    (scaleUp num (-t) : ℚ) / scaleUp den t = num / den / 2 ^ t := by
  have hpow := zpow_mul_pow_toNat (c := 2) two_ne_zero t
  rw [cast_scaleUp, cast_scaleUp, ← hpow]
  have : (2 : ℚ) ^ (-t).toNat ≠ 0 := by positivity
  field_simp

theorem scaleUp_le_scaleUp_iff (num : ℕ) (hden : 0 < den) (t : ℤ) :
    scaleUp den t ≤ scaleUp num (-t) ↔ (2 : ℚ) ^ t ≤ num / den := by
  have hscaled : (0 : ℚ) < scaleUp den t := by exact_mod_cast scaleUp_pos hden t
  have hpow : (0 : ℚ) < 2 ^ t := by positivity
  rw [← one_le_div₀ hpow, ← scaleUp_div_scaleUp, one_le_div₀ hscaled, Nat.cast_le]

/-- The difference of the logarithms is that of the ratio or one too large. -/
theorem log2_sub_log2_spec (hnum : 0 < num) (hden : 0 < den) :
    (2 : ℚ) ^ ((num.log2 : ℤ) - den.log2 - 1) ≤ num / den ∧
      (num / den : ℚ) < 2 ^ ((num.log2 : ℤ) - den.log2 + 1) := by
  have hd : (0 : ℚ) < den := by exact_mod_cast hden
  have hnum_ge : (2 : ℚ) ^ (num.log2 : ℤ) ≤ num := by exact_mod_cast Nat.log2_self_le hnum.ne'
  have hnum_lt : (num : ℚ) < 2 ^ ((num.log2 : ℤ) + 1) := by
    exact_mod_cast Nat.lt_log2_self (n := num)
  have hden_ge : (2 : ℚ) ^ (den.log2 : ℤ) ≤ den := by exact_mod_cast Nat.log2_self_le hden.ne'
  have hden_lt : (den : ℚ) < 2 ^ ((den.log2 : ℤ) + 1) := by
    exact_mod_cast Nat.lt_log2_self (n := den)
  constructor
  · rw [le_div_iff₀ hd]
    calc (2 : ℚ) ^ ((num.log2 : ℤ) - den.log2 - 1) * den
        ≤ 2 ^ ((num.log2 : ℤ) - den.log2 - 1) * 2 ^ ((den.log2 : ℤ) + 1) := by gcongr
      _ = 2 ^ (num.log2 : ℤ) := by rw [← zpow_add₀ two_ne_zero]; congr 1; ring
      _ ≤ num := hnum_ge
  · rw [div_lt_iff₀ hd]
    calc (num : ℚ) < 2 ^ ((num.log2 : ℤ) + 1) := hnum_lt
      _ = 2 ^ ((num.log2 : ℤ) - den.log2 + 1) * 2 ^ (den.log2 : ℤ) := by
        rw [← zpow_add₀ two_ne_zero]; congr 1; ring
      _ ≤ 2 ^ ((num.log2 : ℤ) - den.log2 + 1) * den := by gcongr

theorem floorLog2_spec (hnum : 0 < num) (hden : 0 < den) :
    (2 : ℚ) ^ floorLog2 num den ≤ num / den ∧ (num / den : ℚ) < 2 ^ (floorLog2 num den + 1) := by
  obtain ⟨hlow, hhigh⟩ := log2_sub_log2_spec hnum hden
  unfold floorLog2
  dsimp only
  split
  case isTrue h => exact ⟨(scaleUp_le_scaleUp_iff num hden _).mp h, hhigh⟩
  case isFalse h =>
    rw [scaleUp_le_scaleUp_iff num hden, not_le] at h
    exact ⟨hlow, by simpa using h⟩

/-! ### The intervals of the magnitudes -/

/-- The number that a magnitude is. -/
def toRat (x : Magnitude) : ℚ := x.mantissa * 2 ^ x.exponent

/-- How far the interval of a magnitude reaches down, in units of its last place. Below a power of
two the neighbour is nearer, except for the least one. -/
def reach (x : Magnitude) : ℚ :=
  if x.mantissa = leastNormal ∧ minExponent < x.exponent then 1 / 4 else 1 / 2

/-- The lower end of the interval of a magnitude. -/
def low (x : Magnitude) : ℚ := (x.mantissa - x.reach) * 2 ^ x.exponent

/-- The upper end of the interval of a magnitude. -/
def high (x : Magnitude) : ℚ := (x.mantissa + 1 / 2) * 2 ^ x.exponent

/-- A number is in the interval of a magnitude. -/
def Attracts (x : Magnitude) (v : ℚ) : Prop := Within x.mantissa x.low x.high v

/-- A magnitude is written with the mantissa of a number that is not subnormal, or else with the
least exponent. -/
def IsCanonical (x : Magnitude) : Prop :=
  (leastNormal ≤ x.mantissa ∧ x.mantissa < 2 * leastNormal ∧ minExponent ≤ x.exponent) ∨
    (x.mantissa < leastNormal ∧ x.exponent = minExponent)

theorem reach_pos (x : Magnitude) : 0 < x.reach := by
  unfold reach
  split <;> norm_num

theorem reach_le (x : Magnitude) : x.reach ≤ 1 / 2 := by
  unfold reach
  split <;> norm_num

theorem high_eq (x : Magnitude) : x.high = x.toRat + 2 ^ x.exponent / 2 := by
  unfold high toRat
  ring

theorem low_eq (x : Magnitude) : x.low = x.toRat - x.reach * 2 ^ x.exponent := by
  unfold low toRat
  ring

/-- A magnitude attracts the number that it is. -/
theorem attracts_toRat (x : Magnitude) : x.Attracts x.toRat := by
  have hpow : (0 : ℚ) < 2 ^ x.exponent := by positivity
  refine .inl ⟨mul_lt_mul_of_pos_right ?_ hpow, mul_lt_mul_of_pos_right ?_ hpow⟩
  · linarith [x.reach_pos]
  · linarith

theorem attracts_iff_within_div {x : Magnitude} {v : ℚ} :
    x.Attracts v ↔
      Within x.mantissa (x.mantissa - x.reach) (x.mantissa + 1 / 2) (v / 2 ^ x.exponent) := by
  have hpow : (0 : ℚ) < 2 ^ x.exponent := by positivity
  rw [← within_mul hpow, div_mul_cancel₀ v hpow.ne']
  rfl

variable {x y : Magnitude} {v : ℚ}

/-- A magnitude is below another one, at least as far as the neighbours of both are. If the one is
next to the other, one of the mantissas is odd. -/
structure Apart (x y : Magnitude) : Prop where
  above : x.toRat + 2 ^ x.exponent ≤ y.toRat
  below : x.toRat ≤ y.toRat - 2 * (y.reach * 2 ^ y.exponent)
  odd : x.toRat + 2 ^ x.exponent = y.toRat → x.mantissa % 2 = 1 ∨ y.mantissa % 2 = 1

/-- The interval of the lower magnitude ends half-way to the upper one, if not before. -/
theorem Apart.high_le (h : Apart x y) : x.high ≤ (x.toRat + y.toRat) / 2 := by
  rw [x.high_eq]
  linarith [h.above]

/-- The interval of the upper magnitude starts half-way to the lower one, if not later. -/
theorem Apart.le_low (h : Apart x y) : (x.toRat + y.toRat) / 2 ≤ y.low := by
  rw [y.low_eq]
  linarith [h.below]

theorem Apart.not_attracts (h : Apart x y) (hx : x.Attracts v) : ¬ y.Attracts v := by
  intro hy
  have hhigh := h.high_le
  have hlow := h.le_low
  rcases hx with ⟨-, hv⟩ | ⟨hxeven, -, hv⟩
  · linarith [hy.bounds.1]
  · rcases hy with ⟨hv', -⟩ | ⟨hyeven, hv', -⟩
    · linarith
    · -- the number is the end of both intervals
      have hodd := h.odd (by linarith [x.high_eq])
      omega

/-- Of two magnitudes that are apart, the one that attracts a number is nearer to it. -/
theorem Apart.nearer (h : Apart x y) :
    (x.Attracts v → |x.toRat - v| ≤ |y.toRat - v|) ∧
      (y.Attracts v → |y.toRat - v| ≤ |x.toRat - v|) := by
  have hpow : (0 : ℚ) < 2 ^ x.exponent := by positivity
  have habove := h.above
  constructor
  · intro hx
    have hv := hx.bounds.2.trans h.high_le
    rw [abs_of_nonneg (a := y.toRat - v) (by linarith)]
    exact abs_sub_le_iff.mpr ⟨by linarith, by linarith⟩
  · intro hy
    have hv := h.le_low.trans hy.bounds.1
    rw [abs_of_nonpos (a := x.toRat - v) (by linarith)]
    exact abs_sub_le_iff.mpr ⟨by linarith, by linarith⟩

theorem apart_of_mantissa_lt (hexp : x.exponent = y.exponent) (hman : x.mantissa < y.mantissa) :
    Apart x y := by
  have hpow : (0 : ℚ) < 2 ^ y.exponent := by positivity
  have hman' : (x.mantissa : ℚ) + 1 ≤ y.mantissa := by exact_mod_cast hman
  have hnext : x.toRat + 2 ^ x.exponent = (x.mantissa + 1) * 2 ^ y.exponent := by
    rw [toRat, hexp]
    ring
  have hdown : y.toRat - 2 * (y.reach * 2 ^ y.exponent) =
      (y.mantissa - 2 * y.reach) * 2 ^ y.exponent := by
    unfold toRat
    ring
  refine ⟨?_, ?_, fun heq => ?_⟩
  · rw [hnext]
    exact mul_le_mul_of_nonneg_right hman' hpow.le
  · rw [hdown, toRat, hexp]
    exact mul_le_mul_of_nonneg_right (by linarith [y.reach_le]) hpow.le
  · rw [hnext, toRat, mul_left_inj' hpow.ne'] at heq
    have : x.mantissa + 1 = y.mantissa := by exact_mod_cast heq
    omega

/-- The neighbour below a magnitude that is not subnormal is at least half a unit below the least
mantissa. -/
theorem le_mantissa_sub_reach (hexp : minExponent < x.exponent) (hman : leastNormal ≤ x.mantissa) :
    (leastNormal : ℚ) - 1 / 2 ≤ x.mantissa - 2 * x.reach := by
  unfold reach
  split
  case isTrue h =>
    rw [h.1]
    linarith
  case isFalse h =>
    have : leastNormal + 1 ≤ x.mantissa := by omega
    have : (leastNormal : ℚ) + 1 ≤ x.mantissa := by exact_mod_cast this
    linarith

theorem apart_of_exponent_lt (hx : x.IsCanonical) (hy : y.IsCanonical)
    (hexp : x.exponent < y.exponent) : Apart x y := by
  have hymin : minExponent < y.exponent := by
    rcases hx with ⟨-, -, h⟩ | ⟨-, h⟩ <;> omega
  have hyman : leastNormal ≤ y.mantissa := by
    rcases hy with ⟨h, -⟩ | ⟨-, h⟩ <;> omega
  have hxman : x.mantissa + 1 ≤ 2 * leastNormal := by
    rcases hx with ⟨-, h, -⟩ | ⟨h, -⟩ <;> omega
  have hxpow : (0 : ℚ) < 2 ^ x.exponent := by positivity
  have hypow : (0 : ℚ) < 2 ^ y.exponent := by positivity
  have hdouble : (2 : ℚ) ^ x.exponent * 2 ≤ 2 ^ y.exponent := by
    rw [← zpow_add_one₀ two_ne_zero]
    exact zpow_le_zpow_right₀ (by norm_num) (by omega)
  have hxman' : (x.mantissa : ℚ) + 1 ≤ 2 * leastNormal := by exact_mod_cast hxman
  have hyman' : (leastNormal : ℚ) ≤ y.mantissa := by exact_mod_cast hyman
  have hnext : x.toRat + 2 ^ x.exponent = (x.mantissa + 1) * 2 ^ x.exponent := by
    unfold toRat
    ring
  -- the least mantissa with the exponent of `y` is between the two
  have hbetween : 2 * leastNormal * (2 : ℚ) ^ x.exponent ≤ y.toRat := by
    calc 2 * leastNormal * (2 : ℚ) ^ x.exponent = leastNormal * (2 ^ x.exponent * 2) := by ring
      _ ≤ leastNormal * 2 ^ y.exponent := by gcongr
      _ ≤ y.toRat := mul_le_mul_of_nonneg_right hyman' hypow.le
  refine ⟨?_, ?_, fun heq => .inl ?_⟩
  · rw [hnext]
    exact (mul_le_mul_of_nonneg_right hxman' hxpow.le).trans hbetween
  · have hpos : (0 : ℚ) ≤ leastNormal - 1 / 2 := by norm_num [leastNormal]
    calc x.toRat ≤ (2 * leastNormal - 1) * 2 ^ x.exponent :=
          mul_le_mul_of_nonneg_right (by linarith) hxpow.le
      _ = (leastNormal - 1 / 2) * (2 ^ x.exponent * 2) := by ring
      _ ≤ (leastNormal - 1 / 2) * 2 ^ y.exponent := by gcongr
      _ ≤ (y.mantissa - 2 * y.reach) * 2 ^ y.exponent :=
          mul_le_mul_of_nonneg_right (le_mantissa_sub_reach hymin hyman) hypow.le
      _ = y.toRat - 2 * (y.reach * 2 ^ y.exponent) := by
        unfold toRat
        ring
  · rw [← heq, hnext, mul_le_mul_iff_left₀ hxpow] at hbetween
    have hlast : 2 * leastNormal ≤ x.mantissa + 1 := by exact_mod_cast hbetween
    have hodd : x.mantissa = 2 * leastNormal - 1 := by omega
    rw [hodd]
    decide

/-- Two magnitudes are the same or apart. -/
theorem eq_or_apart (hx : x.IsCanonical) (hy : y.IsCanonical) : x = y ∨ Apart x y ∨ Apart y x := by
  rcases lt_trichotomy x.exponent y.exponent with hexp | hexp | hexp
  · exact .inr (.inl (apart_of_exponent_lt hx hy hexp))
  · rcases lt_trichotomy x.mantissa y.mantissa with hman | hman | hman
    · exact .inr (.inl (apart_of_mantissa_lt hexp hman))
    · exact .inl ((mk.injEq ..).mpr ⟨hman, hexp⟩)
    · exact .inr (.inr (apart_of_mantissa_lt hexp.symm hman))
  · exact .inr (.inr (apart_of_exponent_lt hy hx hexp))

/-- No number is attracted by two magnitudes. -/
theorem Attracts.unique (hx : x.IsCanonical) (hy : y.IsCanonical) (hxv : x.Attracts v)
    (hyv : y.Attracts v) : x = y := by
  rcases eq_or_apart hx hy with heq | h | h
  · exact heq
  · exact absurd hyv (h.not_attracts hxv)
  · exact absurd hxv (h.not_attracts hyv)

/-- The magnitude that attracts a number is nearest to it. -/
theorem Attracts.nearest (hx : x.IsCanonical) (hy : y.IsCanonical) (hv : x.Attracts v) :
    |x.toRat - v| ≤ |y.toRat - v| := by
  rcases eq_or_apart hx hy with rfl | h | h
  · exact le_rfl
  · exact h.nearer.1 hv
  · exact h.nearer.2 hv

/-! ### Rounding a ratio -/

theorem div_lastPlace_lt (hnum : 0 < num) (hden : 0 < den) :
    (num / den / 2 ^ lastPlace num den : ℚ) < (2 * leastNormal : ℕ) := by
  rw [div_lt_iff₀ (by positivity)]
  have hexp : floorLog2 num den + 1 ≤ 53 + lastPlace num den := by
    unfold lastPlace
    omega
  calc (num / den : ℚ) < 2 ^ (floorLog2 num den + 1) := (floorLog2_spec hnum hden).2
    _ ≤ 2 ^ (53 + lastPlace num den) := zpow_le_zpow_right₀ (by norm_num) hexp
    _ = (2 * leastNormal : ℕ) * 2 ^ lastPlace num den := by
      rw [zpow_add₀ two_ne_zero]
      norm_num [leastNormal]

theorem le_div_lastPlace (hnum : 0 < num) (hden : 0 < den) (h : minExponent < lastPlace num den) :
    (leastNormal : ℚ) ≤ num / den / 2 ^ lastPlace num den := by
  rw [le_div_iff₀ (by positivity)]
  have hexp : 52 + lastPlace num den = floorLog2 num den := by
    unfold lastPlace at h ⊢
    omega
  calc (leastNormal : ℚ) * 2 ^ lastPlace num den = 2 ^ (52 + lastPlace num den) := by
        rw [zpow_add₀ two_ne_zero]
        norm_num [leastNormal]
    _ = 2 ^ floorLog2 num den := by rw [hexp]
    _ ≤ num / den := (floorLog2_spec hnum hden).1

theorem rounded_spec (hnum : 0 < num) (hden : 0 < den) :
    (rounded num den).IsCanonical ∧ (rounded num den).Attracts (num / den) := by
  have hbelow := div_lastPlace_lt hnum hden
  have habove := le_div_lastPlace hnum hden
  have hmin : minExponent ≤ lastPlace num den := le_max_right _ _
  have hnear := roundHalfEven_within (scaleUp num (-lastPlace num den))
    (scaleUp_pos hden (lastPlace num den))
  rw [scaleUp_div_scaleUp] at hnear
  unfold rounded
  dsimp only
  -- from here on the exponent and the rounded natural are any with these bounds
  generalize lastPlace num den = e at *
  generalize roundHalfEven (scaleUp num (-e)) (scaleUp den e) = m at *
  have hle : m ≤ 2 * leastNormal := hnear.le_of_lt hbelow
  have hge (h : minExponent < e) : leastNormal ≤ m := hnear.ge_of_le (habove h)
  split
  case isTrue hcarry =>
    have hexp : minExponent < e + 1 := by omega
    have hman : leastNormal < 2 * leastNormal := by decide
    have heven : leastNormal % 2 = 0 := by decide
    refine ⟨.inl ⟨le_rfl, hman, hexp.le⟩, attracts_iff_within_div.mpr (.inr ⟨heven, ?_⟩)⟩
    have hhalf : (num / den / 2 ^ (e + 1) : ℚ) = num / den / 2 ^ e / 2 := by
      rw [zpow_add_one₀ two_ne_zero, div_mul_eq_div_div]
    have hreach : reach ⟨leastNormal, e + 1⟩ = 1 / 4 := if_pos ⟨rfl, hexp⟩
    have hlow := hnear.bounds.1
    rw [hcarry] at hlow
    push_cast at hlow hbelow
    rw [hreach, hhalf]
    constructor <;> linarith
  case isFalse hfits =>
    have hman : m < 2 * leastNormal := by omega
    refine ⟨?_, attracts_iff_within_div.mpr ?_⟩
    · rcases hmin.lt_or_eq with h | h
      · exact .inl ⟨hge h, hman, hmin⟩
      · rcases Nat.lt_or_ge m leastNormal with hsmall | hlarge
        · exact .inr ⟨hsmall, h.symm⟩
        · exact .inl ⟨hlarge, hman, hmin⟩
    · unfold reach
      split
      case isTrue hleast =>
        obtain ⟨rfl, hexp⟩ := hleast
        have heven : leastNormal % 2 = 0 := by decide
        exact .inr ⟨heven, by linarith [habove hexp], hnear.bounds.2⟩
      case isFalse => exact hnear

/-- A magnitude is one of the format. -/
structure IsFinite (x : Magnitude) : Prop where
  canonical : x.IsCanonical
  inRange : x.exponent ≤ maxExponent

theorem isFinite_zero : zero.IsFinite :=
  ⟨.inr ⟨by decide, rfl⟩, by decide⟩

/-- A ratio is rounded to the one magnitude that attracts it, unless that is out of range. -/
theorem ofRatio?_eq_some_iff (num : ℕ) (hden : 0 < den) :
    ofRatio? num den = some x ↔ x.IsFinite ∧ x.Attracts (num / den) := by
  rcases Nat.eq_zero_or_pos num with rfl | hnum
  · have hattracts : zero.Attracts ((0 : ℕ) / den) := by
      simpa [toRat, zero] using attracts_toRat zero
    rw [ofRatio?, if_pos rfl, Option.some_inj]
    constructor
    · rintro rfl
      exact ⟨isFinite_zero, hattracts⟩
    · rintro ⟨hx, hv⟩
      exact Attracts.unique isFinite_zero.canonical hx.canonical hattracts hv
  · obtain ⟨hcanonical, hattracts⟩ := rounded_spec hnum hden
    rw [ofRatio?, if_neg hnum.ne', Option.ite_none_left_eq_some, Option.some_inj, not_lt]
    constructor
    · rintro ⟨hrange, rfl⟩
      exact ⟨⟨hcanonical, hrange⟩, hattracts⟩
    · rintro ⟨hx, hv⟩
      obtain rfl := Attracts.unique hcanonical hx.canonical hattracts hv
      exact ⟨hx.inRange, rfl⟩

/-! ### Reading a decimal -/

theorem IsFinite.of_ofRatio? (hden : 0 < den) (h : ofRatio? num den = some x) : x.IsFinite :=
  ((ofRatio?_eq_some_iff num hden).mp h).1

theorem IsFinite.of_ofNat? {n : ℕ} (h : ofNat? n = some x) : x.IsFinite :=
  .of_ofRatio? one_pos h

theorem IsFinite.of_mul? {z : Magnitude} (h : x.mul? y = some z) : z.IsFinite :=
  .of_ofRatio? (scaleUp_pos one_pos _) h

theorem IsFinite.of_div? {z : Magnitude} (hy : 0 < y.mantissa) (h : x.div? y = some z) :
    z.IsFinite :=
  .of_ofRatio? (scaleUp_pos hy _) h

/-- Only numbers far below one are rounded to zero. -/
theorem Attracts.mantissa_pos (hx : x.IsCanonical) (hv : x.Attracts v) (h : 1 ≤ v) :
    0 < x.mantissa := by
  by_contra hzero
  have hman : x.mantissa = 0 := by omega
  have hexp : x.exponent ≤ 0 := by
    rcases hx with ⟨hle, -⟩ | ⟨-, hmin⟩
    · exact absurd hle (by rw [hman]; decide)
    · rw [hmin]
      decide
  have hpow : (2 : ℚ) ^ x.exponent ≤ 1 := zpow_le_one_of_nonpos₀ (by norm_num) hexp
  have hhigh := hv.bounds.2
  rw [high, hman] at hhigh
  push_cast at hhigh
  linarith

theorem mantissa_pos_of_powTen? {n : ℕ} (h : powTen? n = some x) : 0 < x.mantissa := by
  obtain ⟨hx, hv⟩ := (ofRatio?_eq_some_iff (10 ^ n) one_pos).mp h
  refine hv.mantissa_pos hx.canonical ?_
  have : (1 : ℚ) ≤ 10 ^ n := one_le_pow₀ (by norm_num)
  simpa using this

theorem IsFinite.of_divPowTen? {n : ℕ} (h : x.divPowTen? n = some y) : y.IsFinite := by
  obtain ⟨q, -, h⟩ := Option.bind_eq_some_iff.mp h
  obtain ⟨ten, hten, h⟩ := Option.bind_eq_some_iff.mp h
  exact .of_div? (mantissa_pos_of_powTen? hten) h

/-- A decimal is read as a magnitude of the format, however the roundings on the way went. -/
theorem IsFinite.of_ofDecimal? {n : ℕ} {e : ℤ} (h : ofDecimal? n e = some x) : x.IsFinite := by
  obtain ⟨f, hf, h⟩ := Option.bind_eq_some_iff.mp h
  split at h
  case isTrue => exact .of_divPowTen? h
  case isFalse =>
    split at h
    case isTrue =>
      obtain ⟨ten, -, h⟩ := Option.bind_eq_some_iff.mp h
      exact .of_mul? h
    case isFalse =>
      obtain ⟨-, hx⟩ := Option.ite_none_right_eq_some.mp h
      obtain rfl := Option.some_inj.mp hx
      exact .of_ofNat? hf

end Magnitude

end Rollout.Decimal
