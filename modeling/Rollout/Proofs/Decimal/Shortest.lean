import Mathlib.Algebra.Order.Floor.Semifield
import Mathlib.Data.Rat.Floor
import Rollout.Decimal.Shortest
import Rollout.Proofs.Decimal.Rounding

/-!
# The shortest decimal

The digits that are written for a magnitude are found grid by grid, from one digit to seventeen, in
exact arithmetic on naturals. They make a decimal that the magnitude attracts, with as few digits
as any such decimal has, and none with as few digits is nearer.

## Main definitions

* `IsDecimal` — a number can be written with so many digits
* `Magnitude.IsNearest` — a point of a grid is nearest to a magnitude among those it attracts
* `Magnitude.IsShortest` — a decimal is the shortest of a magnitude

## Main results

* `Magnitude.covers_iff` — the interval that is tested is that of rounding
* `Magnitude.nearestOnGrid_spec` — the two points around a magnitude are enough
* `Magnitude.shortest_isShortest` — the digits and the exponent make the shortest decimal
-/

namespace Rollout.Decimal

/-- A number can be written with `n` digits and a power of ten. -/
def IsDecimal (n : ℕ) (v : ℚ) : Prop := ∃ (d : ℕ) (k : ℤ), d < 10 ^ n ∧ v = d * 10 ^ k

theorem IsDecimal.mono {m n : ℕ} {v : ℚ} (h : IsDecimal m v) (hle : m ≤ n) : IsDecimal n v := by
  obtain ⟨d, k, hd, rfl⟩ := h
  exact ⟨d, k, hd.trans_le (Nat.pow_le_pow_right (by norm_num) hle), rfl⟩

/-- A positive number with `n` digits is on the grid of `n` digits or on a coarser one. -/
theorem IsDecimal.exists_onGrid {n : ℕ} {e : ℤ} {v : ℚ} (h : IsDecimal (n + 1) v)
    (he : 10 ^ e ≤ v) : ∃ c : ℕ, v = c * 10 ^ (e - n) := by
  obtain ⟨d, k, hd, rfl⟩ := h
  have hk : e - n ≤ k := by
    have hten : (0 : ℚ) < 10 ^ k := by positivity
    have hd' : (d : ℚ) < 10 ^ ((n + 1 : ℕ) : ℤ) := by exact_mod_cast hd
    have hlt : (10 : ℚ) ^ e < 10 ^ (((n + 1 : ℕ) : ℤ) + k) := by
      rw [zpow_add₀ (by norm_num)]
      exact he.trans_lt (mul_lt_mul_of_pos_right hd' hten)
    have := (zpow_lt_zpow_iff_right₀ (by norm_num)).mp hlt
    push_cast at this
    omega
  obtain ⟨i, hi⟩ := Int.le.dest hk
  refine ⟨d * 10 ^ i, ?_⟩
  rw [← hi, zpow_add₀ (by norm_num), zpow_natCast]
  push_cast
  ring

namespace Magnitude

/-! ### Ratios of naturals -/

theorem fraction_pos (n : ℕ) (k t : ℤ) : 0 < (fraction n k t).2 :=
  scaleUp_pos (Nat.pow_pos (by norm_num)) _

theorem fraction_eq (n : ℕ) (k t : ℤ) :
    ((fraction n k t).1 : ℚ) / (fraction n k t).2 = n * 10 ^ k * 2 ^ t := by
  have hten := zpow_mul_pow_toNat (c := 10) (by norm_num) k
  have htwo := zpow_mul_pow_toNat (c := 2) (by norm_num) t
  have : (10 : ℚ) ^ (-k).toNat ≠ 0 := by positivity
  have : (2 : ℚ) ^ (-t).toNat ≠ 0 := by positivity
  simp only [fraction, cast_scaleUp, Nat.pow_eq, Nat.cast_mul, Nat.cast_pow, Nat.cast_ofNat]
  rw [← hten, ← htwo]
  field_simp

variable {x : Magnitude} {d : ℕ} {k : ℤ}

/-- A ratio of naturals is compared with the ends of an interval by cross-multiplication. -/
theorem within_div_iff {m lower upper a b : ℕ} (hb : 0 < b) :
    Within m lower upper (a / b) ↔
      if m % 2 = 0 then lower * b ≤ a ∧ a ≤ upper * b else lower * b < a ∧ a < upper * b := by
  have hb' : (0 : ℚ) < b := by exact_mod_cast hb
  rw [Within, lt_div_iff₀ hb', div_lt_iff₀ hb', le_div_iff₀ hb', div_le_iff₀ hb']
  norm_cast
  split
  case isTrue heven =>
    constructor
    · rintro (h | ⟨-, h⟩)
      · exact ⟨h.1.le, h.2.le⟩
      · exact h
    · exact fun h => .inr ⟨heven, h⟩
  case isFalse hodd =>
    constructor
    · rintro (h | ⟨heven, -⟩)
      · exact h
      · exact absurd heven hodd
    · exact fun h => .inl h

theorem quarters (x : Magnitude) : (2 : ℚ) ^ x.exponent * 2 ^ (2 - x.exponent) = 4 := by
  rw [← zpow_add₀ two_ne_zero, add_sub_cancel]
  norm_num

theorem low_mul (hx : 0 < x.mantissa) : x.low * 2 ^ (2 - x.exponent) =
    (4 * x.mantissa -
      (if x.mantissa = leastNormal ∧ minExponent < x.exponent then 1 else 2) : ℕ) := by
  rw [low, mul_assoc, quarters, reach]
  split
  · rw [Nat.cast_sub (by omega)]
    push_cast
    ring
  · rw [Nat.cast_sub (by omega)]
    push_cast
    ring

theorem high_mul (x : Magnitude) :
    x.high * 2 ^ (2 - x.exponent) = (4 * x.mantissa + 2 : ℕ) := by
  rw [high, mul_assoc, quarters]
  push_cast
  ring

/-- The interval that is tested, in units of a quarter of the last place, is that of rounding. -/
theorem covers_iff (hx : 0 < x.mantissa) : x.covers d k = true ↔ x.Attracts (d * 10 ^ k) := by
  have hpow : (0 : ℚ) < 2 ^ (2 - x.exponent) := by positivity
  rw [Attracts, ← within_mul hpow, low_mul hx, high_mul, ← fraction_eq,
    within_div_iff (fraction_pos ..)]
  unfold covers
  dsimp only
  generalize fraction d k (2 - x.exponent) = ab
  split <;> simp

/-! ### The first digit -/

theorem toRat_pos (hx : 0 < x.mantissa) : 0 < x.toRat := by
  have : (0 : ℚ) < x.mantissa := by exact_mod_cast hx
  unfold toRat
  positivity

theorem exists_length_toDigits {n : ℕ} (hn : 0 < n) :
    ∃ l, (Nat.toDigits 10 n).length = l + 1 ∧ 10 ^ l ≤ n ∧ n < 10 ^ (l + 1) := by
  have hten : 1 < 10 := by norm_num
  obtain ⟨l, hl⟩ : ∃ l, (Nat.toDigits 10 n).length = l + 1 :=
    Nat.exists_eq_succ_of_ne_zero Nat.length_toDigits_pos.ne'
  refine ⟨l, hl, ?_, (Nat.length_toDigits_le_iff hten l.succ_pos).mp hl.le⟩
  rcases Nat.eq_zero_or_pos l with rfl | hpos
  · exact hn
  · by_contra h
    have := (Nat.length_toDigits_le_iff hten hpos).mpr (not_le.mp h)
    omega

/-- A magnitude is between the power of ten of its first digit and the next one. -/
theorem decimalExponent_spec (hx : 0 < x.mantissa) :
    (10 : ℚ) ^ x.decimalExponent ≤ x.toRat ∧ x.toRat < 10 ^ (x.decimalExponent + 1) := by
  have hb := fraction_pos x.mantissa 0 x.exponent
  have hratio := fraction_eq x.mantissa 0 x.exponent
  have hpos := toRat_pos hx
  rw [zpow_zero, mul_one, ← toRat] at hratio
  rw [← hratio] at hpos ⊢
  unfold decimalExponent
  generalize fraction x.mantissa 0 x.exponent = ab at *
  obtain ⟨a, b⟩ := ab
  have hb' : (0 : ℚ) < b := by exact_mod_cast hb
  have ha : 0 < a := by exact_mod_cast (div_pos_iff_of_pos_right hb').mp hpos
  dsimp only at hb ⊢
  split
  case isTrue hle =>
    obtain ⟨l, hl, hfirst, hlast⟩ := exists_length_toDigits (Nat.div_pos hle hb)
    rw [Nat.le_div_iff_mul_le hb] at hfirst
    rw [Nat.div_lt_iff_lt_mul hb] at hlast
    rw [hl, le_div_iff₀ hb', div_lt_iff₀ hb', Nat.cast_add_one, add_sub_cancel_right]
    exact ⟨by exact_mod_cast hfirst, by exact_mod_cast hlast⟩
  case isFalse hlt =>
    -- below one the digits of the inverse are counted
    have hinverse : 0 < (b - 1) / a := Nat.div_pos (by omega) ha
    obtain ⟨l, hl, hfirst, hlast⟩ := exists_length_toDigits hinverse
    rw [Nat.le_div_iff_mul_le ha] at hfirst
    rw [Nat.div_lt_iff_lt_mul ha] at hlast
    have hlow : b ≤ 10 ^ (l + 1) * a := by omega
    have hhigh : 10 ^ l * a < b := by omega
    have hneg : -((l + 1 : ℕ) : ℤ) + 1 = -(l : ℤ) := by
      push_cast
      ring
    rw [hl, hneg, zpow_neg, zpow_neg, zpow_natCast, zpow_natCast,
      inv_le_iff_one_le_mul₀' (by positivity), lt_inv_comm₀ hpos (by positivity), inv_div,
      lt_div_iff₀ (by exact_mod_cast ha), ← mul_div_assoc, one_le_div₀ hb']
    exact ⟨by exact_mod_cast hlow, by exact_mod_cast hhigh⟩

/-! ### The points of a grid -/

/-- Of the points `c · 10 ^ k` that a magnitude attracts, `d · 10 ^ k` is nearest to it, and `d` is
even if another one is as near. -/
structure IsNearest (x : Magnitude) (k : ℤ) (d : ℕ) : Prop where
  attracts : x.Attracts (d * 10 ^ k)
  nearest {c : ℕ} : x.Attracts (c * 10 ^ k) → |d * 10 ^ k - x.toRat| ≤ |c * 10 ^ k - x.toRat|
  even {c : ℕ} : x.Attracts (c * 10 ^ k) → |d * 10 ^ k - x.toRat| = |c * 10 ^ k - x.toRat| →
    c = d ∨ d % 2 = 0

/-- A magnitude in steps of the grid. -/
theorem fraction_eq_div (x : Magnitude) (k : ℤ) :
    ((fraction x.mantissa (-k) x.exponent).1 : ℚ) / (fraction x.mantissa (-k) x.exponent).2 =
      x.toRat / 10 ^ k := by
  rw [fraction_eq, zpow_neg, toRat]
  field_simp

theorem gridFloor_eq_floor (x : Magnitude) (k : ℤ) : x.gridFloor k = ⌊x.toRat / 10 ^ k⌋₊ := by
  rw [← fraction_eq_div, Nat.floor_div_eq_div]
  rfl

theorem gridFloor_le (x : Magnitude) (k : ℤ) : x.gridFloor k * 10 ^ k ≤ x.toRat := by
  have hnonneg : 0 ≤ x.toRat / 10 ^ k := by
    unfold toRat
    positivity
  rw [← le_div_iff₀ (by positivity), gridFloor_eq_floor]
  exact Nat.floor_le hnonneg

theorem lt_gridFloor_add_one (x : Magnitude) (k : ℤ) :
    x.toRat < (x.gridFloor k + 1 : ℕ) * 10 ^ k := by
  rw [← div_lt_iff₀ (by positivity), gridFloor_eq_floor]
  exact_mod_cast Nat.lt_floor_add_one _

/-- If a point not above the magnitude is attracted, so is the last such point. -/
theorem attracts_gridFloor {c : ℕ} (hc : x.Attracts (c * 10 ^ k)) (hle : c ≤ x.gridFloor k) :
    x.Attracts (x.gridFloor k * 10 ^ k) := by
  have hle' : (c : ℚ) * 10 ^ k ≤ x.gridFloor k * 10 ^ k := by gcongr
  exact hc.between x.attracts_toRat hle' (x.gridFloor_le k)

/-- If a point above the magnitude is attracted, so is the first such point. -/
theorem attracts_gridFloor_add_one {c : ℕ} (hc : x.Attracts (c * 10 ^ k))
    (hlt : x.gridFloor k < c) : x.Attracts ((x.gridFloor k + 1 : ℕ) * 10 ^ k) := by
  have hle' : ((x.gridFloor k + 1 : ℕ) : ℚ) * 10 ^ k ≤ c * 10 ^ k := by
    gcongr
    exact hlt
  exact x.attracts_toRat.between hc (x.lt_gridFloor_add_one k).le hle'

/-- Distances may be compared in steps of the grid. -/
theorem abs_sub_toRat (c : ℕ) : |c * 10 ^ k - x.toRat| = |c - x.toRat / 10 ^ k| * 10 ^ k := by
  have hten : (0 : ℚ) < 10 ^ k := by positivity
  have hsub : c * 10 ^ k - x.toRat = (c - x.toRat / 10 ^ k) * 10 ^ k := by field_simp
  rw [hsub, abs_mul, abs_of_pos hten]

theorem IsNearest.of_steps (hd : x.Attracts (d * 10 ^ k))
    (h : ∀ c : ℕ, x.Attracts (c * 10 ^ k) → |d - x.toRat / 10 ^ k| ≤ |c - x.toRat / 10 ^ k| ∧
      (|d - x.toRat / 10 ^ k| = |c - x.toRat / 10 ^ k| → c = d ∨ d % 2 = 0)) :
    x.IsNearest k d := by
  have hten : (0 : ℚ) < 10 ^ k := by positivity
  refine ⟨hd, fun {c} hc => ?_, fun {c} hc heq => ?_⟩
  · rw [abs_sub_toRat, abs_sub_toRat]
    exact mul_le_mul_of_nonneg_right (h c hc).1 hten.le
  · rw [abs_sub_toRat, abs_sub_toRat] at heq
    exact (h c hc).2 (mul_right_cancel₀ hten.ne' heq)

/-- A point between the magnitude and all that is attracted is nearest. -/
theorem IsNearest.of_between (hd : x.Attracts (d * 10 ^ k))
    (h : ∀ c : ℕ, x.Attracts (c * 10 ^ k) →
      (c ≤ d ∧ d ≤ x.toRat / 10 ^ k) ∨ (d ≤ c ∧ x.toRat / 10 ^ k ≤ d)) : x.IsNearest k d := by
  refine .of_steps hd fun c hc => ?_
  rcases h c hc with ⟨hcd, hdx⟩ | ⟨hdc, hxd⟩
  · have hcd' : (c : ℚ) ≤ d := by exact_mod_cast hcd
    rw [abs_of_nonpos (by linarith), abs_of_nonpos (by linarith)]
    refine ⟨by linarith, fun heq => .inl ?_⟩
    have : (c : ℚ) = d := by linarith
    exact_mod_cast this
  · have hdc' : (d : ℚ) ≤ c := by exact_mod_cast hdc
    rw [abs_of_nonneg (by linarith), abs_of_nonneg (by linarith)]
    refine ⟨by linarith, fun heq => .inl ?_⟩
    have : (c : ℚ) = d := by linarith
    exact_mod_cast this

/-- A magnitude that is rounded to a point of the grid is nearest to it. -/
theorem IsNearest.of_within (hd : x.Attracts (d * 10 ^ k))
    (h : Within d (d - 1 / 2) (d + 1 / 2) (x.toRat / 10 ^ k)) : x.IsNearest k d := by
  have hhalf : |d - x.toRat / 10 ^ k| ≤ 1 / 2 :=
    abs_sub_le_iff.mpr ⟨by linarith [h.bounds.1], by linarith [h.bounds.2]⟩
  refine .of_steps hd fun c hc => ?_
  rcases eq_or_ne c d with rfl | hne
  · exact ⟨le_rfl, fun _ => .inl rfl⟩
  · have hstep : 1 ≤ |(c : ℚ) - d| := by
      exact_mod_cast Int.one_le_abs (show (c : ℤ) - d ≠ 0 by omega)
    have hsum := abs_sub_le (c : ℚ) (x.toRat / 10 ^ k) d
    rw [abs_sub_comm (x.toRat / 10 ^ k)] at hsum
    refine ⟨by linarith, fun heq => .inr ?_⟩
    rcases h with ⟨hlow, hhigh⟩ | ⟨heven, -⟩
    · have : |d - x.toRat / 10 ^ k| < 1 / 2 :=
        abs_sub_lt_iff.mpr ⟨by linarith, by linarith⟩
      linarith
    · exact heven

theorem roundHalfEven_eq_or (num den : ℕ) :
    roundHalfEven num den = num / den ∨ roundHalfEven num den = num / den + 1 := by
  unfold roundHalfEven
  dsimp only
  split_ifs <;> simp

/-- The search of a grid finds the nearest point, and finds none where there is none. -/
theorem nearestOnGrid_spec (hx : 0 < x.mantissa) (k : ℤ) :
    (x.nearestOnGrid k = none ∧ ∀ c : ℕ, ¬ x.Attracts (c * 10 ^ k)) ∨
      ∃ d, x.nearestOnGrid k = some d ∧ x.IsNearest k d := by
  have hfloor : (x.gridFloor k : ℚ) ≤ x.toRat / 10 ^ k :=
    (le_div_iff₀ (by positivity)).mpr (x.gridFloor_le k)
  have hnext : x.toRat / 10 ^ k ≤ (x.gridFloor k + 1 : ℕ) :=
    (div_le_iff₀ (by positivity)).mpr (x.lt_gridFloor_add_one k).le
  have huncovered (c : ℕ) : x.covers c k = false ↔ ¬ x.Attracts (c * 10 ^ k) := by
    rw [← covers_iff hx, Bool.not_eq_true]
  cases hbelow : x.covers (x.gridFloor k) k <;> cases habove : x.covers (x.gridFloor k + 1) k
  case false.false =>
    refine .inl ⟨by simp only [nearestOnGrid, hbelow, habove], fun c hc => ?_⟩
    rcases Nat.lt_or_ge (x.gridFloor k) c with hlt | hle
    · exact (huncovered _).mp habove (attracts_gridFloor_add_one hc hlt)
    · exact (huncovered _).mp hbelow (attracts_gridFloor hc hle)
  case false.true =>
    refine .inr ⟨x.gridFloor k + 1, by simp only [nearestOnGrid, hbelow, habove], ?_⟩
    refine .of_between ((covers_iff hx).mp habove) fun c hc => .inr ⟨?_, hnext⟩
    by_contra hlt
    exact (huncovered _).mp hbelow (attracts_gridFloor hc (by omega))
  case true.false =>
    refine .inr ⟨x.gridFloor k, by simp only [nearestOnGrid, hbelow, habove], ?_⟩
    refine .of_between ((covers_iff hx).mp hbelow) fun c hc => .inl ⟨?_, hfloor⟩
    by_contra hlt
    exact (huncovered _).mp habove (attracts_gridFloor_add_one hc (by omega))
  case true.true =>
    have hnear := roundHalfEven_within (fraction x.mantissa (-k) x.exponent).1
      (fraction_pos x.mantissa (-k) x.exponent)
    rw [fraction_eq_div] at hnear
    refine .inr ⟨_, by simp only [nearestOnGrid, hbelow, habove], .of_within ?_ hnear⟩
    rcases roundHalfEven_eq_or (fraction x.mantissa (-k) x.exponent).1
      (fraction x.mantissa (-k) x.exponent).2 with h | h
    · rw [h]
      exact (covers_iff hx).mp hbelow
    · rw [h]
      exact (covers_iff hx).mp habove

/-! ### Seventeen digits -/

/-- On a grid of seventeen digits one of the two points around a magnitude is attracted. -/
theorem exists_attracts (hx : 0 < x.mantissa) (hfits : x.mantissa < 2 * leastNormal) :
    ∃ c : ℕ, x.Attracts (c * 10 ^ (x.decimalExponent - 16)) := by
  have hpow : (0 : ℚ) < 2 ^ x.exponent := by positivity
  have hfits' : (x.mantissa : ℚ) * 2 ^ x.exponent < 2 ^ 53 * 2 ^ x.exponent := by
    have : (x.mantissa : ℚ) < 2 ^ 53 := by exact_mod_cast hfits
    gcongr
  -- a step of the grid is less than a unit of the last place: ten to the 16th is more than two to
  -- the 53rd
  have hstep : (10 : ℚ) ^ (x.decimalExponent - 16) * 10 ^ 16 ≤ x.mantissa * 2 ^ x.exponent := by
    rw [← zpow_natCast, ← zpow_add₀ (by norm_num), Nat.cast_ofNat, sub_add_cancel]
    exact (decimalExponent_spec hx).1
  have hfloor := x.gridFloor_le (x.decimalExponent - 16)
  have hnext := x.lt_gridFloor_add_one (x.decimalExponent - 16)
  rw [toRat] at hfloor hnext
  by_cases hhigh : ((x.gridFloor (x.decimalExponent - 16) + 1 : ℕ) : ℚ) *
      10 ^ (x.decimalExponent - 16) < x.high
  · refine ⟨_, .inl ⟨lt_trans ?_ hnext, hhigh⟩⟩
    exact mul_lt_mul_of_pos_right (by linarith [x.reach_pos]) hpow
  · refine ⟨x.gridFloor (x.decimalExponent - 16), .inl ⟨?_, lt_of_le_of_lt hfloor ?_⟩⟩
    · rw [not_lt, high] at hhigh
      push_cast at hhigh
      unfold low reach
      split
      case isTrue hleast =>
        -- a power of two is so small in its unit that the point above is attracted
        rw [hleast.1, leastNormal] at hstep hfloor hhigh
        push_cast at hstep hfloor hhigh
        linarith
      case isFalse => linarith
    · exact mul_lt_mul_of_pos_right (by linarith) hpow

/-- What a search among the naturals below `n` finds, it finds at the first one that gives
something. -/
theorem findSome?_range {α : Type} {f : ℕ → Option α} {n : ℕ} (h : ∃ i < n, f i ≠ none) :
    ∃ i < n, ∃ a, (List.range n).findSome? f = some a ∧ f i = some a ∧ ∀ j < i, f j = none := by
  induction n with
  | zero =>
    obtain ⟨i, hi, -⟩ := h
    omega
  | succ n ih =>
    by_cases hbefore : ∃ i < n, f i ≠ none
    · obtain ⟨i, hi, a, hfind, hfirst⟩ := ih hbefore
      exact ⟨i, by omega, a, by rw [List.range_succ, List.findSome?_append, hfind]; rfl, hfirst⟩
    · push Not at hbefore
      obtain ⟨i, hi, hsome⟩ := h
      obtain rfl : i = n := by
        by_contra hne
        exact hsome (hbefore i (by omega))
      obtain ⟨a, ha⟩ := Option.ne_none_iff_exists'.mp hsome
      have hnone : (List.range i).findSome? f = none := by simpa using hbefore
      exact ⟨i, by omega, a, by simp [List.range_succ, hnone, ha], ha, hbefore⟩

/-- The grid that is taken is the first one with a point that is attracted. -/
theorem exists_grid (hx : 0 < x.mantissa) (hfits : x.mantissa < 2 * leastNormal) :
    ∃ n : ℕ, x.shortest.2 = x.decimalExponent - n ∧
      x.IsNearest (x.decimalExponent - n) x.shortest.1 ∧
        ∀ j < n, ∀ c : ℕ, ¬ x.Attracts (c * 10 ^ (x.decimalExponent - j)) := by
  let onGrid (n : ℕ) : Option (ℕ × ℤ) :=
    (x.nearestOnGrid (x.decimalExponent - n)).map fun d => (d, x.decimalExponent - n)
  have hlast : onGrid 16 ≠ none := by
    obtain ⟨c, hc⟩ := exists_attracts hx hfits
    rcases nearestOnGrid_spec hx (x.decimalExponent - 16) with ⟨-, hnone⟩ | ⟨d, hd, -⟩
    · exact absurd hc (hnone c)
    · simp [onGrid, hd]
  obtain ⟨n, -, dk, hfind, hn, hbefore⟩ := findSome?_range (n := 17) ⟨16, by norm_num, hlast⟩
  have hshortest : x.shortest = dk := by
    change ((List.range 17).findSome? onGrid).getD (0, 0) = dk
    rw [hfind]
    rfl
  obtain ⟨d, hd, rfl⟩ := Option.map_eq_some_iff.mp hn
  rw [hshortest]
  refine ⟨n, rfl, ?_, fun j hj => ?_⟩
  · rcases nearestOnGrid_spec hx (x.decimalExponent - n) with ⟨hnone, -⟩ | ⟨d', hd', hnearest⟩
    · rw [hnone] at hd
      cases hd
    · obtain rfl : d' = d := Option.some_inj.mp (hd'.symm.trans hd)
      exact hnearest
  · have hj := Option.map_eq_none_iff.mp (hbefore j hj)
    rcases nearestOnGrid_spec hx (x.decimalExponent - j) with ⟨-, hnone⟩ | ⟨d', hd', -⟩
    · exact hnone
    · rw [hd'] at hj
      cases hj

/-! ### The shortest decimal -/

theorem Attracts.pos {v : ℚ} (hx : 0 < x.mantissa) (hv : x.Attracts v) : 0 < v := by
  have hx' : (1 : ℚ) ≤ x.mantissa := by exact_mod_cast hx
  have hlow : 0 < x.low := mul_pos (by linarith [x.reach_le]) (by positivity)
  exact hlow.trans_le hv.bounds.1

/-- Of the decimals that a magnitude attracts, `d · 10 ^ k` has the fewest digits. Of those with as
few it is nearest to the magnitude, and `d` is even if another one is as near. -/
structure IsShortest (x : Magnitude) (d : ℕ) (k : ℤ) : Prop where
  attracts : x.Attracts (d * 10 ^ k)
  fewest {n : ℕ} {w : ℚ} : IsDecimal n w → x.Attracts w → IsDecimal n (d * 10 ^ k)
  nearest {w : ℚ} : (∀ n, IsDecimal n (d * 10 ^ k) → IsDecimal n w) → x.Attracts w →
    |d * 10 ^ k - x.toRat| ≤ |w - x.toRat|
  even {w : ℚ} : (∀ n, IsDecimal n (d * 10 ^ k) → IsDecimal n w) → x.Attracts w →
    |d * 10 ^ k - x.toRat| = |w - x.toRat| → w = d * 10 ^ k ∨ d % 2 = 0

section Grid

variable {n : ℕ}

theorem ten_pow_eq_onGrid (e : ℤ) (n i : ℕ) :
    (10 : ℚ) ^ (e + i) = (10 ^ (n + i) : ℕ) * 10 ^ (e - n) := by
  push_cast
  rw [← zpow_natCast, ← zpow_add₀ (by norm_num)]
  congr 1
  push_cast
  ring

/-- The nearest point on the grid of `n + 1` digits has no more digits, not even when it is the
next power of ten. -/
theorem IsNearest.isDecimal (hx : 0 < x.mantissa) (hd : x.IsNearest (x.decimalExponent - n) d) :
    IsDecimal (n + 1) (d * 10 ^ (x.decimalExponent - n)) := by
  have hten : (0 : ℚ) < 10 ^ (x.decimalExponent - n) := by positivity
  have hnext := (decimalExponent_spec hx).2
  have hpow := ten_pow_eq_onGrid x.decimalExponent n 1
  rw [Nat.cast_one] at hpow
  rw [hpow] at hnext
  rcases lt_trichotomy d (10 ^ (n + 1)) with hlt | rfl | hgt
  · exact ⟨d, _, hlt, rfl⟩
  · exact ⟨1, x.decimalExponent + 1, Nat.one_lt_pow (by omega) (by norm_num), by
      rw [hpow, Nat.cast_one, one_mul]⟩
  · have hcloser : ((10 ^ (n + 1) : ℕ) : ℚ) * 10 ^ (x.decimalExponent - n) <
        d * 10 ^ (x.decimalExponent - n) := by
      gcongr
    have hle := hd.nearest (x.attracts_toRat.between hd.attracts hnext.le hcloser.le)
    rw [abs_of_pos (by linarith), abs_of_pos (by linarith)] at hle
    linarith

/-- If no point on a coarser grid is attracted, no decimal with fewer digits is. -/
theorem lt_of_isDecimal (hx : 0 < x.mantissa)
    (hbefore : ∀ j < n, ∀ c : ℕ, ¬ x.Attracts (c * 10 ^ (x.decimalExponent - j))) {m : ℕ} {w : ℚ}
    (hw : IsDecimal m w) (hattracts : x.Attracts w) : n < m := by
  by_contra hle
  obtain ⟨m, rfl⟩ : ∃ i, m = i + 1 := by
    refine Nat.exists_eq_succ_of_ne_zero ?_
    rintro rfl
    obtain ⟨d, k, hd, rfl⟩ := hw
    obtain rfl : d = 0 := by simpa using hd
    simpa using hattracts.pos hx
  rcases le_or_gt ((10 : ℚ) ^ x.decimalExponent) w with hge | hlt
  · obtain ⟨c, rfl⟩ := hw.exists_onGrid hge
    exact hbefore m (by omega) c hattracts
  · have hpow : x.Attracts (10 ^ x.decimalExponent) :=
      hattracts.between x.attracts_toRat hlt.le (decimalExponent_spec hx).1
    exact hbefore 0 (by omega) 1 (by simpa using hpow)

/-- A decimal with as few digits as the grid has is on the grid. Otherwise it is below the first
power of ten that is, so the nearest point of the grid is nearer. -/
theorem IsNearest.exists_onGrid_or_lt (hx : 0 < x.mantissa)
    (hd : x.IsNearest (x.decimalExponent - n) d) {w : ℚ} (hw : IsDecimal (n + 1) w)
    (hattracts : x.Attracts w) :
    (∃ c : ℕ, w = c * 10 ^ (x.decimalExponent - n)) ∨
      |d * 10 ^ (x.decimalExponent - n) - x.toRat| < |w - x.toRat| := by
  have hfirst := (decimalExponent_spec hx).1
  rcases le_or_gt ((10 : ℚ) ^ x.decimalExponent) w with hge | hlt
  · exact .inl (hw.exists_onGrid hge)
  · right
    have hpow := hattracts.between x.attracts_toRat hlt.le hfirst
    have hgrid := ten_pow_eq_onGrid x.decimalExponent n 0
    rw [Nat.cast_zero, add_zero] at hgrid
    rw [hgrid] at hpow hlt hfirst
    refine (hd.nearest hpow).trans_lt ?_
    rw [abs_of_nonpos (by linarith), abs_of_nonpos (by linarith)]
    linarith

end Grid

/-- The digits and the exponent that are found make the shortest decimal. -/
theorem shortest_isShortest (hx : 0 < x.mantissa) (hfits : x.mantissa < 2 * leastNormal) :
    x.IsShortest x.shortest.1 x.shortest.2 := by
  obtain ⟨n, hk, hnearest, hbefore⟩ := exists_grid hx hfits
  rw [hk]
  have hdigits := hnearest.isDecimal hx
  refine ⟨hnearest.attracts, fun {m w} hw hattracts => ?_, fun {w} hw hattracts => ?_,
    fun {w} hw hattracts heq => ?_⟩
  · exact hdigits.mono (lt_of_isDecimal hx hbefore hw hattracts)
  · rcases hnearest.exists_onGrid_or_lt hx (hw _ hdigits) hattracts with ⟨c, rfl⟩ | hlt
    · exact hnearest.nearest hattracts
    · exact hlt.le
  · rcases hnearest.exists_onGrid_or_lt hx (hw _ hdigits) hattracts with ⟨c, rfl⟩ | hlt
    · exact (hnearest.even hattracts heq).imp (fun h => by rw [h]) id
    · exact absurd heq hlt.ne

theorem isShortest_zero (hx : x.mantissa = 0) : x.IsShortest 0 0 := by
  have hrat : x.toRat = 0 := by simp [toRat, hx]
  have hzero : ((0 : ℕ) : ℚ) * 10 ^ (0 : ℤ) = 0 := by simp
  have hdist {w : ℚ} : |((0 : ℕ) : ℚ) * 10 ^ (0 : ℤ) - x.toRat| ≤ |w - x.toRat| := by
    rw [hzero, hrat, sub_zero, abs_zero]
    exact abs_nonneg _
  refine ⟨?_, fun _ _ => ⟨0, 0, Nat.pow_pos (by norm_num), rfl⟩, fun _ _ => hdist,
    fun _ _ _ => .inr rfl⟩
  rw [hzero, ← hrat]
  exact x.attracts_toRat

/-- A ratio that is the shortest decimal of a magnitude is rounded to the magnitude. -/
theorem IsShortest.ofRatio?_eq (h : x.IsShortest d k) (hx : x.IsFinite) {num den : ℕ}
    (hden : 0 < den) (hratio : (num / den : ℚ) = d * 10 ^ k) : ofRatio? num den = some x :=
  (ofRatio?_eq_some_iff num hden).mpr ⟨hx, hratio ▸ h.attracts⟩

end Magnitude

end Rollout.Decimal
