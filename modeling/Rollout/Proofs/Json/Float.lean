import Mathlib.Data.List.TakeWhile
import Rollout.Proofs.Decimal.Shortest
import Rollout.Proofs.Json.Lexeme

/-!
# Numbers that are no integers, written and read

The text of a binary64 number is a number of a JSON text, with a fraction or an exponent. The
decimal that it says is the shortest one that is rounded to the number: whoever reads the text and
rounds once gets the number back.

## Main definitions

* `Json.Numeral.toRat` — the number that some digits say

## Main results

* `Decimal.exists_numeral` — what is written for a decimal says that decimal
* `Json.readNumber_float` — the text of a number is read as its shortest decimal
* `Json.NumberParts.value_isFinite` — a number that is read is one of the format
-/

namespace Rollout

open Json (Numeral IsDigits)

namespace Json.Numeral

/-- The power of ten by which the digits of a number count. -/
def scale (n : Numeral) : ℤ :=
  (n.exponent.elim 0 fun e =>
    if e.1 then -(Nat.ofDigitChars 10 e.2 0 : ℤ) else Nat.ofDigitChars 10 e.2 0) -
      (n.fraction.getD []).length

/-- The number that some digits say. -/
def toRat (n : Numeral) : ℚ :=
  Nat.ofDigitChars 10 (n.whole ++ n.fraction.getD []) 0 * 10 ^ n.scale

/-- Only integers are written with neither fraction nor exponent. -/
def IsFloat (n : Numeral) : Prop := n.fraction.isSome ∨ n.exponent.isSome

theorem chars_eq (n : Numeral) (negative : Bool) :
    n.chars negative = (if negative then ['-'] else []) ++ n.chars false := by
  simp [chars]

end Json.Numeral

namespace Decimal

/-! ### Digits -/

/-- Digits that start with none that is zero. -/
structure IsSignificant (ds : List Char) : Prop where
  isDigits : IsDigits ds
  head_ne : ds.head? ≠ some '0'

theorem toDigits_eq_significantDigits (d : ℕ) :
    Nat.toDigits 10 d = significantDigits d ++ List.replicate (trailingZeros d) '0' := by
  obtain ⟨t, ht⟩ : ∃ t, Nat.toDigits 10 d = significantDigits d ++ List.replicate t '0' := by
    have hzeros : (Nat.toDigits 10 d).reverse.takeWhile (· == '0') =
        List.replicate ((Nat.toDigits 10 d).reverse.takeWhile (· == '0')).length '0' :=
      List.eq_replicate_iff.mpr ⟨rfl, fun c hc => by
        simpa using List.mem_takeWhile_imp (p := (· == '0')) hc⟩
    refine ⟨((Nat.toDigits 10 d).reverse.takeWhile (· == '0')).length, ?_⟩
    calc Nat.toDigits 10 d
        = ((Nat.toDigits 10 d).reverse.takeWhile (· == '0') ++
            (Nat.toDigits 10 d).reverse.dropWhile (· == '0')).reverse := by
          rw [List.takeWhile_append_dropWhile, List.reverse_reverse]
      _ = significantDigits d ++ ((Nat.toDigits 10 d).reverse.takeWhile (· == '0')).reverse := by
          rw [List.reverse_append]
          rfl
      _ = _ := by
          conv_lhs => rw [hzeros, List.reverse_replicate]
  have hlength : trailingZeros d = t := by
    have := congrArg List.length ht
    rw [List.length_append, List.length_replicate] at this
    unfold trailingZeros
    omega
  rw [hlength]
  exact ht

theorem isSignificant_significantDigits {d : ℕ} (hd : 0 < d) :
    IsSignificant (significantDigits d) := by
  have hall := toDigits_eq_significantDigits d
  obtain ⟨c, cs, hcons, hc⟩ := Json.toDigits_eq_cons hd
  have hdigits := (Json.isDigits_toDigits d).2
  rw [hcons] at hall
  cases hds : significantDigits d with
  | nil =>
    -- all of the digits would be zeros
    rw [hds, List.nil_append] at hall
    have hmem : c ∈ List.replicate (trailingZeros d) '0' := hall ▸ List.mem_cons_self
    exact absurd (List.eq_of_mem_replicate hmem) hc
  | cons e es =>
    rw [hds, List.cons_append, List.cons.injEq] at hall
    refine ⟨⟨List.cons_ne_nil _ _, fun x hx => hdigits x ?_⟩, ?_⟩
    · rw [toDigits_eq_significantDigits, hds]
      exact List.mem_append_left _ hx
    · rw [← hall.1]
      simpa using hc

theorem ofDigitChars_significantDigits (d : ℕ) :
    10 ^ trailingZeros d * Nat.ofDigitChars 10 (significantDigits d) 0 = d := by
  rw [← Nat.ofDigitChars_replicate_zero, ← Nat.ofDigitChars_append,
    ← toDigits_eq_significantDigits, Nat.ofDigitChars_ten_toDigits]

/-! ### The four layouts -/

namespace IsSignificant

variable {ds es : List Char}

theorem isDigits_of_subset (h : IsSignificant ds) (hne : es ≠ []) (hsub : es ⊆ ds) : IsDigits es :=
  ⟨hne, fun c hc => h.isDigits.2 c (hsub hc)⟩

theorem isDigit_of_mem_append (h : IsSignificant ds) (n : ℕ) {c : Char}
    (hc : c ∈ ds ∨ c ∈ List.replicate n '0') : c.isDigit = true := by
  rcases hc with hc | hc
  · exact h.isDigits.2 c hc
  · rw [List.eq_of_mem_replicate hc]
    decide

/-- Digits, zeros up to the point, and one after it. -/
def integral (h : IsSignificant ds) (n : ℕ) : Numeral where
  whole := ds ++ List.replicate n '0'
  fraction := some ['0']
  exponent := none
  isDigits_whole := ⟨by simp [h.isDigits.1], fun _ hc =>
    h.isDigit_of_mem_append n (List.mem_append.mp hc)⟩
  whole_of_zero hzero := by
    rw [List.head?_append_of_ne_nil _ h.isDigits.1] at hzero
    exact absurd hzero h.head_ne
  isDigits_fraction := by simp [IsDigits]
  isDigits_exponent := Json.isDigits_of_noExponent

/-- Digits with the point behind the first `n + 1`. -/
def pointed (h : IsSignificant ds) (n : ℕ) (hn : n + 1 < ds.length) : Numeral where
  whole := ds.take (n + 1)
  fraction := some (ds.drop (n + 1))
  exponent := none
  isDigits_whole := h.isDigits_of_subset (by simp [h.isDigits.1]) (List.take_subset ..)
  whole_of_zero hzero := absurd (by simpa [List.head?_take] using hzero) h.head_ne
  isDigits_fraction := by
    rintro es ⟨⟩
    exact h.isDigits_of_subset (by simpa using hn) (List.drop_subset ..)
  isDigits_exponent := Json.isDigits_of_noExponent

/-- Digits behind the point and `n` zeros. -/
def small (h : IsSignificant ds) (n : ℕ) : Numeral where
  whole := ['0']
  fraction := some (List.replicate n '0' ++ ds)
  exponent := none
  isDigits_whole := by simp [IsDigits]
  whole_of_zero _ := rfl
  isDigits_fraction := by
    rintro es ⟨⟩
    exact ⟨by simp [h.isDigits.1], fun _ hc =>
      h.isDigit_of_mem_append n (List.mem_append.mp hc).symm⟩
  isDigits_exponent := Json.isDigits_of_noExponent

/-- Digits with the point behind the first, if there are more, and an exponent. -/
def scientific (h : IsSignificant ds) (e : ℤ) : Numeral where
  whole := ds.take 1
  fraction := if ds.length ≤ 1 then none else some (ds.drop 1)
  exponent := some (e < 0, Nat.toDigits 10 e.natAbs)
  isDigits_whole := h.isDigits_of_subset (by simp [h.isDigits.1]) (List.take_subset ..)
  whole_of_zero hzero := absurd (by simpa [List.head?_take] using hzero) h.head_ne
  isDigits_fraction := by
    intro es hes
    obtain ⟨hlength, hes⟩ := Option.ite_none_left_eq_some.mp hes
    obtain rfl := Option.some_inj.mp hes
    exact h.isDigits_of_subset (mt List.drop_eq_nil_iff.mp hlength) (List.drop_subset ..)
  isDigits_exponent := by
    rintro es ⟨⟩
    exact Json.isDigits_toDigits _

theorem toRat_integral (h : IsSignificant ds) (n : ℕ) :
    (h.integral n).toRat = Nat.ofDigitChars 10 ds 0 * 10 ^ (n : ℤ) := by
  have hdigits : Nat.ofDigitChars 10 (ds ++ List.replicate n '0' ++ ['0']) 0 =
      10 * (10 ^ n * Nat.ofDigitChars 10 ds 0) := by
    rw [Nat.ofDigitChars_append, Nat.ofDigitChars_append, Nat.ofDigitChars_replicate_zero]
    simp [Nat.ofDigitChars_cons]
  change (Nat.ofDigitChars 10 (ds ++ List.replicate n '0' ++ ['0']) 0 : ℚ) * 10 ^ (-1 : ℤ) = _
  rw [hdigits, zpow_natCast]
  push_cast
  ring

theorem toRat_pointed (h : IsSignificant ds) {n : ℕ} (hn : n + 1 < ds.length) :
    (h.pointed n hn).toRat = Nat.ofDigitChars 10 ds 0 * 10 ^ ((n : ℤ) + 1 - ds.length) := by
  have hdigits : (h.pointed n hn).whole ++ (h.pointed n hn).fraction.getD [] = ds :=
    List.take_append_drop ..
  have hscale : (h.pointed n hn).scale = n + 1 - ds.length := by
    simp only [Numeral.scale, pointed, Option.elim_none, Option.getD_some, List.length_drop]
    omega
  rw [Numeral.toRat, hdigits, hscale]

theorem toRat_small (h : IsSignificant ds) (n : ℕ) :
    (h.small n).toRat = Nat.ofDigitChars 10 ds 0 * 10 ^ (-(n : ℤ) - ds.length) := by
  have hdigits : Nat.ofDigitChars 10 ((h.small n).whole ++ (h.small n).fraction.getD []) 0 =
      Nat.ofDigitChars 10 ds 0 := by
    simp [small, Nat.ofDigitChars_cons, Nat.ofDigitChars_append, Nat.ofDigitChars_replicate_zero]
  have hscale : (h.small n).scale = -(n : ℤ) - ds.length := by
    simp only [Numeral.scale, small, Option.elim_none, Option.getD_some, List.length_append,
      List.length_replicate]
    omega
  rw [Numeral.toRat, hdigits, hscale]

theorem toRat_scientific (h : IsSignificant ds) (e : ℤ) :
    (h.scientific e).toRat = Nat.ofDigitChars 10 ds 0 * 10 ^ (e + 1 - ds.length) := by
  have hfraction : (h.scientific e).fraction.getD [] = ds.drop 1 := by
    simp only [scientific]
    split
    case isTrue hone => rw [List.drop_eq_nil_of_le hone, Option.getD_none]
    case isFalse => rw [Option.getD_some]
  have hdigits : (h.scientific e).whole ++ (h.scientific e).fraction.getD [] = ds := by
    rw [hfraction]
    exact List.take_append_drop 1 ds
  have hlength : 0 < ds.length := List.length_pos_iff.mpr h.isDigits.1
  have hexponent : ((h.scientific e).exponent.elim (0 : ℤ) fun e =>
      if e.1 then -(Nat.ofDigitChars 10 e.2 0 : ℤ) else Nat.ofDigitChars 10 e.2 0) = e := by
    simp only [scientific, Option.elim_some, Nat.ofDigitChars_ten_toDigits, decide_eq_true_eq]
    split <;> omega
  have hscale : (h.scientific e).scale = e + 1 - ds.length := by
    rw [Numeral.scale, hexponent, hfraction, List.length_drop]
    omega
  rw [Numeral.toRat, hdigits, hscale]

end IsSignificant

/-- The text of a decimal is that of a number which says the decimal. -/
theorem exists_numeral {d : ℕ} (hd : 0 < d) (k : ℤ) :
    ∃ n : Numeral, (decimalText d k).toList = n.chars false ∧ n.toRat = d * 10 ^ k ∧ n.IsFloat := by
  have hds := isSignificant_significantDigits hd
  -- the zeros at the end of the digits only change the exponent
  have hvalue (j : ℤ) (hj : j = k + trailingZeros d) :
      (Nat.ofDigitChars 10 (significantDigits d) 0 : ℚ) * 10 ^ j = d * 10 ^ k := by
    have hsplit : (10 ^ trailingZeros d : ℚ) * Nat.ofDigitChars 10 (significantDigits d) 0 = d := by
      exact_mod_cast ofDigitChars_significantDigits d
    rw [hj, zpow_add₀ (by norm_num), zpow_natCast, ← hsplit]
    ring
  unfold decimalText
  -- the layouts depend on the digits and their number alone
  generalize significantDigits d = ds at *
  generalize trailingZeros d = t at *
  dsimp only
  split
  case isTrue =>
    split
    case isTrue hpos =>
      refine ⟨hds.integral (k + t).toNat, ?_, ?_, .inl rfl⟩
      · simp [IsSignificant.integral, Numeral.chars, Numeral.fractionChars, Numeral.exponentChars,
          zeros]
      · rw [hds.toRat_integral, hvalue _ (by omega)]
    case isFalse hneg =>
      split
      case isTrue hpos =>
        have hlength : (k + t + ds.length - 1).toNat + 1 < ds.length := by omega
        refine ⟨hds.pointed _ hlength, ?_, ?_, .inl rfl⟩
        · simp [IsSignificant.pointed, Numeral.chars, Numeral.fractionChars, Numeral.exponentChars]
        · rw [hds.toRat_pointed, hvalue _ (by omega)]
      case isFalse hsmall =>
        refine ⟨hds.small (-(k + t + ds.length - 1) - 1).toNat, ?_, ?_, .inl rfl⟩
        · simp [IsSignificant.small, Numeral.chars, Numeral.fractionChars, Numeral.exponentChars,
            zeros]
        · rw [hds.toRat_small, hvalue _ (by omega)]
  case isFalse =>
    refine ⟨hds.scientific (k + t + ds.length - 1), ?_, ?_, .inr rfl⟩
    · simp only [IsSignificant.scientific, Numeral.chars, Numeral.fractionChars,
        Numeral.exponentChars]
      split_ifs <;> simp_all
    · rw [hds.toRat_scientific, hvalue _ (by omega)]

/-- The digits of zero. -/
def zeroNumeral : Numeral where
  whole := ['0']
  fraction := some ['0']
  exponent := none
  isDigits_whole := by simp [IsDigits]
  whole_of_zero _ := rfl
  isDigits_fraction := by simp [IsDigits]
  isDigits_exponent := Json.isDigits_of_noExponent

theorem Magnitude.IsFinite.mantissa_lt {x : Magnitude} (h : x.IsFinite) :
    x.mantissa < 2 * Magnitude.leastNormal := by
  rcases h.canonical with ⟨-, h, -⟩ | ⟨h, -⟩ <;> omega

/-- The text of a number says the shortest decimal of its magnitude. -/
theorem Binary64.exists_numeral (x : Binary64) (hx : x.magnitude.IsFinite) :
    ∃ (n : Numeral) (d : ℕ) (k : ℤ), x.text.toList = n.chars x.negative ∧ n.IsFloat ∧
      n.toRat = d * 10 ^ k ∧ x.magnitude.IsShortest d k := by
  have hsign : (if x.negative then "-" else "").toList = if x.negative then ['-'] else [] := by
    split <;> rfl
  unfold text
  dsimp only
  split
  case isTrue hzero =>
    refine ⟨zeroNumeral, 0, 0, ?_, .inl rfl, ?_, Magnitude.isShortest_zero hzero⟩
    · rw [Numeral.chars_eq, String.toList_append, hsign]
      rfl
    · simp [Numeral.toRat, zeroNumeral, Nat.ofDigitChars_cons]
  case isFalse hne =>
    have hpos : 0 < x.magnitude.mantissa := Nat.pos_of_ne_zero hne
    have hshortest := Magnitude.shortest_isShortest hpos hx.mantissa_lt
    have hd : 0 < x.magnitude.shortest.1 := by
      have := hshortest.attracts.pos hpos
      by_contra hd
      rw [Nat.eq_zero_of_not_pos hd] at this
      simp at this
    obtain ⟨n, htext, hvalue, hfloat⟩ := Decimal.exists_numeral hd x.magnitude.shortest.2
    refine ⟨n, _, _, ?_, hfloat, hvalue, hshortest⟩
    rw [Numeral.chars_eq, String.toList_append, hsign, htext]

-- half-way between two shortest decimals, and a number next to zero
example : Binary64.text ⟨false, ⟨4503599627370497, -2⟩⟩ = "1125899906842624.2" := by
  decide +kernel

example : Binary64.text ⟨true, ⟨1, -1074⟩⟩ = "-5e-324" := by
  decide +kernel

end Decimal

namespace Json

open Decimal

/-- The text of a binary64 number is read, up to where it ends, as digits with a fraction or an
exponent and with the sign of the number. They say the shortest decimal of the number; rounding
that decimal gives the number back. -/
theorem readNumber_float (x : Binary64) (hx : x.magnitude.IsFinite) {rest : List Char}
    (hrest : EndsNumber rest) (i : ℕ) :
    ∃ parts j n, readNumber ⟨(Number.float x).text.toList ++ rest, i⟩ = .ok (parts, ⟨rest, j⟩) ∧
      parts.Says x.negative n ∧ n.IsFloat ∧
      (∃ (d : ℕ) (k : ℤ), n.toRat = d * 10 ^ k ∧ x.magnitude.IsShortest d k) ∧
      ∀ num den : ℕ, 0 < den → (num / den : ℚ) = n.toRat →
        Magnitude.ofRatio? num den = some x.magnitude := by
  obtain ⟨n, d, k, htext, hfloat, hvalue, hshortest⟩ := x.exists_numeral hx
  obtain ⟨parts, j, hread, hsays⟩ := readNumber_chars n x.negative hrest i
  refine ⟨parts, j, n, ?_, hsays, hfloat, ⟨d, k, hvalue, hshortest⟩, fun num den hden hratio => ?_⟩
  · rw [← htext] at hread
    exact hread
  · exact hshortest.ofRatio?_eq hx hden (hratio.trans hvalue)

theorem floatOfDecimal_isFinite {negative : Bool} {significand stop : ℕ} {exponent : ℤ}
    {x : Binary64} (h : floatOfDecimal negative significand exponent stop = .ok (.float x)) :
    x.magnitude.IsFinite := by
  unfold floatOfDecimal at h
  split at h
  · rename_i m hm
    cases h
    exact .of_ofDecimal? hm
  · cases h

/-- A number that is read is one of the format, so that its text can be read again. -/
theorem NumberParts.value_isFinite {p : NumberParts} {x : Binary64}
    (h : p.value = .ok (.float x)) : x.magnitude.IsFinite := by
  unfold value at h
  dsimp only at h
  split at h
  · split at h
    · cases h
    · split at h
      · exact floatOfDecimal_isFinite h
      · cases h
  · split at h
    · exact floatOfDecimal_isFinite h
    · split at h
      · exact floatOfDecimal_isFinite h
      · split at h
        · cases h
        · cases h
          exact Magnitude.isFinite_zero

end Json

end Rollout
