import Mathlib.Tactic.SplitIfs
import Rollout.Json.Printer
import Rollout.Json.Reader

/-!
# Strings and numbers read back

What is written for a string is read as that string, whatever follows. A number is read as the
digits that it is written with, unless it goes on in what follows; so what is written for an integer
of at most 64 bits is read as that integer.

## Main definitions

* `Json.Written.Says` — what a string in a text says
* `Json.Numeral` — the digits of a number in a text
* `Json.EndsNumber` — a number ends where this follows

## Main results

* `Json.readString_quote` — strings are read as they were written
* `Json.readNumber_chars` — numbers are read digit by digit as they were written
* `Json.readNumber_integer` — integers are read as they were written
-/

namespace Rollout.Json

/-! ### Strings -/

/-- A string as written says a text, and has an end. -/
def Written.Says (w : Written) (s : String) : Prop :=
  w.content = .ok s ∧ ∃ stop, w.close = .ok stop

theorem hexUnit_hexDigit :
    ∀ n < 0x20, hexUnit '0' '0' (hexDigit (n / 16)) (hexDigit n) = some n := by
  decide

theorem pieces_plain {c : Char} (hquote : c ≠ '"') (hescape : c ≠ '\\')
    (hcontrol : ¬ c.toNat < 0x20) (rest : List Char) (i : Nat) :
    pieces (c :: rest) i =
      (.plain c :: (pieces rest (i + c.utf8Size)).1, (pieces rest (i + c.utf8Size)).2) := by
  rw [pieces.eq_def]
  split
  all_goals simp_all

/-- An escaped character is one piece that stands for the character. -/
theorem pieces_escapeChar (c : Char) (rest : List Char) (i : Nat) :
    ∃ piece j, pieces (escapeChar c ++ rest) i = (piece :: (pieces rest j).1, (pieces rest j).2) ∧
      ∀ ending ps, contentChars ending (piece :: ps) = (contentChars ending ps).map (c :: ·) := by
  unfold escapeChar
  split_ifs with h1 h2 h3 h4 h5 h6 h7 h8
  · exact ⟨.escaped c, i + 2, by subst h1; rfl, fun _ _ => rfl⟩
  · exact ⟨.escaped c, i + 2, by subst h2; rfl, fun _ _ => rfl⟩
  · exact ⟨.escaped c, i + 2, by subst h3; rfl, fun _ _ => rfl⟩
  · exact ⟨.escaped c, i + 2, by subst h4; rfl, fun _ _ => rfl⟩
  · exact ⟨.escaped c, i + 2, by subst h5; rfl, fun _ _ => rfl⟩
  · exact ⟨.escaped c, i + 2, by subst h6; rfl, fun _ _ => rfl⟩
  · exact ⟨.escaped c, i + 2, by subst h7; rfl, fun _ _ => rfl⟩
  · refine ⟨.unit c.toNat (i + 6), i + 6, ?_, fun ending ps => ?_⟩
    · simp [pieces, hexUnit_hexDigit _ h8]
    · have htrailing : isTrailing c.toNat = false := by simp [isTrailing]; omega
      have hleading : isLeading c.toNat = false := by simp [isLeading]; omega
      rw [contentChars.eq_def]
      simp [htrailing, hleading]
  · exact ⟨.plain c, i + c.utf8Size, pieces_plain h1 h2 h8 rest i, fun _ _ => rfl⟩

theorem pieces_escaped (cs rest : List Char) (i : Nat) :
    ∃ ps j, pieces (cs.flatMap escapeChar ++ '"' :: rest) i = (ps, .ok ⟨rest, j⟩) ∧
      contentChars (.ok ⟨rest, j⟩) ps = .ok cs := by
  induction cs generalizing i with
  | nil => exact ⟨[], i + 1, rfl, rfl⟩
  | cons c cs ih =>
    obtain ⟨piece, j, hpieces, hchars⟩ :=
      pieces_escapeChar c (cs.flatMap escapeChar ++ '"' :: rest) i
    obtain ⟨ps, stop, hrest, hcontent⟩ := ih j
    refine ⟨piece :: ps, stop, ?_, ?_⟩
    · rw [List.flatMap_cons, List.append_assoc, hpieces, hrest]
    · rw [hchars, hcontent]
      rfl

/-- A string that was written is read, up to its closing quote. -/
theorem readString_quote (s : String) (rest : List Char) (i : Nat) :
    ∃ w j, readString ⟨s.toList.flatMap escapeChar ++ '"' :: rest, i⟩ = (w, some ⟨rest, j⟩) ∧
      w.Says s := by
  obtain ⟨ps, j, hpieces, hcontent⟩ := pieces_escaped s.toList rest i
  refine ⟨⟨.ok s, .ok j⟩, j, ?_, rfl, j, rfl⟩
  simp only [readString, hpieces, hcontent, Except.map, String.ofList_toList]

/-! ### Numbers -/

/-- A number does not go on in what follows it. -/
def EndsNumber (rest : List Char) : Prop :=
  ∀ c ∈ rest.head?, c.isDigit = false ∧ c ≠ '.' ∧ c ≠ 'e' ∧ c ≠ 'E'

theorem absorbDigits_append {k n : Nat} {ds : List Char} (es : List Char)
    (h : absorbDigits k ds = (n, [])) : absorbDigits k (ds ++ es) = absorbDigits n es := by
  induction ds generalizing k with
  | nil =>
    cases h
    rfl
  | cons d ds ih =>
    simp only [absorbDigits, List.cons_append] at h ⊢
    split at h
    · cases h
    · rename_i hfits
      rw [if_neg hfits]
      exact ih h

theorem digitValue_digitChar : ∀ n < 10, digitValue n.digitChar = n := by
  decide

/-- The digits of a number that fits 64 bits are taken in completely. -/
theorem absorbDigits_toDigits {n : Nat} (h : (n : Int) ≤ maxInteger) :
    absorbDigits 0 (Nat.toDigits 10 n) = (n, []) := by
  induction n using Nat.strongRecOn with
  | ind n ih =>
    by_cases hn : n < 10
    · rw [Nat.toDigits_of_lt_base hn]
      simp [absorbDigits, digitValue_digitChar n hn, Int.not_lt.mpr h]
    · rw [Nat.toDigits_of_base_le (by omega) (by omega),
        absorbDigits_append _ (ih (n / 10) (by omega) (by omega))]
      have hlast : n / 10 * 10 + digitValue (n % 10).digitChar = n := by
        rw [digitValue_digitChar _ (by omega)]
        omega
      simp [absorbDigits, hlast, Int.not_lt.mpr h]

theorem digitChar_ne_zero : ∀ n < 10, 0 < n → n.digitChar ≠ '0' := by
  decide

/-- The digits of a positive number start with none that is zero. -/
theorem toDigits_eq_cons {n : Nat} (h : 0 < n) :
    ∃ d ds, Nat.toDigits 10 n = d :: ds ∧ d ≠ '0' := by
  induction n using Nat.strongRecOn with
  | ind n ih =>
    by_cases hn : n < 10
    · exact ⟨_, [], Nat.toDigits_of_lt_base hn, digitChar_ne_zero n hn h⟩
    · obtain ⟨d, ds, hds, hd⟩ := ih (n / 10) (by omega) (by omega)
      refine ⟨d, ds ++ [(n % 10).digitChar], ?_, hd⟩
      rw [Nat.toDigits_of_base_le (by omega) (by omega), hds, List.cons_append]

/-- A text of one or more digits. -/
def IsDigits (ds : List Char) : Prop := ds ≠ [] ∧ ∀ d ∈ ds, d.isDigit = true

theorem isDigits_toDigits (n : Nat) : IsDigits (Nat.toDigits 10 n) :=
  ⟨Nat.toDigits_ne_nil, fun _ => Nat.isDigit_of_mem_toDigits (by omega) (by omega)⟩

theorem isDigits_of_noExponent : ∀ e ∈ (none : Option (Bool × List Char)), IsDigits e.2 := nofun

/-- The digits that a number without its sign is written with: its whole part, the digits after a
point, and an exponent with whether it is negative. -/
structure Numeral where
  whole : List Char
  fraction : Option (List Char)
  exponent : Option (Bool × List Char)
  isDigits_whole : IsDigits whole
  whole_of_zero : whole.head? = some '0' → whole = ['0']
  isDigits_fraction : ∀ ds ∈ fraction, IsDigits ds
  isDigits_exponent : ∀ e ∈ exponent, IsDigits e.2

namespace Numeral

/-- The digits of a natural. -/
def ofNat (n : Nat) : Numeral where
  whole := Nat.toDigits 10 n
  fraction := none
  exponent := none
  isDigits_whole := isDigits_toDigits n
  whole_of_zero h := by
    rcases Nat.eq_zero_or_pos n with rfl | hn
    · rfl
    · obtain ⟨d, ds, hds, hd⟩ := toDigits_eq_cons hn
      rw [hds] at h
      exact absurd (by simpa using h) hd
  isDigits_fraction := nofun
  isDigits_exponent := isDigits_of_noExponent

/-- What is written after the whole part for a fraction. -/
def fractionChars (n : Numeral) : List Char := n.fraction.elim [] ('.' :: ·)

/-- What is written at the end for an exponent. -/
def exponentChars (n : Numeral) : List Char :=
  n.exponent.elim [] fun e => 'e' :: (if e.1 then '-' else '+') :: e.2

/-- How a number with these digits is written. -/
def chars (n : Numeral) (negative : Bool) : List Char :=
  (if negative then ['-'] else []) ++ n.whole ++ n.fractionChars ++ n.exponentChars

end Numeral

/-- The parts of a number that was read are those of a numeral with a sign. -/
structure NumberParts.Says (p : NumberParts) (negative : Bool) (n : Numeral) : Prop where
  negative : p.negative = negative
  whole : p.whole = n.whole
  fraction : p.fraction = n.fraction
  exponent : (p.exponent.map fun e => (e.1, e.2.2)) = n.exponent

variable {ds rest : List Char}

theorem digits_append (hds : IsDigits ds) (hrest : ∀ c ∈ rest.head?, c.isDigit = false) (i : Nat) :
    Cursor.digits ⟨ds ++ rest, i⟩ = ds := by
  change (ds ++ rest).takeWhile Char.isDigit = ds
  rw [List.takeWhile_append_of_pos hds.2]
  cases rest with
  | nil => simp
  | cons c rest => simp [hrest c rfl]

theorem skip_append (ds rest : List Char) (i : Nat) :
    Cursor.skip ⟨ds ++ rest, i⟩ ds.length = ⟨rest, i + ds.length⟩ := by
  simp [Cursor.skip]

theorem readWhole_append (n : Numeral) (hrest : ∀ c ∈ rest.head?, c.isDigit = false) (i : Nat) :
    ∃ j, readWhole ⟨n.whole ++ rest, i⟩ = .ok (n.whole, ⟨rest, j⟩) := by
  have hdigits := digits_append n.isDigits_whole hrest i
  refine ⟨i + n.whole.length, ?_⟩
  have hskip := skip_append n.whole rest i
  obtain ⟨d, ds, hds⟩ := List.exists_cons_of_ne_nil n.isDigits_whole.1
  have hzero (h : d = '0') : ds = [] := by
    have := n.whole_of_zero
    rw [hds] at this
    simpa [h] using this
  rw [hds] at hdigits hskip ⊢
  simp only [readWhole, hdigits]
  rw [if_neg (by simpa using hzero), ← List.length_cons, hskip]

theorem readFraction_append (n : Numeral)
    (hrest : ∀ c ∈ rest.head?, c.isDigit = false ∧ c ≠ '.') (i : Nat) :
    ∃ j, readFraction ⟨n.fractionChars ++ rest, i⟩ = .ok (n.fraction, ⟨rest, j⟩) := by
  unfold Numeral.fractionChars
  cases hfraction : n.fraction with
  | none =>
    refine ⟨i, ?_⟩
    unfold readFraction
    split
    · rename_i h
      exact absurd rfl (hrest '.' (by simp at h; simp [h])).2
    · rfl
  | some ds =>
    have hds := n.isDigits_fraction ds hfraction
    have hdigits := digits_append hds (fun c hc => (hrest c hc).1) (i + 1)
    have hpoint : Cursor.skip ⟨'.' :: (ds ++ rest), i⟩ 1 = ⟨ds ++ rest, i + 1⟩ := rfl
    refine ⟨i + 1 + ds.length, ?_⟩
    simp [readFraction, hpoint, hdigits, hds.1, skip_append]

theorem readScale_append (n : Numeral) (hrest : EndsNumber rest) (i : Nat) :
    ∃ e j, readScale ⟨n.exponentChars ++ rest, i⟩ = .ok (e, ⟨rest, j⟩) ∧
      (e.map fun e => (e.1, e.2.2)) = n.exponent := by
  unfold Numeral.exponentChars
  cases hexponent : n.exponent with
  | none =>
    refine ⟨none, i, ?_, rfl⟩
    unfold readScale
    split
    · rfl
    · rename_i e more h
      have he := hrest e (by simp at h; simp [h])
      rw [if_neg (by simp [he.2.2])]
      rfl
  | some e =>
    obtain ⟨down, ds⟩ := e
    have hds := n.isDigits_exponent _ hexponent
    have hdigits := digits_append hds (fun c hc => (hrest c hc).1) (i + 1 + 1)
    have hmark (sign : Char) : Cursor.skip ⟨'e' :: sign :: (ds ++ rest), i⟩ 1 =
        ⟨sign :: (ds ++ rest), i + 1⟩ := rfl
    have hsign (sign : Char) : Cursor.skip ⟨sign :: (ds ++ rest), i + 1⟩ 1 =
        ⟨ds ++ rest, i + 1 + 1⟩ := rfl
    refine ⟨some (down, i + 1 + 1, ds), i + 1 + 1 + ds.length, ?_, rfl⟩
    cases down <;> simp [readScale, hmark, hsign, hdigits, hds.1, skip_append]

/-- A number is read digit by digit as it was written. -/
theorem readNumber_chars (n : Numeral) (negative : Bool) (hrest : EndsNumber rest) (i : Nat) :
    ∃ parts j, readNumber ⟨n.chars negative ++ rest, i⟩ = .ok (parts, ⟨rest, j⟩) ∧
      parts.Says negative n := by
  have hend : ∀ c ∈ (n.exponentChars ++ rest).head?, c.isDigit = false ∧ c ≠ '.' := by
    unfold Numeral.exponentChars
    cases n.exponent with
    | none => exact fun c hc => ⟨(hrest c hc).1, (hrest c hc).2.1⟩
    | some e => simp
  have hmid : ∀ c ∈ (n.fractionChars ++ (n.exponentChars ++ rest)).head?, c.isDigit = false := by
    unfold Numeral.fractionChars
    cases n.fraction with
    | none => exact fun c hc => (hend c hc).1
    | some ds => simp
  obtain ⟨d, ds, hds⟩ := List.exists_cons_of_ne_nil n.isDigits_whole.1
  have hd : d ≠ '-' := by
    rintro rfl
    exact absurd (n.isDigits_whole.2 '-' (hds ▸ List.mem_cons_self)) (by decide)
  obtain ⟨j₁, hwhole⟩ := readWhole_append n hmid (if negative then i + 1 else i)
  obtain ⟨j₂, hfraction⟩ := readFraction_append n hend j₁
  obtain ⟨e, j₃, hscale, he⟩ := readScale_append n hrest j₂
  have hsign : ((n.chars negative ++ rest).head? == some '-') = negative := by
    cases negative <;> simp [Numeral.chars, hds, hd]
  have hskip : (if negative then Cursor.skip ⟨n.chars negative ++ rest, i⟩ 1
      else ⟨n.chars negative ++ rest, i⟩) =
        ⟨n.whole ++ (n.fractionChars ++ (n.exponentChars ++ rest)),
          if negative then i + 1 else i⟩ := by
    cases negative <;> simp [Numeral.chars, Cursor.skip]
  refine ⟨⟨negative, n.whole, n.fraction, e, j₃⟩, j₃, ?_, rfl, rfl, rfl, he⟩
  simp only [readNumber, hsign, hskip, hwhole, hfraction, hscale, bind, Except.bind, pure,
    Except.pure]

theorem toList_text_ofNat (n : Nat) :
    (Number.integer (.ofNat n)).text.toList = (Numeral.ofNat n).chars false := by
  change n.repr.toList = _
  simp [Nat.repr_eq_ofList_toDigits, Numeral.chars, Numeral.ofNat, Numeral.fractionChars,
    Numeral.exponentChars]

theorem toList_text_negSucc (n : Nat) :
    (Number.integer (.negSucc n)).text.toList = (Numeral.ofNat (n + 1)).chars true := by
  change ("-" ++ (n + 1).repr).toList = _
  simp [Nat.repr_eq_ofList_toDigits, Numeral.chars, Numeral.ofNat, Numeral.fractionChars,
    Numeral.exponentChars]

/-- A number starts with a sign or a digit. -/
theorem Numeral.chars_eq_cons (n : Numeral) (negative : Bool) :
    ∃ c cs, n.chars negative = c :: cs ∧ (c = '-' ∨ c.isDigit = true) := by
  obtain ⟨d, ds, hds⟩ := List.exists_cons_of_ne_nil n.isDigits_whole.1
  cases negative with
  | false =>
    exact ⟨d, ds ++ (n.fractionChars ++ n.exponentChars), by simp [chars, hds],
      .inr (n.isDigits_whole.2 d (hds ▸ List.mem_cons_self))⟩
  | true => exact ⟨'-', n.whole ++ (n.fractionChars ++ n.exponentChars), by simp [chars], .inl rfl⟩

theorem text_integer_eq_cons (n : Int) :
    ∃ c cs, (Number.integer n).text.toList = c :: cs ∧ (c = '-' ∨ c.isDigit = true) := by
  cases n with
  | ofNat n =>
    rw [toList_text_ofNat]
    exact Numeral.chars_eq_cons ..
  | negSucc n =>
    rw [toList_text_negSucc]
    exact Numeral.chars_eq_cons ..

theorem NumberParts.Says.value_ofNat {p : NumberParts} {n : Nat} (h : p.Says false (.ofNat n))
    (hmax : (n : Int) ≤ maxInteger) : p.value = .ok (.integer n) := by
  have hexponent : p.exponent = none := Option.map_eq_none_iff.mp h.exponent
  simp [value, h.negative, h.whole, h.fraction, hexponent, Numeral.ofNat,
    absorbDigits_toDigits hmax]

theorem NumberParts.Says.value_neg_ofNat {p : NumberParts} {n : Nat} (h : p.Says true (.ofNat n))
    (hpos : 0 < n) (hmin : minInteger ≤ -n) : p.value = .ok (.integer (-n)) := by
  have hexponent : p.exponent = none := Option.map_eq_none_iff.mp h.exponent
  have hfits : (n : Int) ≤ maxInteger := by
    unfold minInteger at hmin
    unfold maxInteger
    omega
  have hfloor : ¬ (n = 0 ∨ -(n : Int) < minInteger) := by omega
  simp [value, h.negative, h.whole, h.fraction, hexponent, Numeral.ofNat,
    absorbDigits_toDigits hfits, hfloor]

/-- The text of an integer of at most 64 bits is read as the integer. -/
theorem readNumber_integer {n : Int} (hmin : minInteger ≤ n) (hmax : n ≤ maxInteger)
    (hrest : EndsNumber rest) (i : Nat) :
    ∃ parts j, readNumber ⟨(Number.integer n).text.toList ++ rest, i⟩ = .ok (parts, ⟨rest, j⟩) ∧
      parts.value = .ok (.integer n) := by
  cases n with
  | ofNat n =>
    obtain ⟨parts, j, hread, hsays⟩ := readNumber_chars (.ofNat n) false hrest i
    exact ⟨parts, j, by rw [toList_text_ofNat, hread], hsays.value_ofNat hmax⟩
  | negSucc n =>
    obtain ⟨parts, j, hread, hsays⟩ := readNumber_chars (.ofNat (n + 1)) true hrest i
    exact ⟨parts, j, by rw [toList_text_negSucc, hread], hsays.value_neg_ofNat n.succ_pos hmin⟩

end Rollout.Json
