import Mathlib.Data.List.Sort
import Mathlib.Data.String.Basic
import Rollout.Text.Blank

/-!
# Texts in order

Texts are sorted by their code points. This is also the order of their bytes in UTF-8: no character
has an encoding that is the beginning of another's, and a greater character has greater bytes where
the encodings first differ, whatever their lengths are.

## Main definitions

* `Text.bytes` — the bytes of a text

## Main results

* `Text.bytes_lt_bytes_iff` — code points and bytes give the same order
* `Text.pairwise_sortStrings` — sorting different texts puts them in a strict order
-/

namespace Rollout.Text

variable {a b : String} {names : List String}

/-- The bytes of a text in UTF-8. -/
def bytes (s : String) : List UInt8 := s.toUTF8.data.toList

theorem bytes_eq_flatMap (s : String) : bytes s = s.toList.flatMap String.utf8EncodeChar := by
  rw [bytes, String.toUTF8, ← String.utf8Encode_toList, List.utf8Encode]
  simp

/-- A greater character has greater bytes, and so have texts from there on. -/
theorem utf8EncodeChar_append_lt {c d : Char} (h : c < d) (xs ys : List UInt8) :
    String.utf8EncodeChar c ++ xs < String.utf8EncodeChar d ++ ys := by
  have hcd : c.val.toNat < d.val.toNat := h
  have hd : d.val.toNat < 0x110000 := by
    have hvalid := d.valid
    simp only [UInt32.isValidChar, Nat.isValidChar] at hvalid
    omega
  unfold String.utf8EncodeChar
  generalize c.val.toNat = m at hcd
  generalize d.val.toNat = n at hcd hd
  -- a byte counts only where all that is before it is the same
  have hlast : m / 64 < n / 64 ∨ m / 64 = n / 64 ∧ m % 64 < n % 64 := by omega
  have hthird : m / 64 < n / 64 → m / 4096 < n / 4096 ∨
      m / 4096 = n / 4096 ∧ m / 64 % 64 < n / 64 % 64 := by omega
  have hsecond : m / 4096 < n / 4096 → m / 262144 < n / 262144 ∨
      m / 262144 = n / 262144 ∧ m / 4096 % 64 < n / 4096 % 64 := by omega
  -- a longer encoding has a greater first byte, and equally long ones have the same marks
  dsimp only
  split_ifs
  all_goals
    simp only [List.cons_append, List.nil_append, List.cons_lt_cons_iff, UInt8.lt_iff_toNat_lt,
      ← UInt8.toNat_inj, UInt8.toNat_ofNat']
    simp (disch := omega) only [Nat.mod_eq_of_lt]
    omega

theorem flatMap_utf8EncodeChar_lt {cs ds : List Char} (h : cs < ds) :
    cs.flatMap String.utf8EncodeChar < ds.flatMap String.utf8EncodeChar := by
  induction h with
  | @nil d ds =>
    obtain ⟨byte, rest, hbytes⟩ := List.exists_cons_of_ne_nil (@String.utf8EncodeChar_ne_nil d)
    simp [hbytes]
  | rel h => exact utf8EncodeChar_append_lt h _ _
  | cons _ ih => exact List.append_left_lt ih

/-- The order of texts is that of their bytes. -/
theorem bytes_lt_bytes_iff : bytes a < bytes b ↔ a < b := by
  have hmono : ∀ {a b : String}, a < b → bytes a < bytes b := fun {a b} h => by
    rw [bytes_eq_flatMap, bytes_eq_flatMap]
    exact flatMap_utf8EncodeChar_lt (String.lt_iff.mp h)
  refine ⟨fun h => ?_, hmono⟩
  by_contra hab
  -- otherwise the order of the bytes would be the opposite one
  by_cases hne : b = a
  · rw [hne] at h
    exact List.lt_irrefl _ h
  · exact List.lt_asymm h (hmono (Std.lt_of_le_of_ne (Std.not_lt.mp hab) hne))

/-- Sorting puts texts that are all different in a strictly ascending order. -/
theorem pairwise_sortStrings (h : names.Nodup) :
    (sortStrings names).Pairwise (· < ·) := by
  have hsorted : (sortStrings names).Pairwise (· ≤ ·) := List.pairwise_mergeSort' _ _
  have hdistinct : (sortStrings names).Nodup := (List.mergeSort_perm _ _).nodup_iff.mpr h
  exact (hsorted.and hdistinct).imp fun hab => Std.lt_of_le_of_ne hab.1 hab.2

end Rollout.Text
