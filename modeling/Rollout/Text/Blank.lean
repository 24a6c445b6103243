/-!
# White space and lines

What counts as white space, trimming it from the ends of a text, and reading a text line by
line. Texts are handled as lists of characters.

## Main definitions

* `Text.isBlank` — the characters of the Unicode property `White_Space`
* `Text.trim` — a text without the white space at its ends
* `Text.filledLines` — the trimmed lines of a text that are not empty
-/

namespace Rollout.Text

/-- The characters with the Unicode property `White_Space`. -/
def isBlank (c : Char) : Bool :=
  let n := c.toNat
  (9 ≤ n && n ≤ 13) || n == 0x20 || n == 0x85 || n == 0xA0 || n == 0x1680 ||
    (0x2000 ≤ n && n ≤ 0x200A) || n == 0x2028 || n == 0x2029 || n == 0x202F || n == 0x205F ||
    n == 0x3000

/-- A text without the last characters that satisfy `p`. -/
def dropWhileEnd (p : Char → Bool) (cs : List Char) : List Char :=
  (cs.reverse.dropWhile p).reverse

/-- A text without the white space at its two ends. -/
def trim (cs : List Char) : List Char :=
  dropWhileEnd isBlank (cs.dropWhile isBlank)

/-- A string without the white space at its two ends. -/
def trimString (s : String) : String :=
  String.ofList (trim s.toList)

/-- The lines of a text, each trimmed, without those that are then empty. Where a line ends in a
carriage return the trimming takes it away. -/
def filledLines (cs : List Char) : List (List Char) :=
  ((cs.splitOn '\n').map trim).filter (!·.isEmpty)

/-- The parts of a text before and after the first occurrence of `mark`. -/
def splitOnce (mark : List Char) : List Char → Option (List Char × List Char)
  | [] => if mark.isEmpty then some ([], []) else none
  | c :: cs =>
    if mark.isPrefixOf (c :: cs) then some ([], (c :: cs).drop mark.length)
    else (splitOnce mark cs).map fun (before, after) => (c :: before, after)

/-- What is split around a mark is the text itself. -/
theorem eq_append_of_splitOnce {mark cs before after : List Char}
    (h : splitOnce mark cs = some (before, after)) : cs = before ++ mark ++ after := by
  induction cs generalizing before with
  | nil =>
    simp only [splitOnce] at h
    split at h <;> simp_all
  | cons c cs ih =>
    simp only [splitOnce] at h
    split at h
    · rename_i hp
      obtain ⟨t, ht⟩ := List.isPrefixOf_iff_prefix.1 hp
      simp only [Option.some.injEq, Prod.mk.injEq] at h
      obtain ⟨rfl, rfl⟩ := h
      simp [← ht]
    · obtain ⟨⟨b, a⟩, hb, he⟩ := Option.map_eq_some_iff.1 h
      simp only [Prod.mk.injEq] at he
      obtain ⟨rfl, rfl⟩ := he
      simp [ih hb]

/-- A text with every occurrence of the character `c` written as `replacement`. -/
def replaceChar (c : Char) (replacement : List Char) (cs : List Char) : List Char :=
  cs.flatMap fun d => if d = c then replacement else [d]

/-- Strings in ascending order, the order being that of their code points. -/
def sortStrings (xs : List String) : List String :=
  xs.mergeSort fun a b => decide (a ≤ b)

end Rollout.Text
