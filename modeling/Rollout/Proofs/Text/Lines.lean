import Mathlib.Data.List.DropRight
import Rollout.Text.Blank

/-!
# Lines and marks in texts

A text without white space at its ends is what trimming leaves of it, whatever white space is put
around it. The filled lines of a text are those of its parts, where it is parted at the end of a
line. A mark in a text is found where it first occurs, and a search goes on behind a character that
the mark does not have.

## Main definitions

* `Text.IsTrimmed` — texts without white space at their ends
* `Text.ended` — lines as they are written down

## Main results

* `Text.IsTrimmed.trim_eq`, `Text.IsTrimmed.trim_concat` — what trimming leaves
* `Text.filledLines_append`, `Text.filledLines_ended` — the filled lines of longer texts
* `Text.splitOn_ended` — lines that are written down are read back
* `Text.splitOnce_eq_none_iff`, `Text.splitOnce_append`, `Text.splitOnce_beyond` — where a mark is
  found
-/

namespace Rollout.Text

/-- A text without white space at its ends. -/
structure IsTrimmed (cs : List Char) : Prop where
  start : ∀ c, cs.head? = some c → isBlank c = false
  stop : ∀ c, cs.getLast? = some c → isBlank c = false

instance (cs : List Char) : Decidable (IsTrimmed cs) :=
  decidable_of_iff
    (cs.head?.all (!isBlank ·) = true ∧ cs.getLast?.all (!isBlank ·) = true) <| by
    simp only [Option.all_eq_true, Bool.not_eq_true']
    exact ⟨fun h => ⟨h.1, h.2⟩, fun h => ⟨h.start, h.stop⟩⟩

/-- Lines as they are written down, each with an end. -/
def ended (lines : List (List Char)) : List Char := lines.flatMap (· ++ ['\n'])

variable {cs mark front back before after : List Char}

/-! ### Trimming -/

theorem dropWhileEnd_eq_rdropWhile (p : Char → Bool) (cs : List Char) :
    dropWhileEnd p cs = cs.rdropWhile p :=
  rfl

theorem IsTrimmed.dropWhile_eq (h : IsTrimmed cs) (back : List Char) (hcs : cs ≠ []) :
    (cs ++ back).dropWhile isBlank = cs ++ back := by
  obtain ⟨c, rest, rfl⟩ := List.exists_cons_of_ne_nil hcs
  rw [List.cons_append, List.dropWhile_cons, h.start c rfl]
  rfl

theorem IsTrimmed.dropWhileEnd_eq (h : IsTrimmed cs) : dropWhileEnd isBlank cs = cs := by
  rw [dropWhileEnd_eq_rdropWhile, List.rdropWhile_eq_self_iff]
  intro hcs
  rw [h.stop _ (List.getLast?_eq_some_getLast hcs)]
  exact Bool.false_ne_true

/-- Trimming leaves a trimmed text as it is. -/
theorem IsTrimmed.trim_eq (h : IsTrimmed cs) : trim cs = cs := by
  by_cases hcs : cs = []
  · rw [hcs]
    rfl
  · have hstart := h.dropWhile_eq [] hcs
    rw [List.append_nil] at hstart
    rw [trim, hstart, h.dropWhileEnd_eq]

/-- Trimming takes away white space behind a trimmed text, and no more. -/
theorem IsTrimmed.trim_concat {c : Char} (h : IsTrimmed cs) (hc : isBlank c = true) :
    trim (cs ++ [c]) = cs := by
  by_cases hcs : cs = []
  · rw [hcs, trim, List.nil_append, List.dropWhile_cons, if_pos hc]
    rfl
  · rw [trim, h.dropWhile_eq [c] hcs, dropWhileEnd_eq_rdropWhile,
      List.rdropWhile_concat_pos _ _ _ hc, ← dropWhileEnd_eq_rdropWhile, h.dropWhileEnd_eq]

/-! ### Lines -/

/-- The filled lines of a text that is parted at the end of a line. -/
theorem filledLines_append (front back : List Char) :
    filledLines (front ++ '\n' :: back) = filledLines front ++ filledLines back := by
  rw [filledLines, List.splitOn_append_cons_self, List.map_append, List.filter_append]
  rfl

/-- A line with something in it is a filled line. -/
theorem filledLines_line (hne : cs ≠ []) (h : IsTrimmed cs) (hline : '\n' ∉ cs) :
    filledLines cs = [cs] := by
  rw [filledLines, List.splitOn_eq_singleton hline, List.map_singleton, h.trim_eq]
  simp [hne]

/-- An end of line at the start of a text adds no filled line. -/
theorem filledLines_newline (cs : List Char) : filledLines ('\n' :: cs) = filledLines cs :=
  filledLines_append [] cs

/-- Lines that are written down are the filled lines of what is written. -/
theorem filledLines_ended {lines : List (List Char)}
    (h : ∀ line ∈ lines, line ≠ [] ∧ IsTrimmed line ∧ '\n' ∉ line) :
    filledLines (ended lines) = lines := by
  induction lines with
  | nil => rfl
  | cons line lines ih =>
    obtain ⟨hne, htrimmed, hline⟩ := h line List.mem_cons_self
    have hrest := ih fun l hl => h l (List.mem_cons_of_mem _ hl)
    calc
      filledLines (ended (line :: lines))
        = filledLines (line ++ '\n' :: ended lines) := by simp [ended]
      _ = filledLines line ++ filledLines (ended lines) := filledLines_append line (ended lines)
      _ = line :: lines := by
          rw [filledLines_line hne htrimmed hline, hrest, List.singleton_append]

/-- Lines that are written down, each with an end, are the parts of what is written, up to the
empty text behind the last end. -/
theorem splitOn_ended {lines : List (List Char)} (h : ∀ line ∈ lines, '\n' ∉ line) :
    (ended lines).splitOn '\n' = lines ++ [[]] := by
  induction lines with
  | nil => rfl
  | cons line lines ih =>
    obtain ⟨hline, hlines⟩ := List.forall_mem_cons.mp h
    calc
      (ended (line :: lines)).splitOn '\n'
        = (line ++ '\n' :: ended lines).splitOn '\n' := by simp [ended]
      _ = line.splitOn '\n' ++ (ended lines).splitOn '\n' := List.splitOn_append_cons_self _ _
      _ = line :: lines ++ [[]] := by
          rw [List.splitOn_eq_singleton hline, ih hlines, List.singleton_append, List.cons_append]

/-- What is neither in some texts nor in what separates them is not in the texts joined. -/
theorem not_mem_intercalate {c : Char} {separator : String} {texts : List String}
    (hseparator : c ∉ separator.toList) (htexts : ∀ text ∈ texts, c ∉ text.toList) :
    c ∉ (separator.intercalate texts).toList := by
  rw [String.toList_intercalate]
  induction texts with
  | nil => simp
  | cons text texts ih =>
    obtain ⟨htext, htexts⟩ := List.forall_mem_cons.mp htexts
    cases texts with
    | nil => simpa using htext
    | cons next texts =>
      rw [List.map_cons, List.map_cons, List.intercalate_cons_cons]
      simp only [List.mem_append, not_or]
      exact ⟨⟨htext, hseparator⟩, ih htexts⟩

/-! ### Marks -/

theorem splitOnce_eq_none_iff : splitOnce mark cs = none ↔ ¬ mark <:+: cs := by
  induction cs with
  | nil => cases mark <;> simp [splitOnce]
  | cons c cs ih =>
    rw [splitOnce, List.infix_cons_iff, ← List.isPrefixOf_iff_prefix]
    split
    · rename_i hstarts
      simp [hstarts]
    · rename_i hstarts
      rw [Option.map_eq_none_iff, ih]
      simp [hstarts]

/-- A mark at the start of a text is found there. -/
theorem splitOnce_of_startsWith (h : mark <+: cs) :
    splitOnce mark cs = some ([], cs.drop mark.length) := by
  cases cs with
  | nil =>
    obtain rfl := List.prefix_nil.mp h
    rfl
  | cons c cs => rw [splitOnce, if_pos (List.isPrefixOf_iff_prefix.mpr h)]

theorem splitOnce_cons_of_not_startsWith {c : Char} (h : ¬ mark <+: c :: cs) :
    splitOnce mark (c :: cs) =
      (splitOnce mark cs).map fun (before, after) => (c :: before, after) := by
  rw [splitOnce, if_neg (by rwa [List.isPrefixOf_iff_prefix])]

/-- Where a mark is found does not depend on what comes behind it. -/
theorem splitOnce_append (h : splitOnce mark cs = some (before, after)) (back : List Char) :
    splitOnce mark (cs ++ back) = some (before, after ++ back) := by
  induction cs generalizing before with
  | nil =>
    cases mark with
    | nil =>
      cases h
      exact splitOnce_of_startsWith List.nil_prefix
    | cons m mark => cases h
  | cons c cs ih =>
    by_cases hstarts : mark <+: c :: cs
    · rw [splitOnce_of_startsWith hstarts] at h
      cases h
      rw [splitOnce_of_startsWith (hstarts.trans (List.prefix_append _ back)),
        List.drop_append_of_le_length hstarts.length_le]
    · rw [splitOnce_cons_of_not_startsWith hstarts, Option.map_eq_some_iff] at h
      obtain ⟨⟨inner, rest⟩, hinner, hbefore⟩ := h
      cases hbefore
      -- the mark is no longer than the text it was found in, so it does not reach beyond that
      have hlength : mark.length ≤ (c :: cs).length := by
        rw [eq_append_of_splitOnce hinner]
        simp only [List.length_cons, List.length_append]
        omega
      have hlonger : ¬ mark <+: c :: (cs ++ back) := by
        intro hmark
        exact hstarts (List.prefix_of_prefix_length_le hmark (List.prefix_append _ back) hlength)
      rw [List.cons_append, splitOnce_cons_of_not_startsWith hlonger, ih hinner]
      rfl

/-- A mark without the character `c` is in front of it, if it is at the start of a text. -/
theorem prefix_of_prefix_append_cons {c : Char} (hc : c ∉ mark)
    (h : mark <+: front ++ c :: back) : mark <+: front := by
  have hshort : front ++ [c] <+: front ++ c :: back := ⟨back, by simp⟩
  rcases List.prefix_or_prefix_of_prefix h hshort with hmark | hmark
  · rcases List.prefix_concat_iff.mp hmark with rfl | hmark
    · simp at hc
    · exact hmark
  · exact absurd (hmark.subset (by simp)) hc

/-- Where a text does not have a mark, it is searched for behind the text, if a character comes
between the two that the mark does not have. -/
theorem splitOnce_beyond {c : Char} (h : splitOnce mark front = none) (hc : c ∉ mark)
    (back : List Char) :
    splitOnce mark (front ++ c :: back) =
      (splitOnce mark back).map fun (before, after) => (front ++ c :: before, after) := by
  induction front with
  | nil =>
    -- a mark without that character starts there only if it is empty
    have hmark : ¬ mark <+: c :: back := by
      intro hstarts
      have hnil : mark <+: [] := prefix_of_prefix_append_cons hc hstarts
      rw [splitOnce_of_startsWith hnil] at h
      cases h
    exact splitOnce_cons_of_not_startsWith hmark
  | cons d front ih =>
    -- a mark at the start of the whole text would be at the start of its front already
    have hmark : ¬ mark <+: d :: (front ++ c :: back) := by
      intro hstarts
      rw [splitOnce_of_startsWith (prefix_of_prefix_append_cons hc hstarts)] at h
      cases h
    have hshort : ¬ mark <+: d :: front := by
      intro hstarts
      exact hmark (hstarts.trans (List.prefix_append (d :: front) (c :: back)))
    rw [splitOnce_cons_of_not_startsWith hshort, Option.map_eq_none_iff] at h
    rw [List.cons_append, splitOnce_cons_of_not_startsWith hmark, ih h, Option.map_map]
    rfl

end Rollout.Text
