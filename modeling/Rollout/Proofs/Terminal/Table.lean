import Mathlib.Data.List.Forall2
import Rollout.Command.Status
import Rollout.Proofs.Text.Lines

/-!
# The table of a status

A cell has the width of its column, counted in characters, whatever text it is for. The column for
hosts is by two wider than the longest of their names, so no name is cut short, and the labels of
all rows stand one below the other.

## Main definitions

* `StatusRow.IsOneLine` — there is no end of a line in what is shown of a row
* `StatusRow.ShownAt` — a line shows a row, with its label at an offset

## Main results

* `Terminal.length_column` — cells have the width of their column
* `StatusTable.lines_aligned` — a table has one line for each row, and its labels are aligned
-/

namespace Rollout

/-! ### Cells -/

namespace Terminal

variable {text : String} {width : Nat}

/-- A text that is shorter than its column is padded with blanks. -/
theorem toList_column_of_length_lt (h : text.length < width) :
    (column text width).toList = text.toList ++ List.replicate (width - text.length) ' ' := by
  rw [← String.length_toList] at h ⊢
  rw [column, if_pos h, String.toList_ofList]

/-- A text that is not shorter than its column is cut short. -/
theorem toList_column_of_le (h : width ≤ text.length) :
    (column text width).toList = text.toList.take (width - 2) ++ ['…', ' '] := by
  rw [← String.length_toList] at h
  rw [column, if_neg (Nat.not_lt.mpr h), String.toList_ofList]

/-- A cell has the width of its column. -/
theorem length_column (h : 2 ≤ width) : (column text width).length = width := by
  rw [← String.length_toList]
  by_cases hshort : text.length < width
  · rw [toList_column_of_length_lt hshort, List.length_append, List.length_replicate,
      String.length_toList]
    omega
  · -- the ellipsis and the blank take the places of the two last characters of the column
    have hlong := Nat.le_of_not_lt hshort
    rw [toList_column_of_le hlong, List.length_append, List.length_take, String.length_toList]
    simp only [List.length_cons, List.length_nil]
    omega

end Terminal

/-! ### Rows -/

/-- There is no end of a line in what is shown of a row. -/
structure StatusRow.IsOneLine (r : StatusRow) : Prop where
  host : '\n' ∉ r.host.toList
  label : '\n' ∉ r.status.condition.label.toList
  services : ∀ e ∈ r.status.services.entries, '\n' ∉ e.1.toList ∧ '\n' ∉ e.2.toList

/-- A line shows a row: the full name of the host, at least two blanks, the label at an offset, two
blanks and the states of the services. -/
def StatusRow.ShownAt (offset : Nat) (r : StatusRow) (line : List Char) : Prop :=
  ∃ blanks, 2 ≤ blanks ∧ r.host.length + blanks = offset ∧
    line = r.host.toList ++ List.replicate blanks ' ' ++ r.status.condition.label.toList ++
      [' ', ' '] ++ r.status.serviceStates.toList

theorem StatusRow.IsOneLine.serviceStates {r : StatusRow} (h : r.IsOneLine) :
    '\n' ∉ r.status.serviceStates.toList := by
  unfold HostStatus.serviceStates
  simp only [String.toList_append, List.mem_append, not_or]
  refine ⟨⟨by decide, Text.not_mem_intercalate (by decide) fun text htext => ?_⟩, by decide⟩
  obtain ⟨⟨service, state⟩, hentry, rfl⟩ := List.mem_map.mp htext
  obtain ⟨hservice, hstate⟩ := h.services (service, state) hentry
  simp [String.toList_append, hservice, hstate]

/-- What is shown of a row without an end of a line is a line. -/
theorem StatusRow.ShownAt.isLine {offset : Nat} {r : StatusRow} {line : List Char}
    (h : r.ShownAt offset line) (hrow : r.IsOneLine) : '\n' ∉ line := by
  obtain ⟨blanks, -, -, rfl⟩ := h
  simp [hrow.host, hrow.label, hrow.serviceStates]

/-! ### Tables -/

theorem Outcome.toList_text (lines : List String) :
    (Outcome.text lines).toList = Text.ended (lines.map String.toList) := by
  simp [Outcome.text, Text.ended, String.toList_join, List.flatMap_map]

namespace StatusTable

variable {t : StatusTable} {r : StatusRow}

/-- The column for hosts is wider than the name of each of them. -/
theorem length_le_hostWidth (h : r ∈ t.rows) : r.host.length + 2 ≤ t.hostWidth := by
  have hmem : r.host.length ∈ t.rows.map fun r => r.host.length := List.mem_map_of_mem h
  exact Nat.add_le_add_right (List.le_max?_getD_of_mem hmem) 2

/-- The line of a row without colours. -/
def line (t : StatusTable) (r : StatusRow) : String :=
  Terminal.column r.host t.hostWidth ++ r.status.condition.label ++ "  " ++ r.status.serviceStates

theorem lines_false (t : StatusTable) : t.lines false = t.rows.map t.line := by
  simp only [lines, Terminal.bold, Terminal.dim, Terminal.conditionLabel, Style.paint_off]
  rfl

/-- No host name fills its column, so none is cut short. -/
theorem shownAt_line (h : r ∈ t.rows) : r.ShownAt t.hostWidth (t.line r).toList := by
  have hwide := length_le_hostWidth h
  have hshort : r.host.length < t.hostWidth := by omega
  refine ⟨t.hostWidth - r.host.length, by omega, by omega, ?_⟩
  simp only [line, String.toList_append, Terminal.toList_column_of_length_lt hshort]
  rfl

/-- Without colours a table is printed with one line for each row, in their order. A line starts
with the full name of the host and at least two blanks, and the labels are at one offset in all
lines. This is because a cell has the width of its column: it is the text padded with blanks if
that is shorter, and otherwise so much of it that an ellipsis and a blank still fit. Widths have no
upper limit, as said at `Terminal.column`. -/
theorem lines_aligned (t : StatusTable) (h : ∀ r ∈ t.rows, r.IsOneLine) :
    (∃ offset lines, (Outcome.text (t.lines false)).toList.splitOn '\n' = lines ++ [[]] ∧
      List.Forall₂ (StatusRow.ShownAt offset) t.rows lines) ∧
    ∀ text width, 2 ≤ width → (Terminal.column text width).length = width ∧
      (text.length < width → (Terminal.column text width).toList =
        text.toList ++ List.replicate (width - text.length) ' ') ∧
      (width ≤ text.length → (Terminal.column text width).toList =
        text.toList.take (width - 2) ++ ['…', ' ']) := by
  have hlines : (t.lines false).map String.toList = t.rows.map fun r => (t.line r).toList := by
    rw [lines_false, List.map_map]
    rfl
  refine ⟨⟨t.hostWidth, t.rows.map fun r => (t.line r).toList, ?_, ?_⟩,
    fun text width hwidth => ⟨Terminal.length_column hwidth,
      Terminal.toList_column_of_length_lt, Terminal.toList_column_of_le⟩⟩
  · rw [Outcome.toList_text, hlines]
    refine Text.splitOn_ended fun line hline => ?_
    obtain ⟨r, hr, rfl⟩ := List.mem_map.mp hline
    exact (shownAt_line hr).isLine (h r hr)
  · rw [List.forall₂_map_right_iff, List.forall₂_same]
    exact fun r => shownAt_line

end StatusTable

/-- A table of two hosts whose names have letters of several bytes. -/
def mixedTable : StatusTable where
  environment := "staging"
  rows := [
    ⟨"zürich.example.com", ⟨.running, .ofList [("web", "active"), ("größe", "active")]⟩⟩,
    ⟨"東京", ⟨.other "partial", ∅⟩⟩]
  failed := []

/-- The labels of the table are at one offset, counted in characters. -/
theorem mixedTable_aligned :
    ∃ offset lines,
      (Outcome.text (mixedTable.lines false)).toList.splitOn '\n' = lines ++ [[]] ∧
        List.Forall₂ (StatusRow.ShownAt offset) mixedTable.rows lines := by
  refine (StatusTable.lines_aligned mixedTable fun r hr => ?_).1
  rcases List.mem_pair.mp hr with rfl | rfl
  · exact ⟨by decide, by decide, by decide⟩
  · exact ⟨by decide, by decide, by decide⟩

end Rollout
