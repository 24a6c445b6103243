import Rollout.Proofs.FileTree.Changes

/-!
# Paths that stray

Whether anything stands at a path is asked of the tree as it is: every directory on the way has to
exist, also one that `..` leads straight out of again. Making the missing directories can therefore
open a way to something that has been there all along. A path strays when this happens to it.

## Main definitions

* `FileTree.Strays` — a path strays to a place

## Main results

* `FileTree.Strays.climbs` — a path without `..` strays to no file
-/

namespace Rollout.FileTree

variable {root tree : FileTree} {workingDir s : Standpoint} {path : String} {place : Place}

/-- A path leads nowhere, but it leads to a place once the directories on its way have been
made. -/
structure Strays (root : FileTree) (workingDir : Standpoint) (path : String) (place : Place) :
    Prop where
  nowhere : root.contains workingDir path = false
  arrives : ∃ tree,
    root.createDirectories workingDir ((Path.parent? path).getD "") = (tree, none) ∧
      tree.locate workingDir path = .ok ⟨place, 0⟩

/-! ### The way without `..` -/

/-- Who never goes up stays below where he started. -/
theorem prefix_of_followAll {names : List String} {s' : Standpoint} (hup : ".." ∉ names)
    (h : root.followAll s names = .ok s') : s.place <+: s'.place := by
  induction names generalizing s with
  | nil =>
    cases h
    exact List.prefix_refl _
  | cons segment rest ih =>
    obtain ⟨next, hnext, hrest⟩ := followAll_cons_eq_ok.mp h
    have hbelow := ih (fun hmem => hup (List.mem_cons_of_mem _ hmem)) hrest
    obtain ⟨entries, -, ⟨-, rfl⟩ | ⟨rfl, -⟩ | ⟨-, -, -, rfl⟩⟩ := follow_cases hnext
    · exact hbelow
    · exact absurd List.mem_cons_self hup
    · exact (List.prefix_append _ _).trans hbelow

/-- Between trees with the same files, a way to a file that never goes up is a way in both: all
that it goes through lies above the file. -/
theorem followAll_of_sameFiles {names : List String} {content : ByteArray} (hs : s.lost = 0)
    (hsame : root.SameFiles tree) (hfile : root.get? place = some (.file content))
    (hup : ".." ∉ names) (h : tree.followAll s names = .ok ⟨place, 0⟩) :
    root.followAll s names = .ok ⟨place, 0⟩ := by
  induction names generalizing s with
  | nil => exact h
  | cons segment rest ih =>
    obtain ⟨next, hnext, hrest⟩ := followAll_cons_eq_ok.mp h
    have hup' : ".." ∉ rest := fun hmem => hup (List.mem_cons_of_mem _ hmem)
    have hbelow : next.place <+: place := prefix_of_followAll hup' hrest
    refine followAll_cons_eq_ok.mpr ⟨next, ?_, ih (follow_lost hnext hs) hup' hrest⟩
    obtain ⟨entries, hseen, hcase⟩ := follow_cases hnext
    rw [seenFrom_of_lost hs] at hseen
    rcases hcase with ⟨hstay, rfl⟩ | ⟨rfl, -⟩ | ⟨hname, hlength, -, rfl⟩
    · obtain ⟨_ | ⟨name, below⟩, rfl⟩ := hbelow
      · -- the file itself is no place to stay in
        rw [List.append_nil] at hfile
        rw [(hsame _ _).mpr hfile] at hseen
        cases hseen
      · obtain ⟨found, hfound, -⟩ := directory_of_get?_append hfile
        simp [follow, seenFrom_of_lost hs, hfound, hstay]
    · exact absurd List.mem_cons_self hup
    · -- the entry lies above the file, so it is there in both trees
      obtain ⟨below, rfl⟩ := hbelow
      rw [List.append_assoc, List.singleton_append] at hfile
      obtain ⟨found, hfound, hentry⟩ := directory_of_get?_append hfile
      simp [follow, seenFrom_of_lost hs, hfound, hname, Nat.not_lt.mpr hlength, hentry]

/-- A path that strays to a file goes up somewhere on its way. -/
theorem Strays.climbs {content : ByteArray} (h : root.Strays workingDir path place)
    (hw : workingDir.lost = 0) (hfile : root.get? place = some (.file content)) :
    ['.', '.'] ∈ Path.segments path := by
  obtain ⟨hnowhere, tree, hmade, harrives⟩ := h
  have hsame : root.SameFiles tree := by
    have := createDirectories_sameFiles root workingDir ((Path.parent? path).getD "")
    rwa [hmade] at this
  -- without `..` the way to the file would have been there before the directories were made
  refine Decidable.byContradiction fun hup => ?_
  unfold locate at harrives
  cases hc : components workingDir path with
  | error e => simp [hc, bind, Except.bind] at harrives
  | ok parts =>
    obtain ⟨start, names⟩ := parts
    obtain ⟨-, hstart, hnames⟩ := components_cases hc
    have hstart : start.lost = 0 := by
      rcases hstart with rfl | rfl
      · rfl
      · exact hw
    have hup' : ".." ∉ names := fun hmem => hup (hnames _ hmem)
    simp only [hc, bind, Except.bind] at harrives
    have hway := followAll_of_sameFiles hstart hsame hfile hup' harrives
    simp [contains, at?, locate, hc, hway, seenFrom, hfile, bind, Except.bind] at hnowhere

end Rollout.FileTree
