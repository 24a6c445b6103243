import Rollout.Proofs.FileTree.Changes

/-!
# Trees that only grow

New directories and files take no directory away, and no name out of one. A way through directories
therefore stays open, and the path of a file that was written leads to the file.

## Main definitions

* `FileTree.Widens` — every directory is still there, with the names it had
* `FileTree.IsEntryName` — what can be the name of a new entry

## Main results

* `FileTree.createDirectories_widens`, `FileTree.write_widens` — what making directories and writing
  keep
* `FileTree.Widens.followAll` — a way stays open
* `FileTree.write_stands`, `FileTree.readText_write` — where a file stands that was written, and
  that it is read
-/

namespace Rollout.FileTree

variable {root tree new : FileTree} {workingDir s s' : Standpoint} {path : String} {place : Place}
  {content : ByteArray}

/-! ### Directories that stay -/

/-- Every directory is still there, with an entry of each name that it had. -/
def Widens (t t' : FileTree) : Prop :=
  ∀ place entries, t.get? place = some (.directory entries) →
    ∃ entries', t'.get? place = some (.directory entries') ∧
      ∀ name, (lookup name entries).isSome → (lookup name entries').isSome

theorem Widens.refl (t : FileTree) : t.Widens t :=
  fun _ entries h => ⟨entries, h, fun _ => id⟩

theorem Widens.trans {t t' t'' : FileTree} (h : t.Widens t') (h' : t'.Widens t'') :
    t.Widens t'' := by
  intro place entries hplace
  obtain ⟨entries', hplace', hnames⟩ := h place entries hplace
  obtain ⟨entries'', hplace'', hnames'⟩ := h' place entries' hplace'
  exact ⟨entries'', hplace'', fun name hname => hnames' name (hnames name hname)⟩

/-- What is put where no directory stands takes no directory away. -/
theorem widens_put (hplace : ∀ entries, root.get? place ≠ some (.directory entries)) :
    root.Widens (put new root place) := by
  induction place generalizing root with
  | nil =>
    intro other entries hother
    cases root with
    | directory entries => exact absurd rfl (hplace entries)
    | file content => cases other <;> simp [get?, child?] at hother
  | cons name place ih =>
    cases root with
    | file content => exact Widens.refl _
    | directory above =>
      intro other entries hother
      cases other with
      | nil =>
        obtain rfl : above = entries := by simpa [get?] using hother
        refine ⟨_, rfl, fun n hn => ?_⟩
        rw [lookup_setEntry]
        split
        · rfl
        · exact hn
      | cons n other =>
        rw [put, get?_directory_cons, lookup_setEntry]
        rw [get?_directory_cons] at hother
        split
        · rename_i hn
          subst hn
          obtain ⟨t, ht, hother⟩ := Option.bind_eq_some_iff.mp hother
          rw [get?_directory_cons] at hplace
          simp only [ht, Option.bind_some] at hplace
          simpa [ht] using ih hplace other entries hother
        · exact ⟨entries, hother, fun _ => id⟩

theorem createDirectory_widens (h : root.createDirectory workingDir path = .ok tree) :
    root.Widens tree := by
  obtain ⟨dir, name, -, hfree, rfl⟩ := createDirectory_cases h
  exact widens_put (by simp [hfree])

/-- What each new directory keeps, a chain of them keeps, however far it gets. -/
theorem createChain_induction {P : FileTree → Prop} {paths : List String} (hroot : P root)
    (hstep : ∀ t t' path, P t → t.createDirectory workingDir path = .ok t' → P t') :
    P (root.createChain workingDir paths).1 := by
  induction paths with
  | nil => exact hroot
  | cons path parents ih =>
    unfold createChain
    split
    · exact hroot
    · split
      · rename_i tree h
        exact hstep _ _ _ hroot h
      · split
        · rename_i h
          rwa [h] at ih
        · rename_i tree h
          rw [h] at ih
          split
          · rename_i h'
            exact hstep _ _ _ ih h'
          · exact ih
      · exact hroot

theorem createDirectories_widens (root : FileTree) (workingDir : Standpoint) (path : String) :
    root.Widens (root.createDirectories workingDir path).1 :=
  createChain_induction (Widens.refl root) fun _ _ _ h hmade =>
    h.trans (createDirectory_widens hmade)

theorem write_widens (h : root.write workingDir path content = .ok tree) : root.Widens tree := by
  obtain ⟨dir, name, entries, -, hdir, hname, rfl, -⟩ := write_cases h
  refine widens_put fun below hbelow => ?_
  exact hname below (by simpa [get?_append, hdir, get?, child?] using hbelow)

/-! ### Paths in wider trees -/

/-- A way through directories that are all still there leads to the same place. -/
theorem Widens.follow {segment : String} (h : root.Widens tree) (hs : s.lost = 0)
    (hway : root.follow s segment = .ok s') : tree.follow s segment = .ok s' := by
  obtain ⟨entries, hseen, hcase⟩ := follow_cases hway
  rw [seenFrom_of_lost hs] at hseen
  obtain ⟨entries', hseen', hnames⟩ := h _ _ hseen
  rcases hcase with ⟨hstay, rfl⟩ | ⟨rfl, rfl⟩ | ⟨⟨hne, hdot, hup⟩, hlength, hentry, rfl⟩
  · simp [FileTree.follow, seenFrom_of_lost hs, hseen', hstay]
  · simp [FileTree.follow, seenFrom_of_lost hs, hseen']
  · simp [FileTree.follow, seenFrom_of_lost hs, hseen', hne, hdot, hup, Nat.not_lt.mpr hlength,
      hnames _ hentry]

theorem Widens.followAll {names : List String} (h : root.Widens tree) (hs : s.lost = 0)
    (hway : root.followAll s names = .ok s') : tree.followAll s names = .ok s' := by
  induction names generalizing s with
  | nil => exact hway
  | cons segment rest ih =>
    obtain ⟨next, hnext, hrest⟩ := followAll_cons_eq_ok.mp hway
    exact followAll_cons_eq_ok.mpr ⟨next, h.follow hs hnext, ih (follow_lost hnext hs) hrest⟩

/-! ### After a write -/

/-- What can be the name of a new entry. -/
structure IsEntryName (name : String) : Prop where
  ne_empty : name ≠ ""
  ne_dot : name ≠ "."
  ne_up : name ≠ ".."
  length_le : name.utf8ByteSize ≤ maxNameLength

theorem newEntry_eq_ok {dir : Standpoint} {name : String}
    (h : root.newEntry workingDir path = .ok (dir, name)) :
    ∃ start front, components workingDir path = .ok (start, front ++ [name]) ∧
      root.followAll start front = .ok dir := by
  unfold newEntry at h
  cases hc : components workingDir path with
  | error e => simp [hc, bind, Except.bind] at h
  | ok parts =>
    obtain ⟨start, names⟩ := parts
    obtain ⟨hnames, -⟩ := components_cases hc
    simp only [hc, bind, Except.bind] at h
    cases hdir : root.followAll start names.dropLast with
    | error e => simp [hdir] at h
    | ok dir' =>
      simp only [hdir] at h
      split at h
      · cases h
        refine ⟨start, names.dropLast, ?_, hdir⟩
        rw [List.getLast?_eq_some_getLast hnames, Option.getD_some,
          List.dropLast_concat_getLast hnames]
      · cases h
      · cases h

theorem write_isEntryName (h : root.write workingDir path content = .ok tree) {dir : Standpoint}
    {name : String} (hnew : root.newEntry workingDir path = .ok (dir, name)) :
    IsEntryName name := by
  simp only [write, hnew, bind, Except.bind] at h
  split at h
  · cases h
  · rename_i hname
    simp only [not_or] at hname
    cases hplace : entryPlace dir name with
    | error e => simp [hplace] at h
    | ok place => exact ⟨hname.1, hname.2.1, hname.2.2, (entryPlace_cases hplace).2.1⟩

/-- After a write the file stands in the directory that all components of the path but the last
lead to, under the last one as its name. -/
theorem write_stands (hw : workingDir.lost = 0)
    (h : root.write workingDir path content = .ok tree) :
    ∃ start front name dir entries, components workingDir path = .ok (start, front ++ [name]) ∧
      IsEntryName name ∧ tree.followAll start front = .ok ⟨dir, 0⟩ ∧
      tree.get? dir = some (.directory entries) ∧ lookup name entries = some (.file content) := by
  obtain ⟨dir, name, entries, hnew, hdir, hname, htree, -⟩ := write_cases h
  obtain ⟨start, front, hcomponents, hway⟩ := newEntry_eq_ok hnew
  have hstart : start.lost = 0 := by
    obtain ⟨-, rfl | rfl, -⟩ := components_cases hcomponents
    · rfl
    · exact hw
  have hwide := write_widens h
  obtain ⟨entries', hdir', -⟩ := hwide _ _ hdir
  have hfile : tree.get? (dir ++ [name]) = some (.file content) := by
    rw [htree]
    exact (get?_put_file hdir hname _ _).mpr (by simp)
  refine ⟨start, front, name, dir, entries', hcomponents, write_isEntryName h hnew,
    hwide.followAll hstart hway, hdir', ?_⟩
  simpa [get?_append, hdir', get?, child?] using hfile

/-- A path that was written to leads to the file. -/
theorem locate_write (hw : workingDir.lost = 0)
    (h : root.write workingDir path content = .ok tree) :
    ∃ place, tree.locate workingDir path = .ok ⟨place, 0⟩ ∧
      tree.get? place = some (.file content) := by
  obtain ⟨start, front, name, dir, entries, hcomponents, hname, hway, hdir, hfile⟩ :=
    write_stands hw h
  refine ⟨dir ++ [name], ?_, by simp [get?_append, hdir, get?, child?, hfile]⟩
  simp only [locate, hcomponents, bind, Except.bind]
  rw [followAll_append, hway]
  simp [Except.bind, follow, seenFrom_of_lost, hdir, hname.ne_empty, hname.ne_dot, hname.ne_up,
    Nat.not_lt.mpr hname.length_le, hfile]

theorem fromUTF8?_toByteArray (text : String) :
    String.fromUTF8? text.toByteArray = some text := by
  rw [String.fromUTF8?, dif_pos text.isValidUTF8]
  rfl

/-- A text that was written is read. -/
theorem readText_write {text : String} (hw : workingDir.lost = 0)
    (h : root.write workingDir path text.toUTF8 = .ok tree) :
    tree.contains workingDir path = true ∧ tree.readText workingDir path = .ok text := by
  obtain ⟨place, hway, hfile⟩ := locate_write hw h
  constructor
  · simp [contains, at?, hway, seenFrom_of_lost, hfile]
  · simp [readText, hway, seenFrom_of_lost, hfile, fromUTF8?_toByteArray, bind, Except.bind]

end Rollout.FileTree
