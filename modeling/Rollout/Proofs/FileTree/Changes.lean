import Rollout.Proofs.FileTree.Following

/-!
# What changes leave of the files of a tree

New directories come into being only where nothing stands, so however far the creation of a chain
of directories gets, each file stays where it is and as it is, and no file comes into being. A
write puts one file into an existing directory and leaves the other files alone.

## Main definitions

* `FileTree.SameFiles` — two trees with the same files at the same places

## Main results

* `FileTree.createDirectories_sameFiles` — making directories keeps the files, also on failure
* `FileTree.write_cases` — what a write puts where
* `FileTree.get?_put_file` — the files of a tree into which one was put
-/

namespace Rollout.FileTree

/-! ### New directories -/

/-- Two trees have the same files at the same places. -/
def SameFiles (t t' : FileTree) : Prop :=
  ∀ place content, t'.get? place = some (.file content) ↔ t.get? place = some (.file content)

theorem SameFiles.refl (t : FileTree) : t.SameFiles t := fun _ _ => Iff.rfl

theorem SameFiles.trans {t t' t'' : FileTree} (h : t.SameFiles t') (h' : t'.SameFiles t'') :
    t.SameFiles t'' :=
  fun place content => (h' place content).trans (h place content)

theorem emptyDirectory_get?_ne_file (place : Place) (content : ByteArray) :
    emptyDirectory.get? place ≠ some (.file content) := by
  cases place <;> simp [emptyDirectory, get?, child?, lookup]

/-- An empty directory where nothing stands changes no file. -/
theorem sameFiles_put_emptyDirectory {place : Place} :
    ∀ {tree : FileTree}, tree.get? place = none →
      tree.SameFiles (put emptyDirectory tree place) := by
  induction place with
  | nil =>
    intro tree h
    simp [get?] at h
  | cons name place ih =>
    intro tree h
    cases tree with
    | file content => exact SameFiles.refl _
    | directory entries =>
      intro other content
      cases other with
      | nil => simp [put, get?]
      | cons n other =>
        simp only [put, get?_directory_cons, lookup_setEntry]
        by_cases hn : name = n
        · subst hn
          rw [if_pos rfl, Option.bind_some]
          cases hl : lookup name entries with
          | some t => exact ih (by simpa [hl] using h) other content
          | none =>
            -- the directory on the way comes into being as well, so nothing stood below it
            have hnew : (put emptyDirectory emptyDirectory place).get? other ≠
                some (.file content) := by
              intro hfile
              cases place with
              | nil => exact emptyDirectory_get?_ne_file other content hfile
              | cons m place =>
                exact emptyDirectory_get?_ne_file other content
                  ((@ih emptyDirectory rfl other content).mp hfile)
            simp [hnew]
        · rw [if_neg hn]

theorem entryPlace_cases {dir : Standpoint} {name : String} {place : Place}
    (h : entryPlace dir name = .ok place) :
    dir.lost = 0 ∧ name.utf8ByteSize ≤ maxNameLength ∧ place = dir.place ++ [name] := by
  unfold entryPlace at h
  split at h
  · cases h
  · rename_i hlost
    split at h
    · cases h
    · rename_i hlength
      cases h
      exact ⟨by omega, by omega, rfl⟩

/-- A new directory stands in a directory that exists, under a name that nothing had. -/
theorem createDirectory_cases {root tree : FileTree} {workingDir : Standpoint} {path : String}
    (h : root.createDirectory workingDir path = .ok tree) :
    ∃ dir name, root.newEntry workingDir path = .ok (⟨dir, 0⟩, name) ∧
      root.get? (dir ++ [name]) = none ∧ tree = put emptyDirectory root (dir ++ [name]) := by
  unfold createDirectory at h
  cases hnew : root.newEntry workingDir path with
  | error e => simp [hnew, bind, Except.bind] at h
  | ok entry =>
    obtain ⟨dir, name⟩ := entry
    simp only [hnew, bind, Except.bind] at h
    split at h
    · cases h
    · cases hplace : entryPlace dir name with
      | error e => simp [hplace] at h
      | ok place =>
        obtain ⟨hlost, -, rfl⟩ := entryPlace_cases hplace
        obtain ⟨dir, lost⟩ := dir
        obtain rfl : lost = 0 := hlost
        simp only [hplace] at h
        split at h
        · cases h
        · rename_i hfree
          exact ⟨dir, name, rfl, by simpa using hfree, by simpa using h.symm⟩

theorem createDirectory_sameFiles {root tree : FileTree} {workingDir : Standpoint} {path : String}
    (h : root.createDirectory workingDir path = .ok tree) : root.SameFiles tree := by
  obtain ⟨dir, name, -, hfree, rfl⟩ := createDirectory_cases h
  exact sameFiles_put_emptyDirectory hfree

theorem createChain_sameFiles (root : FileTree) (workingDir : Standpoint) (paths : List String) :
    root.SameFiles (root.createChain workingDir paths).1 := by
  induction paths with
  | nil => exact SameFiles.refl root
  | cons path parents ih =>
    unfold createChain
    split
    · exact SameFiles.refl root
    · split
      · rename_i tree h
        exact createDirectory_sameFiles h
      · -- the parents come first, and the directory itself after them
        split
        · rename_i h
          rwa [h] at ih
        · rename_i tree h
          rw [h] at ih
          split
          · rename_i h'
            exact ih.trans (createDirectory_sameFiles h')
          · exact ih
      · exact SameFiles.refl root

/-- Making a directory, with those on the way to it, keeps each file and adds none, whether it
succeeds or fails on the way. -/
theorem createDirectories_sameFiles (root : FileTree) (workingDir : Standpoint) (path : String) :
    root.SameFiles (root.createDirectories workingDir path).1 :=
  createChain_sameFiles root workingDir _

/-! ### A new file -/

/-- A write that succeeds puts the content into a directory that exists, under a name that is no
directory. What stood there before is what the path led to. -/
theorem write_cases {root tree : FileTree} {workingDir : Standpoint} {path : String}
    {content : ByteArray} (h : root.write workingDir path content = .ok tree) :
    ∃ dir name entries, root.newEntry workingDir path = .ok (⟨dir, 0⟩, name) ∧
      root.get? dir = some (.directory entries) ∧
      (∀ below, lookup name entries ≠ some (.directory below)) ∧
      tree = put (.file content) root (dir ++ [name]) ∧
      ((lookup name entries).isSome → root.locate workingDir path = .ok ⟨dir ++ [name], 0⟩) := by
  unfold write at h
  cases hnew : root.newEntry workingDir path with
  | error e => simp [hnew, bind, Except.bind] at h
  | ok entry =>
    obtain ⟨dir, name⟩ := entry
    obtain ⟨entries, hseen, hlocate⟩ := newEntry_cases hnew
    simp only [hnew, bind, Except.bind] at h
    split at h
    · cases h
    · rename_i hname
      cases hplace : entryPlace dir name with
      | error e => simp [hplace] at h
      | ok place =>
        obtain ⟨hlost, hlength, rfl⟩ := entryPlace_cases hplace
        obtain ⟨dir, lost⟩ := dir
        obtain rfl : lost = 0 := hlost
        rw [seenFrom_of_lost rfl] at hseen
        have hentry : root.get? (dir ++ [name]) = lookup name entries := by
          simp [get?_append, hseen, get?, child?]
        simp only [hplace, hentry] at h
        refine ⟨dir, name, entries, rfl, hseen, ?_, ?_, ?_⟩
        · -- a directory of the name would have been an error
          intro below hbelow
          simp [hbelow] at h
        · split at h
          · cases h
          · cases h
            rfl
        · intro hthere
          rw [hlocate]
          simp only [not_or] at hname
          simp [follow, seenFrom_of_lost, hseen, hname, Nat.not_lt.mpr hlength, hthere]

/-- A path that leads to a file can be written to. -/
theorem write_of_locate {root : FileTree} {workingDir : Standpoint} {path : String}
    {place : Place} {old : ByteArray} (hw : workingDir.lost = 0)
    (h : root.locate workingDir path = .ok ⟨place, 0⟩)
    (hfile : root.get? place = some (.file old)) (content : ByteArray) :
    root.write workingDir path content = .ok (put (.file content) root place) := by
  obtain ⟨dir, name, rfl, hname, hlength, hnew⟩ := newEntry_of_locate_file hw h hfile
  simp [write, hnew, hname, entryPlace, Nat.not_lt.mpr hlength, hfile, bind, Except.bind]

/-- The files of a tree after a file was put into a directory of it. -/
theorem get?_put_file {new : ByteArray} {name : String} {dir : Place} :
    ∀ {tree : FileTree} {entries : List (String × FileTree)},
      tree.get? dir = some (.directory entries) →
      (∀ below, lookup name entries ≠ some (.directory below)) →
      ∀ (place : Place) (content : ByteArray),
        (put (.file new) tree (dir ++ [name])).get? place = some (.file content) ↔
          if place = dir ++ [name] then content = new
          else tree.get? place = some (.file content) := by
  induction dir with
  | nil =>
    intro tree entries h hname place content
    obtain rfl : tree = .directory entries := by simpa [get?] using h
    cases place with
    | nil => simp [put, get?]
    | cons n place =>
      simp only [List.nil_append, put, get?_directory_cons, lookup_setEntry]
      by_cases hn : name = n
      · subst hn
        cases place with
        | nil => simp [get?, eq_comm]
        | cons m place =>
          -- below the new file there is nothing, as there was nothing below what it replaces
          cases hl : lookup name entries with
          | none => simp
          | some t =>
            cases t with
            | file old => simp
            | directory below => exact absurd hl (hname below)
      · simp [hn, Ne.symm hn]
  | cons d dir ih =>
    intro tree entries h hname place content
    cases tree with
    | file old => simp at h
    | directory above =>
      rw [get?_directory_cons] at h
      obtain ⟨t, ht, h⟩ := Option.bind_eq_some_iff.mp h
      cases place with
      | nil => simp [put, get?]
      | cons n place =>
        simp only [List.cons_append, put, get?_directory_cons, lookup_setEntry]
        by_cases hd : d = n
        · subst hd
          simpa [ht] using ih h hname place content
        · simp [hd, Ne.symm hd]

/-- A write changes the file that the path leads to, and no other. -/
theorem get?_write {root tree : FileTree} {workingDir : Standpoint} {path : String}
    {content old : ByteArray} {place : Place} (hw : workingDir.lost = 0)
    (h : root.write workingDir path content = .ok tree)
    (hfile : root.get? place = some (.file old)) :
    tree.get? place = some (.file old) ↔
      (root.locate workingDir path = .ok ⟨place, 0⟩ → old = content) := by
  obtain ⟨dir, name, entries, hnew, hdir, hname, rfl, hthere⟩ := write_cases h
  rw [get?_put_file hdir hname]
  by_cases hplace : place = dir ++ [name]
  · subst hplace
    obtain ⟨entries', hdir', hentry⟩ := directory_of_get?_append hfile
    obtain rfl : entries' = entries := by simpa [hdir] using hdir'.symm
    simp [hthere hentry]
  · -- the path ends in one directory and one name, and leads to no other file
    rw [if_neg hplace]
    refine ⟨fun _ hlocate => ?_, fun _ => hfile⟩
    obtain ⟨dir', name', rfl, -, -, hnew'⟩ := newEntry_of_locate_file hw hlocate hfile
    rw [hnew] at hnew'
    cases hnew'
    exact absurd rfl hplace

end Rollout.FileTree
