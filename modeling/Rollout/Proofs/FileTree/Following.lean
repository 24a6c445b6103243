import Rollout.FileTree

/-!
# Where paths lead

Following a path goes through directories only. What a path leads to therefore has directories
above it, and a path that leads to a file ends in the name of the file, after the components that
lead to its directory.

## Main results

* `FileTree.follow_cases` — all that following one component can do
* `FileTree.newEntry_cases` — the directory and the name that a path ends in
* `FileTree.newEntry_of_locate_file` — the same for a path that leads to a file
-/

namespace Rollout.FileTree

variable {root : FileTree} {workingDir s s' : Standpoint} {path : String}

/-! ### Places below places -/

theorem get?_append (tree : FileTree) (p q : Place) :
    tree.get? (p ++ q) = (tree.get? p).bind (·.get? q) := by
  induction p generalizing tree with
  | nil => rfl
  | cons name p ih =>
    simp only [List.cons_append, get?]
    cases tree.child? name with
    | none => rfl
    | some t => exact ih t

@[simp] theorem get?_file_cons (content : ByteArray) (name : String) (place : Place) :
    (FileTree.file content).get? (name :: place) = none := rfl

@[simp] theorem get?_directory_cons (entries : List (String × FileTree)) (name : String)
    (place : Place) :
    (FileTree.directory entries).get? (name :: place) =
      (lookup name entries).bind (·.get? place) := rfl

/-- Above anything that stands somewhere there are directories, each with an entry of the next
name. -/
theorem directory_of_get?_append {t : FileTree} {p : Place} {name : String} {q : Place}
    (h : root.get? (p ++ name :: q) = some t) :
    ∃ entries, root.get? p = some (.directory entries) ∧ (lookup name entries).isSome := by
  rw [get?_append] at h
  obtain ⟨above, habove, h⟩ := Option.bind_eq_some_iff.mp h
  cases above with
  | file content => simp at h
  | directory entries =>
    rw [get?_directory_cons] at h
    obtain ⟨below, hbelow, -⟩ := Option.bind_eq_some_iff.mp h
    exact ⟨entries, habove, by simp [hbelow]⟩

/-! ### One component -/

theorem seenFrom_of_lost (h : s.lost = 0) : root.seenFrom s = root.get? s.place := by
  simp [seenFrom, h]

/-- Following a component, one stands in a directory, and stays there, goes up, or goes down to an
entry of it. -/
theorem follow_cases {segment : String} (h : root.follow s segment = .ok s') :
    ∃ entries, root.seenFrom s = some (.directory entries) ∧
      ((segment = "" ∨ segment = ".") ∧ s' = s ∨
        segment = ".." ∧ s' = s.up ∨
        (segment ≠ "" ∧ segment ≠ "." ∧ segment ≠ "..") ∧
          segment.utf8ByteSize ≤ maxNameLength ∧ (lookup segment entries).isSome ∧
          s' = { s with place := s.place ++ [segment] }) := by
  unfold follow at h
  split at h
  · cases h
  · cases h
  · rename_i entries hseen
    refine ⟨entries, hseen, ?_⟩
    split at h
    · rename_i hstay
      cases h
      exact .inl ⟨hstay, rfl⟩
    · rename_i hstay
      split at h
      · rename_i hup
        cases h
        exact .inr (.inl ⟨hup, rfl⟩)
      · rename_i hup
        split at h
        · cases h
        · rename_i hlength
          split at h
          · rename_i hentry
            cases h
            obtain ⟨hne, hdot⟩ := not_or.mp hstay
            exact .inr (.inr ⟨⟨hne, hdot, hup⟩, Nat.le_of_not_lt hlength, hentry, rfl⟩)
          · cases h

theorem follow_lost {segment : String} (h : root.follow s segment = .ok s') (hs : s.lost = 0) :
    s'.lost = 0 := by
  obtain ⟨entries, -, ⟨-, rfl⟩ | ⟨-, rfl⟩ | ⟨-, -, -, rfl⟩⟩ := follow_cases h
  · exact hs
  · -- from an existing directory `..` leads to its parent, which exists as well
    obtain ⟨place, lost⟩ := s
    obtain rfl : lost = 0 := hs
    rfl
  · exact hs

/-! ### Several components -/

theorem followAll_cons_eq_ok {segment : String} {rest : List String} :
    root.followAll s (segment :: rest) = .ok s' ↔
      ∃ next, root.follow s segment = .ok next ∧ root.followAll next rest = .ok s' := by
  simp only [followAll, bind, Except.bind]
  cases root.follow s segment <;> simp

@[simp] theorem followAll_singleton (s : Standpoint) (segment : String) :
    root.followAll s [segment] = root.follow s segment := by
  simp only [followAll, bind, Except.bind]
  cases root.follow s segment <;> rfl

theorem followAll_append (s : Standpoint) (front back : List String) :
    root.followAll s (front ++ back) = (root.followAll s front).bind (root.followAll · back) := by
  induction front generalizing s with
  | nil => rfl
  | cons segment front ih =>
    simp only [List.cons_append, followAll, bind, Except.bind]
    cases root.follow s segment with
    | error e => rfl
    | ok next => exact ih next

theorem followAll_lost {names : List String} (h : root.followAll s names = .ok s')
    (hs : s.lost = 0) : s'.lost = 0 := by
  induction names generalizing s with
  | nil =>
    cases h
    exact hs
  | cons segment rest ih =>
    obtain ⟨next, hnext, hrest⟩ := followAll_cons_eq_ok.mp h
    exact ih hrest (follow_lost hnext hs)

/-! ### Whole paths -/

/-- A path has components, and starts at the root or in the working directory. -/
theorem components_cases {start : Standpoint} {names : List String}
    (h : components workingDir path = .ok (start, names)) :
    names ≠ [] ∧ (start = ⟨[], 0⟩ ∨ start = workingDir) ∧
      ∀ name ∈ names, name.toList ∈ Path.segments path := by
  have hsegments : ∀ name ∈ (path.toList.splitOn '/').map String.ofList,
      name.toList ∈ Path.segments path := by
    intro name hname
    obtain ⟨segment, hsegment, rfl⟩ := List.mem_map.mp hname
    rwa [String.toList_ofList]
  unfold components at h
  split at h
  · cases h
  · split at h
    · cases h
    · split at h
      · cases h
      · cases h
      · rename_i hrest hcomponents
        cases h
        refine ⟨fun h => hrest h, .inl rfl, fun name hname => hsegments name ?_⟩
        rw [hcomponents]
        exact List.mem_cons_of_mem _ hname
      · rename_i hne _ _
        cases h
        exact ⟨fun h => hne h, .inr rfl, hsegments⟩

/-- The last component of a path is looked for in the directory that the others lead to. -/
theorem newEntry_cases {dir : Standpoint} {name : String}
    (h : root.newEntry workingDir path = .ok (dir, name)) :
    ∃ entries, root.seenFrom dir = some (.directory entries) ∧
      root.locate workingDir path = root.follow dir name := by
  unfold newEntry at h
  cases hc : components workingDir path with
  | error e => simp [hc, bind, Except.bind] at h
  | ok parts =>
    obtain ⟨start, names⟩ := parts
    obtain ⟨hnames, -⟩ := components_cases hc
    cases hdir : root.followAll start names.dropLast with
    | error e => simp [hc, hdir, bind, Except.bind] at h
    | ok dir' =>
      simp only [hc, hdir, bind, Except.bind] at h
      split at h
      · rename_i entries hseen
        cases h
        refine ⟨entries, hseen, ?_⟩
        have hlast : names = names.dropLast ++ [names.getLast?.getD ""] := by
          rw [List.getLast?_eq_some_getLast hnames, Option.getD_some,
            List.dropLast_concat_getLast hnames]
        calc
          root.locate workingDir path = root.followAll start names := by
            simp [locate, hc, bind, Except.bind]
          _ = (root.followAll start names.dropLast).bind
                (root.followAll · [names.getLast?.getD ""]) := by
            rw [← followAll_append, ← hlast]
          _ = root.follow dir (names.getLast?.getD "") := by
            rw [hdir]
            exact followAll_singleton dir _
      · cases h
      · cases h

/-- A path that leads to a file ends in the name of the file, in the directory of the file. -/
theorem newEntry_of_locate_file (hw : workingDir.lost = 0) {place : Place} {content : ByteArray}
    (h : root.locate workingDir path = .ok ⟨place, 0⟩)
    (hfile : root.get? place = some (.file content)) :
    ∃ dir name, place = dir ++ [name] ∧ (name ≠ "" ∧ name ≠ "." ∧ name ≠ "..") ∧
      name.utf8ByteSize ≤ maxNameLength ∧
      root.newEntry workingDir path = .ok (⟨dir, 0⟩, name) := by
  unfold locate at h
  cases hc : components workingDir path with
  | error e => simp [hc, bind, Except.bind] at h
  | ok parts =>
    obtain ⟨start, names⟩ := parts
    obtain ⟨hnames, hstart, -⟩ := components_cases hc
    have hstart : start.lost = 0 := by
      rcases hstart with rfl | rfl
      · rfl
      · exact hw
    obtain ⟨front, last, rfl⟩ : ∃ front last, names = front ++ [last] :=
      ⟨_, _, (List.dropLast_concat_getLast hnames).symm⟩
    simp only [hc, bind, Except.bind] at h
    rw [followAll_append] at h
    cases hdir : root.followAll start front with
    | error e => simp [hdir, Except.bind] at h
    | ok dir =>
      have hlost := followAll_lost hdir hstart
      obtain ⟨above, lost⟩ := dir
      obtain rfl : lost = 0 := hlost
      simp only [hdir, Except.bind] at h
      rw [followAll_singleton] at h
      obtain ⟨entries, hseen, hcase⟩ := follow_cases h
      rw [seenFrom_of_lost rfl] at hseen
      -- only the name of an entry leads to a file: the other ways end in a directory
      rcases hcase with ⟨-, hstay⟩ | ⟨-, hup⟩ | ⟨hname, hlength, -, hdown⟩
      · cases hstay
        rw [hfile] at hseen
        cases hseen
      · -- up: the parent of a directory is one too, and the root is its own parent
        have hplace : place = above.dropLast := congrArg Standpoint.place hup
        rcases List.eq_nil_or_concat above with rfl | ⟨higher, name, rfl⟩
        · rw [hplace, List.dropLast_nil, hseen] at hfile
          cases hfile
        · rw [List.concat_eq_append] at hseen hplace
          obtain ⟨outer, houter, -⟩ := directory_of_get?_append hseen
          rw [hplace, List.dropLast_concat, houter] at hfile
          cases hfile
      · cases hdown
        refine ⟨above, last, rfl, hname, hlength, ?_⟩
        simp only [newEntry, hc, bind, Except.bind, List.dropLast_concat, hdir]
        simp [seenFrom_of_lost, hseen, pure, Except.pure]

end Rollout.FileTree
