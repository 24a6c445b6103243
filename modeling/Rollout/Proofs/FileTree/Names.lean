import Rollout.Proofs.FileTree.Widening
import Rollout.Proofs.Path

/-!
# Names in directories

A slash separates the components of a path, so no name has one in it, and no change to a tree brings
one in. A path from a directory to a name without a slash has the components of the directory and
the name.

## Main definitions

* `FileTree.AllNames` — all names in a tree have a property
* `FileTree.WellNamed` — no name in a tree has a slash in it

## Main results

* `FileTree.WellNamed.createDirectories`, `FileTree.WellNamed.write` — changes bring in no slash
* `FileTree.components_join`, `FileTree.components_join_eq_ok` — paths from directories to names
-/

namespace Rollout.FileTree

variable {root tree new : FileTree} {workingDir s : Standpoint} {path dir name : String}
  {place : Place} {content : ByteArray} {entries : List (String × FileTree)}

/-! ### Names in trees -/

/-- All names in a tree have a property. -/
def AllNames (P : String → Prop) (t : FileTree) : Prop :=
  ∀ place, (t.get? place).isSome → ∀ name ∈ place, P name

variable {P : String → Prop}

theorem allNames_file (content : ByteArray) : (FileTree.file content).AllNames P := by
  intro place hplace
  cases place <;> simp at hplace ⊢

theorem allNames_directory_iff :
    (directory entries).AllNames P ↔
      ∀ name t, lookup name entries = some t → P name ∧ t.AllNames P := by
  constructor
  · intro h name t ht
    have hbelow : ∀ place, (t.get? place).isSome → ∀ n ∈ name :: place, P n :=
      fun place hplace => h (name :: place) (by simpa [ht] using hplace)
    exact ⟨hbelow [] rfl name List.mem_cons_self,
      fun place hplace n hn => hbelow place hplace n (List.mem_cons_of_mem _ hn)⟩
  · intro h place hplace
    cases place with
    | nil => simp
    | cons name place =>
      rw [get?_directory_cons] at hplace
      cases ht : lookup name entries with
      | none => simp [ht] at hplace
      | some t =>
        obtain ⟨hname, hbelow⟩ := h name t ht
        simpa [hname] using hbelow place (by simpa [ht] using hplace)

theorem allNames_emptyDirectory : emptyDirectory.AllNames P :=
  allNames_directory_iff.mpr (by simp [lookup])

theorem AllNames.cons (hname : P name) (htree : tree.AllNames P)
    (h : (directory entries).AllNames P) : (directory ((name, tree) :: entries)).AllNames P := by
  rw [allNames_directory_iff] at h ⊢
  intro n t ht
  simp only [lookup] at ht
  split at ht
  · rename_i hn
    cases hn
    cases ht
    exact ⟨hname, htree⟩
  · exact h n t ht

theorem AllNames.put (h : root.AllNames P) (hnew : new.AllNames P)
    (hplace : ∀ name ∈ place, P name) : (put new root place).AllNames P := by
  induction place generalizing root with
  | nil => exact hnew
  | cons name place ih =>
    cases root with
    | file content => exact allNames_file content
    | directory entries =>
      rw [allNames_directory_iff] at h
      refine allNames_directory_iff.mpr fun n t ht => ?_
      rw [lookup_setEntry] at ht
      split at ht
      · rename_i hn
        cases hn
        cases ht
        refine ⟨hplace name List.mem_cons_self,
          ih ?_ fun m hm => hplace m (List.mem_cons_of_mem _ hm)⟩
        cases hentry : lookup name entries with
        | none => exact allNames_emptyDirectory
        | some t => exact (h name t hentry).2
      · exact h n t ht

/-- The place of a new entry has only names with the property if the new one has it. -/
theorem AllNames.of_newEntry {dir : Place} (h : root.AllNames P)
    (hnew : root.newEntry workingDir path = .ok (⟨dir, 0⟩, name)) (hname : P name) :
    ∀ n ∈ dir ++ [name], P n := by
  obtain ⟨entries, hdir, -⟩ := newEntry_cases hnew
  rw [seenFrom_of_lost rfl] at hdir
  intro n hn
  rcases List.mem_append.mp hn with hn | hn
  · exact h dir (by simp [hdir]) n hn
  · obtain rfl := List.mem_singleton.mp hn
    exact hname

theorem AllNames.createDirectory (h : root.AllNames P)
    (hmade : root.createDirectory workingDir path = .ok tree)
    (hname : ∀ {dir name}, root.newEntry workingDir path = .ok (dir, name) → P name) :
    tree.AllNames P := by
  obtain ⟨dir, name, hnew, -, rfl⟩ := createDirectory_cases hmade
  exact h.put allNames_emptyDirectory (h.of_newEntry hnew (hname hnew))

theorem AllNames.write (h : root.AllNames P)
    (hwrite : root.write workingDir path content = .ok tree)
    (hname : ∀ {dir name}, root.newEntry workingDir path = .ok (dir, name) → P name) :
    tree.AllNames P := by
  obtain ⟨dir, name, entries, hnew, -, -, rfl, -⟩ := write_cases hwrite
  exact h.put (allNames_file content) (h.of_newEntry hnew (hname hnew))

/-- The name of a new entry is a component of its path. -/
theorem mem_segments_of_newEntry {dir : Standpoint}
    (h : root.newEntry workingDir path = .ok (dir, name)) : name.toList ∈ Path.segments path := by
  obtain ⟨start, front, hcomponents, -⟩ := newEntry_eq_ok h
  exact (components_cases hcomponents).2.2 name (by simp)

theorem no_slash_of_newEntry {dir : Standpoint}
    (h : root.newEntry workingDir path = .ok (dir, name)) : '/' ∉ name.toList :=
  Path.no_slash_of_mem_segments _ (mem_segments_of_newEntry h)

/-! ### Trees without slashes in their names -/

/-- No name in a tree has a slash in it. -/
def WellNamed (t : FileTree) : Prop :=
  ∀ place, (t.get? place).isSome → ∀ name ∈ place, '/' ∉ name.toList

theorem wellNamed_file (content : ByteArray) : (FileTree.file content).WellNamed :=
  allNames_file content

theorem wellNamed_directory_iff :
    (directory entries).WellNamed ↔
      ∀ name t, lookup name entries = some t → '/' ∉ name.toList ∧ t.WellNamed :=
  allNames_directory_iff

theorem WellNamed.createDirectories (h : root.WellNamed) (workingDir : Standpoint)
    (path : String) : (root.createDirectories workingDir path).1.WellNamed :=
  createChain_induction h fun _ _ _ h hmade =>
    AllNames.createDirectory h hmade no_slash_of_newEntry

theorem WellNamed.write (h : root.WellNamed)
    (hwrite : root.write workingDir path content = .ok tree) : tree.WellNamed :=
  AllNames.write h hwrite no_slash_of_newEntry

/-! ### Names seen from directories -/

/-- Where one starts to follow a path, given its segments, and the components that one follows. An
empty segment in front stands for the root. -/
def route (workingDir : Standpoint) : List (List Char) → Standpoint × List String
  | [] :: rest => (⟨[], 0⟩, rest.map String.ofList)
  | segments => (workingDir, segments.map String.ofList)

theorem route_append {front : List (List Char)} (h : front ≠ []) (back : List (List Char)) :
    route workingDir (front ++ back) =
      ((route workingDir front).1, (route workingDir front).2 ++ back.map String.ofList) := by
  rcases front with _ | ⟨_ | ⟨c, cs⟩, rest⟩
  · exact absurd rfl h
  · simp [route]
  · simp [route]

/-- A path that is neither empty nor too long, and holds no null character, has components. -/
theorem components_eq_ok_iff {parts : Standpoint × List String} :
    components workingDir path = .ok parts ↔
      ('\x00' ∉ path.toList ∧ path.utf8ByteSize < pathLengthBound) ∧
        Path.segments path ≠ [[]] ∧ parts = route workingDir (Path.segments path) := by
  unfold components
  by_cases hnull : '\x00' ∈ path.toList
  · simp [hnull]
  · by_cases hlength : pathLengthBound ≤ path.utf8ByteSize
    · simp [hnull, hlength, Nat.not_lt.mpr hlength]
    · rw [if_neg hnull, if_neg hlength, ← Path.segments, @eq_comm _ parts]
      simp only [hnull, Nat.lt_of_not_le hlength, not_false_eq_true, and_self, true_and]
      have hne : Path.segments path ≠ [] := List.splitOn_ne_nil _ _
      generalize Path.segments path = segments at hne ⊢
      rcases segments with _ | ⟨_ | ⟨c, cs⟩, _ | ⟨segment, rest⟩⟩
      · exact absurd rfl hne
      all_goals simp [route]

theorem isAbsolute_of_no_slash (h : '/' ∉ name.toList) : Path.isAbsolute name = false := by
  rw [Path.isAbsolute, beq_eq_false_iff_ne]
  exact fun hhead => h (List.mem_of_head? hhead)

/-- From a directory, one follows a path to a name as one follows the path to the directory, and
then the name. An empty component may come last where there is no name. -/
theorem route_join (workingDir : Standpoint) (hdir : dir ≠ "")
    (hname : '/' ∉ name.toList) :
    ∃ start front, Path.segments (Path.join dir name) ≠ [[]] ∧
      route workingDir (Path.segments (Path.join dir name)) = (start, front ++ [name]) ∧
      (route workingDir (Path.segments dir) = (start, front) ∨
        route workingDir (Path.segments dir) = (start, front ++ [""])) := by
  have hsingle : Path.segments name = [name.toList] := List.splitOn_eq_singleton hname
  obtain ⟨front, hfront, hjoin⟩ := Path.segments_join hdir (isAbsolute_of_no_slash hname)
  have hne : front ≠ [] := by
    rintro rfl
    rcases hfront with hnil | hempty
    · exact List.splitOn_ne_nil _ _ hnil
    · exact Path.segments_ne_of_ne_empty hdir hempty
  have hroute : route workingDir (Path.segments (Path.join dir name)) =
      ((route workingDir front).1, (route workingDir front).2 ++ [name]) := by
    rw [hjoin, hsingle, route_append hne]
    simp
  refine ⟨_, _, ?_, hroute, ?_⟩
  · obtain ⟨first, rest, rfl⟩ := List.exists_cons_of_ne_nil hne
    simp [hjoin, hsingle]
  · rcases hfront with hfront | hfront
    · exact .inl (by rw [hfront])
    · exact .inr (by rw [hfront, route_append hne]; rfl)

/-- The components of a path from a directory to a name are those of the path to the directory, and
the name. -/
theorem components_join (hdir : dir ≠ "") (hname : '/' ∉ name.toList)
    {start : Standpoint} {names : List String}
    (h : components workingDir (Path.join dir name) = .ok (start, names)) :
    ∃ front, names = front ++ [name] ∧
      (components workingDir dir = .ok (start, front) ∨
        components workingDir dir = .ok (start, front ++ [""])) := by
  obtain ⟨⟨hnull, hlength⟩, -, hparts⟩ := components_eq_ok_iff.mp h
  obtain ⟨start', front, -, hjoin, hfront⟩ := route_join workingDir hdir hname
  obtain ⟨rfl, rfl⟩ := Prod.mk.inj (hparts.trans hjoin)
  obtain ⟨back, hback⟩ := Path.exists_join_eq_append dir (isAbsolute_of_no_slash hname)
  have hbounds : '\x00' ∉ dir.toList ∧ dir.utf8ByteSize < pathLengthBound := by
    rw [hback, String.toList_append, List.mem_append, not_or] at hnull
    rw [hback, String.utf8ByteSize_append] at hlength
    exact ⟨hnull.1, by omega⟩
  have hempty := Path.segments_ne_of_ne_empty hdir
  simp only [components_eq_ok_iff]
  exact ⟨front, rfl, hfront.imp (fun hfront => ⟨hbounds, hempty, hfront.symm⟩)
    fun hfront => ⟨hbounds, hempty, hfront.symm⟩⟩

/-- A path from a directory to a name has components if the path to the directory does, and if the
name holds no null character and makes the path not too long. -/
theorem components_join_eq_ok (hname : '/' ∉ name.toList) (hnull : '\x00' ∉ name.toList)
    (hlength : (Path.join dir name).utf8ByteSize < pathLengthBound)
    {start : Standpoint} {names : List String}
    (h : components workingDir dir = .ok (start, names)) :
    ∃ front, components workingDir (Path.join dir name) = .ok (start, front ++ [name]) ∧
      (names = front ∨ names = front ++ [""]) := by
  obtain ⟨⟨hnullDir, -⟩, hempty, hparts⟩ := components_eq_ok_iff.mp h
  have hdir : dir ≠ "" := by
    rintro rfl
    exact hempty rfl
  obtain ⟨start', front, hsegments, hjoin, hfront⟩ :=
    route_join workingDir hdir hname
  have hnullJoin : '\x00' ∉ (Path.join dir name).toList := by
    unfold Path.join
    split
    · exact hnull
    · split <;> simp [hnull, hnullDir]
  have hall : components workingDir (Path.join dir name) = .ok (start', front ++ [name]) :=
    components_eq_ok_iff.mpr ⟨⟨hnullJoin, hlength⟩, hsegments, hjoin.symm⟩
  rw [← hparts] at hfront
  rcases hfront with hfront | hfront
  · obtain ⟨rfl, rfl⟩ := Prod.mk.inj hfront
    exact ⟨names, hall, .inl rfl⟩
  · obtain ⟨rfl, rfl⟩ := Prod.mk.inj hfront
    exact ⟨front, hall, .inr rfl⟩

end Rollout.FileTree
