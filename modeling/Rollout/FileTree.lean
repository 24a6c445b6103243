import Rollout.FileTree.Error
import Rollout.FileTree.Place

/-!
# File trees

A tree of directories and files, held as a value. A path is followed from the root or from a
working directory, component by component: each has to exist, and each but the last has to be a
directory, also where `..` leads back out of it. Names and paths may not be too long.

## Main definitions

* `FileTree`, `FileTree.get?`, `FileTree.put` — trees, and what stands at a place
* `FileTree.locate` — where a path leads to
* `FileTree.contains`, `FileTree.isDirectory`, `FileTree.isFile`, `FileTree.readText`,
  `FileTree.list` — what a tree tells about a path
* `FileTree.write`, `FileTree.createDirectories` — trees with a new file or new directories
-/

namespace Rollout

/-- A file with its content, or a directory with what it holds. Of two entries with one name the
first counts. -/
inductive FileTree where
  | file (content : ByteArray)
  | directory (entries : List (String × FileTree))

namespace FileTree

instance : Inhabited FileTree := ⟨.directory []⟩

/-- A directory that holds nothing. -/
def emptyDirectory : FileTree := .directory []

/-- The entry of a name. -/
def lookup (name : String) : List (String × FileTree) → Option FileTree
  | [] => none
  | (n, t) :: rest => if n = name then some t else lookup name rest

/-- The entries with a new tree for a name. -/
def setEntry (name : String) (tree : FileTree) :
    List (String × FileTree) → List (String × FileTree)
  | [] => [(name, tree)]
  | (n, t) :: rest => if n = name then (n, tree) :: rest else (n, t) :: setEntry name tree rest

@[simp] theorem lookup_setEntry (name n : String) (tree : FileTree)
    (entries : List (String × FileTree)) :
    lookup n (setEntry name tree entries) = if name = n then some tree else lookup n entries := by
  induction entries with
  | nil => simp [setEntry, lookup]
  | cons e rest ih =>
    obtain ⟨m, t⟩ := e
    simp only [setEntry]
    split
    · rename_i h
      simp only [lookup, h]
      split <;> rfl
    · rename_i h
      simp only [lookup, ih]
      split
      · rename_i hm
        simp [← hm, Ne.symm h]
      · rfl

/-- What a tree holds under a name. -/
def child? (tree : FileTree) (name : String) : Option FileTree :=
  match tree with
  | .file _ => none
  | .directory entries => lookup name entries

/-- What stands at a place. -/
def get? (tree : FileTree) : Place → Option FileTree
  | [] => some tree
  | name :: place => (tree.child? name).bind (·.get? place)

/-- The tree with `new` at a place. A directory on the way that does not exist comes into being,
and a file on the way stays as it is. -/
def put (new : FileTree) : FileTree → Place → FileTree
  | _, [] => new
  | .file content, _ :: _ => .file content
  | .directory entries, name :: place =>
    .directory (setEntry name (put new ((lookup name entries).getD emptyDirectory) place) entries)

/-- The tree without what stands at a place. -/
def remove : FileTree → Place → FileTree
  | tree, [] => tree
  | .file content, _ => .file content
  | .directory entries, [name] => .directory (entries.filter fun e => e.1 != name)
  | .directory entries, name :: place =>
    match lookup name entries with
    | none => .directory entries
    | some t => .directory (setEntry name (remove t place) entries)

/-! ### Following paths -/

/-- How many bytes a name may have. -/
def maxNameLength : Nat := 255

/-- How many bytes a path has to stay below. -/
def pathLengthBound : Nat := 4096

/-- What is at a standpoint. A directory that has been removed holds nothing. -/
def seenFrom (root : FileTree) (s : Standpoint) : Option FileTree :=
  if s.lost = 0 then root.get? s.place else some emptyDirectory

/-- Follows one component of a path. -/
def follow (root : FileTree) (s : Standpoint) (segment : String) : Except FileError Standpoint :=
  match root.seenFrom s with
  | none => .error .notFound
  | some (.file _) => .error .notDirectory
  | some (.directory entries) =>
    if segment = "" ∨ segment = "." then .ok s
    else if segment = ".." then .ok s.up
    else if maxNameLength < segment.utf8ByteSize then .error .nameTooLong
    else if (lookup segment entries).isSome then .ok { s with place := s.place ++ [segment] }
    else .error .notFound

/-- Follows some components one after the other. -/
def followAll (root : FileTree) (s : Standpoint) : List String → Except FileError Standpoint
  | [] => .ok s
  | segment :: rest => do root.followAll (← root.follow s segment) rest

/-- The components of a path, and where it starts. -/
def components (workingDir : Standpoint) (path : String) :
    Except FileError (Standpoint × List String) :=
  if '\x00' ∈ path.toList then .error .nullCharacter
  else if pathLengthBound ≤ path.utf8ByteSize then .error .nameTooLong
  else
    match (path.toList.splitOn '/').map String.ofList with
    | [] | [""] => .error .notFound
    | "" :: rest => .ok (⟨[], 0⟩, rest)
    | names => .ok (workingDir, names)

/-- Where a path leads to. -/
def locate (root : FileTree) (workingDir : Standpoint) (path : String) :
    Except FileError Standpoint := do
  let (start, names) ← components workingDir path
  root.followAll start names

/-- What a path leads to. -/
def at? (root : FileTree) (workingDir : Standpoint) (path : String) : Option FileTree :=
  match root.locate workingDir path with
  | .ok s => root.seenFrom s
  | .error _ => none

/-- Whether a path leads to anything. -/
def contains (root : FileTree) (workingDir : Standpoint) (path : String) : Bool :=
  (root.at? workingDir path).isSome

/-- Whether a path leads to a directory. -/
def isDirectory (root : FileTree) (workingDir : Standpoint) (path : String) : Bool :=
  match root.at? workingDir path with
  | some (.directory _) => true
  | _ => false

/-- Whether a path leads to a file. -/
def isFile (root : FileTree) (workingDir : Standpoint) (path : String) : Bool :=
  match root.at? workingDir path with
  | some (.file _) => true
  | _ => false

/-- The text of the file that a path leads to. -/
def readText (root : FileTree) (workingDir : Standpoint) (path : String) :
    Except FileError String := do
  match root.seenFrom (← root.locate workingDir path) with
  | none => .error .notFound
  | some (.directory _) => .error .isDirectory
  | some (.file content) =>
    match String.fromUTF8? content with
    | some text => .ok text
    | none => .error .notText

/-- The names in the directory that a path leads to, each once. -/
def list (root : FileTree) (workingDir : Standpoint) (path : String) : Option (List String) :=
  match root.at? workingDir path with
  | some (.directory entries) => some (entries.map Prod.fst).eraseDups
  | _ => none

/-! ### Changes -/

/-- The last component of a path, which need not exist, and its directory. -/
def newEntry (root : FileTree) (workingDir : Standpoint) (path : String) :
    Except FileError (Standpoint × String) := do
  let (start, names) ← components workingDir path
  let dir ← root.followAll start names.dropLast
  match root.seenFrom dir with
  | some (.directory _) => return (dir, names.getLast?.getD "")
  | some (.file _) => .error .notDirectory
  | none => .error .notFound

/-- The place where a directory can have an entry of a name. -/
def entryPlace (dir : Standpoint) (name : String) : Except FileError Place :=
  if 0 < dir.lost then .error .notFound
  else if maxNameLength < name.utf8ByteSize then .error .nameTooLong
  else .ok (dir.place ++ [name])

/-- The tree with a new content of the file at a path. The directory of the file has to exist;
what the file held before is lost. A write that can start is assumed to succeed as a whole: no disk
is full, and no file is left with a part of its content. -/
def write (root : FileTree) (workingDir : Standpoint) (path : String) (content : ByteArray) :
    Except FileError FileTree := do
  let (dir, name) ← root.newEntry workingDir path
  if name = "" ∨ name = "." ∨ name = ".." then .error .isDirectory
  else
    let place ← entryPlace dir name
    match root.get? place with
    | some (.directory _) => .error .isDirectory
    | _ => .ok (put (.file content) root place)

/-- The tree with a new directory at a path. -/
def createDirectory (root : FileTree) (workingDir : Standpoint) (path : String) :
    Except FileError FileTree := do
  let (dir, name) ← root.newEntry workingDir path
  if name = "" ∨ name = "." ∨ name = ".." then .error .exists
  else
    let place ← entryPlace dir name
    if (root.get? place).isSome then .error .exists
    else .ok (put emptyDirectory root place)

/-- The tree in which the first of some paths is a directory, each of the others being the parent
of the one before it. A directory whose parent is missing is created after its parent. On failure
the tree as far as it was changed comes with the error. -/
def createChain (root : FileTree) (workingDir : Standpoint) :
    List String → FileTree × Option FileError
  | [] => (root, some .notFound)
  | path :: parents =>
    if path = "" then (root, none)
    else
      match root.createDirectory workingDir path with
      | .ok tree => (tree, none)
      | .error .notFound =>
        match root.createChain workingDir parents with
        | (tree, some e) => (tree, some e)
        | (tree, none) =>
          match tree.createDirectory workingDir path with
          | .ok tree => (tree, none)
          | .error e => (tree, if tree.isDirectory workingDir path then none else some e)
      | .error e => (root, if root.isDirectory workingDir path then none else some e)

/-- The tree in which a path is a directory, with the directories on the way to it; on failure
the tree as far as it was changed, and the error. -/
def createDirectories (root : FileTree) (workingDir : Standpoint) (path : String) :
    FileTree × Option FileError :=
  root.createChain workingDir (path :: Path.ancestors path)

end FileTree

end Rollout
