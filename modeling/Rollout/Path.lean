/-!
# Paths

Paths are strings with `/` between their components. Resolving one against a directory is
lexical: the components are read onto a stack, where `.` and empty ones do nothing and `..` takes
the topmost away, if there is one. No file system is asked.

## Main definitions

* `Path.join` — a path seen from a directory
* `Path.walk` — what the stack holds after reading some components
* `Path.resolve` — a path against a directory, without `.`, `..` and empty components
* `Path.parent?`, `Path.fileName?` — the directory part and the last component
* `Path.expandHome` — a path whose leading `~` stands for the home directory
-/

namespace Rollout.Path

/-- Whether a path starts at the root. -/
def isAbsolute (p : String) : Bool := p.toList.head? == some '/'

/-- A path seen from a directory: an absolute one stands for itself. -/
def join (dir p : String) : String :=
  if isAbsolute p then p
  else if dir.toList.getLast?.all (· == '/') then dir ++ p
  else dir ++ "/" ++ p

/-- The components of a path, with the empty ones that slashes at its start, at its end and in
rows leave. -/
def segments (p : String) : List (List Char) := p.toList.splitOn '/'

/-- Reading a component onto a stack. -/
def step (stack : List (List Char)) (segment : List Char) : List (List Char) :=
  if segment = [] ∨ segment = ['.'] then stack
  else if segment = ['.', '.'] then stack.tail
  else segment :: stack

/-- What the stack holds after reading components, its top first. -/
def walk (stack : List (List Char)) (segments : List (List Char)) : List (List Char) :=
  segments.foldl step stack

/-- The path with given components. -/
def render (absolute : Bool) (names : List (List Char)) : String :=
  let body := ['/'].intercalate names
  String.ofList (if absolute then '/' :: body else body)

/-- A path without `.`, `..` and empty components. -/
def normalize (p : String) : String :=
  render (isAbsolute p) (walk [] (segments p)).reverse

/-- A path against a directory. -/
def resolve (dir p : String) : String := normalize (join dir p)

/-- Components without the empty ones and the `.` at their end. -/
def trimSegments (segments : List (List Char)) : List (List Char) :=
  (segments.reverse.dropWhile fun s => s = [] ∨ s = ['.']).reverse

/-- The directory part of a path, as far as it has components: the path without the last of
them. -/
def parent? (p : String) : Option String :=
  let absolute := isAbsolute p
  let names := trimSegments (if absolute then (segments p).tail else segments p)
  if names.isEmpty then none
  else some (render absolute (trimSegments names.dropLast))

/-- The directory parts of a path, from the nearest on, as far as there are `depth` of them. -/
def ancestorsUpTo (depth : Nat) (p : String) : List String :=
  match depth, parent? p with
  | depth + 1, some dir => dir :: ancestorsUpTo depth dir
  | _, _ => []

/-- The directory parts of a path, from the nearest on. -/
def ancestors (p : String) : List String := ancestorsUpTo (segments p).length p

/-- The last component of a path that is no `..`. -/
def fileName? (p : String) : Option String :=
  match (trimSegments (segments p)).getLast? with
  | some name => if name = ['.', '.'] then none else some (String.ofList name)
  | none => none

/-- A path whose leading `~`, alone or before a slash, stands for the home directory. -/
def expandHome (home p : String) : String :=
  match p.toList with
  | '~' :: rest => if rest = [] ∨ rest.head? = some '/' then home ++ String.ofList rest else p
  | _ => p

end Rollout.Path
