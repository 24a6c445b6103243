import Rollout.Path

/-!
# Places

A place in a tree of files is a list of names, from the root down. Who follows a path, and who
works in a directory, stands at a place. A directory may be removed while someone stands in it:
nothing can be in it from then on, but `..` still leads up from it. What comes into being under
its name later is another directory.

## Main definitions

* `Place`, `Place.ofPath` — places, and those that paths name
* `Standpoint` — where one stands
* `Standpoint.path?`, `Standpoint.up`, `Standpoint.afterRemoval` — its path, the way up, and what
  becomes of it when something is removed
-/

namespace Rollout

/-- The names from the root down to a file or directory. -/
abbrev Place := List String

/-- The place that an absolute path without `.` and `..` names. -/
def Place.ofPath (path : String) : Place :=
  ((Path.segments path).filter fun s => !s.isEmpty).map String.ofList

/-- Where one stands: at `place`, or as many directories below it as `lost` says, all of which
have been removed. -/
structure Standpoint where
  place : Place
  lost : Nat := 0
deriving DecidableEq, Repr

namespace Standpoint

/-- The path of a standpoint. In a directory that has been removed there is none. -/
def path? (s : Standpoint) : Option String :=
  if s.lost = 0 then some ("/" ++ "/".intercalate s.place) else none

/-- The standpoint one directory up; at the root, the root. -/
def up : Standpoint → Standpoint
  | ⟨place, 0⟩ => ⟨place.dropLast, 0⟩
  | ⟨place, lost + 1⟩ => ⟨place, lost⟩

/-- What becomes of a standpoint when that which is at a place is removed. The root stays. -/
def afterRemoval (removed : Place) (s : Standpoint) : Standpoint :=
  if removed ≠ [] ∧ removed.isPrefixOf s.place then
    ⟨removed.dropLast, s.lost + (s.place.length - removed.length) + 1⟩
  else s

end Standpoint

end Rollout
