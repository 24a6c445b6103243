import Rollout.Dict
import Rollout.Decimal.Shortest

/-!
# JSON values

A JSON number is an integer where it is written as one and fits 64 bits, else a binary64 number.
An object is a list of members; the values that the reader builds list them in ascending order
of their keys, each key once, and `Json.ofDict` builds such an object from a dict.

## Main definitions

* `Json`, `Json.Number` — values and their numbers
* `Json.Number.text` — the text of a number
* `Json.SortedKeys` — every object lists its keys in strictly ascending order
-/

namespace Rollout

/-- A JSON number: an integer of at most 64 bits, or a binary64 number. -/
inductive Json.Number where
  | integer (value : Int)
  | float (value : Decimal.Binary64)
deriving DecidableEq, Repr, Inhabited

/-- A JSON value. -/
inductive Json where
  | null
  | bool (value : Bool)
  | number (value : Json.Number)
  | string (value : String)
  | array (items : List Json)
  | object (members : List (String × Json))
deriving BEq, Repr, Inhabited

/-- The members of an object that count: of members with one key the last. -/
abbrev Fields := Dict Json

namespace Json

/-- The least integer that is kept as one, that of 64 bits with a sign. -/
def minInteger : Int := -0x8000000000000000

/-- The greatest integer that is kept as one, that of 64 bits without a sign. -/
def maxInteger : Int := 0xFFFFFFFFFFFFFFFF

/-- An integer in decimal, or the shortest text of a binary64 number. -/
def Number.text : Number → String
  | .integer n => toString n
  | .float x => x.text

/-- The object with the entries of a dict as members. -/
def ofDict (d : Fields) : Json := .object d.entries

/-- An object from its members in any order; of members with one key the last counts. -/
def ofMembers (members : List (String × Json)) : Json := ofDict (.ofList members)

/-- The object of a dict of strings. -/
def ofStrings (d : Dict String) : Json := ofDict (d.map .string)

/-- A string, or `null` where there is none. -/
def ofOption : Option String → Json
  | none => .null
  | some s => .string s

/-- An integer. -/
def ofNat (n : Nat) : Json := .number (.integer n)

mutual

/-- In every object of the value the keys strictly ascend. -/
def SortedKeys : Json → Prop
  | .array items => SortedItems items
  | .object members => members.Pairwise (fun a b => a.1 < b.1) ∧ SortedMembers members
  | _ => True

/-- The same of the values in a list. -/
def SortedItems : List Json → Prop
  | [] => True
  | v :: vs => v.SortedKeys ∧ SortedItems vs

/-- The same of the values of a list of members. -/
def SortedMembers : List (String × Json) → Prop
  | [] => True
  | (_, v) :: ms => v.SortedKeys ∧ SortedMembers ms

end

end Json

end Rollout
