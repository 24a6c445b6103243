import Rollout.Json.Basic
import Rollout.Json.Fault

/-!
# JSON texts as trees with offsets

A text is first read into a tree that keeps where each part of it stands. Reading never fails:
where the text goes wrong the tree ends in a `broken` node or a `stuck` list, and what was read
before stays. A reader of documents can thus meet the problems of a text in the order of the
text, be they faults of the syntax or values of a wrong kind.

## Main definitions

* `Json.Written` — a string as written
* `Json.Node`, `Json.Items`, `Json.Members` — values, the rest of an array, the rest of an object
* `Json.Source` — a whole text
-/

namespace Rollout.Json

/-- A string as it stands in a text. `content` is what it says; `close` is the offset behind its
closing quote, which exists also for some strings that say nothing. -/
structure Written where
  content : Except Flaw String
  close : Except Flaw Nat
deriving Repr

mutual

/-- A value in a text, with the offset of its first character; the others have their `stop`, the
offset behind them, as well. -/
inductive Node where
  | null (start stop : Nat)
  | bool (start stop : Nat) (value : Bool)
  | number (start stop : Nat) (value : Except Flaw Number)
  | string (start : Nat) (written : Written)
  | array (start : Nat) (items : Items)
  | object (start : Nat) (members : Members)
  | broken (start : Nat) (flaw : Flaw)

/-- What follows inside an array. -/
inductive Items where
  | close (stop : Nat)
  | stuck (flaw : Flaw)
  | item (node : Node) (rest : Items)

/-- What follows inside an object. For a member, `resume` is where the reader stands after the
key, once it has looked for the end of the object there. -/
inductive Members where
  | close (stop : Nat)
  | stuck (flaw : Flaw)
  | member (key : Written) (resume : Nat) (node : Node) (rest : Members)

end

/-- A text as read: its value and, where more text follows that, the flaw this is. -/
structure Source where
  root : Node
  trailing : Option Flaw

/-- The offset of the first character. -/
def Node.start : Node → Nat
  | .null start _ | .bool start _ _ | .number start _ _ | .string start _ | .array start _
  | .object start _ | .broken start _ => start

/-- How many containers may stand inside each other. -/
def maxDepth : Nat := 127

/-- The flaw of a container that starts too deep. -/
def tooDeep (start : Nat) : Flaw := ⟨.recursionLimit, start + 1⟩

/-! ### The value of a tree -/

mutual

/-- The value that a node stands for, with room for `depth` levels of containers; for a text
with flaws the first of them. -/
def Node.value? (depth : Nat) : Node → Except Flaw Json
  | .null _ _ => .ok .null
  | .bool _ _ b => .ok (.bool b)
  | .number _ _ n => n.map .number
  | .string _ w => w.content.map .string
  | .array start items =>
    match depth with
    | 0 => .error (tooDeep start)
    | depth + 1 => (items.values? depth).map .array
  | .object start members =>
    match depth with
    | 0 => .error (tooDeep start)
    | depth + 1 => (members.values? depth).map .ofMembers
  | .broken _ flaw => .error flaw

/-- The values of the items of an array. -/
def Items.values? (depth : Nat) : Items → Except Flaw (List Json)
  | .close _ => .ok []
  | .stuck flaw => .error flaw
  | .item node rest => do
    let v ← node.value? depth
    let vs ← rest.values? depth
    return v :: vs

/-- The members of an object, in the order of the text. -/
def Members.values? (depth : Nat) : Members → Except Flaw (List (String × Json))
  | .close _ => .ok []
  | .stuck flaw => .error flaw
  | .member key _ node rest => do
    let k ← key.content
    let v ← node.value? depth
    let ms ← rest.values? depth
    return (k, v) :: ms

end

/-! ### Skipping

A skipped value has to be well-formed, but its numbers may be out of range, its strings may hold
lone surrogates, and there is no limit to its depth. -/

mutual

/-- The first flaw of a value that is only skipped, if it has one. -/
def Node.skipFlaw? : Node → Option Flaw
  | .null _ _ | .bool _ _ _ | .number _ _ _ => none
  | .string _ w => match w.close with
    | .ok _ => none
    | .error flaw => some flaw.whenSkipped
  | .array _ items => items.skipFlaw?
  | .object _ members => members.skipFlaw?
  | .broken _ flaw => some flaw.whenSkipped

/-- The first flaw in the rest of a skipped array. -/
def Items.skipFlaw? : Items → Option Flaw
  | .close _ => none
  | .stuck flaw => some flaw.whenSkipped
  | .item node rest => node.skipFlaw?.or rest.skipFlaw?

/-- The first flaw in the rest of a skipped object. -/
def Members.skipFlaw? : Members → Option Flaw
  | .close _ => none
  | .stuck flaw => some flaw.whenSkipped
  | .member key _ node rest =>
    match key.close with
    | .error flaw => some flaw.whenSkipped
    | .ok _ => node.skipFlaw?.or rest.skipFlaw?

end

/-- The value of a text, or its first flaw. -/
def Source.value? (s : Source) : Except Flaw Json := do
  let v ← s.root.value? maxDepth
  match s.trailing with
  | some flaw => .error flaw
  | none => .ok v

end Rollout.Json
