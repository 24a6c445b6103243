import Rollout.Json.Lexeme

/-!
# Reading JSON texts

A text is read into its tree in one pass from left to right, by a recursive descent whose fuel is
more than twice the length of the text: between two calls that take a character there is at most
one that takes none.

## Main definitions

* `Json.Source.ofText` — the tree of a text
* `Json.parse` — the value of a text, or its first flaw
-/

namespace Rollout.Json

/-- What reading a part gives: the part, and the cursor behind it unless the text went wrong
there. -/
abbrev Reading (α : Type) := α × Option Cursor

/-- A node that is broken where the cursor stands. -/
def brokenAt (start : Nat) (fault : Fault) (offset : Nat) : Reading Node :=
  (.broken start ⟨fault, offset⟩, none)

/-- Reads the rest of one of the words `null`, `true` and `false`, and then gives the node. -/
def readWord (start : Nat) (node : Nat → Node) : List Char → Cursor → Reading Node
  | [], c => (node c.offset, some c)
  | w :: ws, c =>
    match c.rest with
    | [] => brokenAt start .endOfValue c.offset
    | d :: _ => if d = w then readWord start node ws (c.skip 1)
      else brokenAt start .expectedWord (c.offset + 1)

/-- The number at the cursor. -/
def numberNode (c : Cursor) : Reading Node :=
  match readNumber c with
  | .ok (parts, behind) => (.number c.offset parts.stop parts.value, some behind)
  | .error flaw => (.broken c.offset flaw, none)

/-- The flaw at a cursor: `missing` where the text ends, and `unexpected` otherwise. -/
def Cursor.flaw (c : Cursor) (missing unexpected : Fault) : Flaw :=
  if c.rest.isEmpty then ⟨missing, c.offset⟩ else ⟨unexpected, c.offset + 1⟩

mutual

/-- The value at the cursor, after blanks. -/
def readNode (fuel : Nat) (c : Cursor) : Reading Node :=
  match fuel with
  | 0 => brokenAt c.offset .endOfValue c.offset
  | fuel + 1 =>
    let c := c.skipSpace
    match c.rest with
    | [] => brokenAt c.offset .endOfValue c.offset
    | 'n' :: _ => readWord c.offset (.null c.offset) ['u', 'l', 'l'] (c.skip 1)
    | 't' :: _ => readWord c.offset (.bool c.offset · true) ['r', 'u', 'e'] (c.skip 1)
    | 'f' :: _ => readWord c.offset (.bool c.offset · false) ['a', 'l', 's', 'e'] (c.skip 1)
    | '"' :: _ =>
      let (written, behind) := readString (c.skip 1)
      (.string c.offset written, behind)
    | '[' :: _ =>
      let (items, behind) := readItems fuel (c.skip 1)
      (.array c.offset items, behind)
    | '\x7b' :: _ =>
      let (members, behind) := readMembers fuel (c.skip 1)
      (.object c.offset members, behind)
    | d :: _ =>
      if d = '-' ∨ d.isDigit then numberNode c
      else brokenAt c.offset .expectedValue (c.offset + 1)

/-- The items of an array, from behind its opening bracket. -/
def readItems (fuel : Nat) (c : Cursor) : Reading Items :=
  match fuel with
  | 0 => (.stuck ⟨.endOfList, c.offset⟩, none)
  | fuel + 1 =>
    let c := c.skipSpace
    match c.rest with
    | [] => (.stuck ⟨.endOfList, c.offset⟩, none)
    | ']' :: _ => (.close (c.offset + 1), some (c.skip 1))
    | _ =>
      match readNode fuel c with
      | (node, none) => (.item node (.stuck ⟨.endOfList, c.offset⟩), none)
      | (node, some c) =>
        let (rest, behind) := readMoreItems fuel c
        (.item node rest, behind)

/-- The items of an array, from behind one of them. -/
def readMoreItems (fuel : Nat) (c : Cursor) : Reading Items :=
  match fuel with
  | 0 => (.stuck ⟨.endOfList, c.offset⟩, none)
  | fuel + 1 =>
    let c := c.skipSpace
    match c.rest with
    | ']' :: _ => (.close (c.offset + 1), some (c.skip 1))
    | ',' :: _ =>
      let c := (c.skip 1).skipSpace
      match c.rest with
      | [] => (.stuck ⟨.endAfterListComma, c.offset⟩, none)
      | ']' :: _ => (.stuck ⟨.commaBeforeListEnd, c.offset + 1⟩, none)
      | _ =>
        match readNode fuel c with
        | (node, none) => (.item node (.stuck ⟨.endOfList, c.offset⟩), none)
        | (node, some c) =>
          let (rest, behind) := readMoreItems fuel c
          (.item node rest, behind)
    | _ => (.stuck (c.flaw .endOfList .expectedListCommaOrEnd), none)

/-- The members of an object, from behind its opening brace. -/
def readMembers (fuel : Nat) (c : Cursor) : Reading Members :=
  match fuel with
  | 0 => (.stuck ⟨.endOfObject, c.offset⟩, none)
  | fuel + 1 =>
    let c := c.skipSpace
    match c.rest with
    | '\x7d' :: _ => (.close (c.offset + 1), some (c.skip 1))
    | '"' :: _ => readMember fuel (c.skip 1)
    | _ => (.stuck (c.flaw .endOfObject .keyNotString), none)

/-- The members of an object, from behind one of them. -/
def readMoreMembers (fuel : Nat) (c : Cursor) : Reading Members :=
  match fuel with
  | 0 => (.stuck ⟨.endOfObject, c.offset⟩, none)
  | fuel + 1 =>
    let c := c.skipSpace
    match c.rest with
    | '\x7d' :: _ => (.close (c.offset + 1), some (c.skip 1))
    | ',' :: _ =>
      let c := (c.skip 1).skipSpace
      match c.rest with
      | '"' :: _ => readMember fuel (c.skip 1)
      | '\x7d' :: _ => (.stuck ⟨.commaBeforeObjectEnd, c.offset + 1⟩, none)
      | _ => (.stuck (c.flaw .endAfterObjectComma .keyNotString), none)
    | _ => (.stuck (c.flaw .endOfObject .expectedObjectCommaOrEnd), none)

/-- A member and those after it, from behind the quote that opens its key. A key with no colon
makes the value a broken one. -/
def readMember (fuel : Nat) (c : Cursor) : Reading Members :=
  match fuel with
  | 0 => (.stuck ⟨.endOfObject, c.offset⟩, none)
  | fuel + 1 =>
    match readString c with
    | (key, none) =>
      (.member key c.offset (.broken c.offset ⟨.endOfObject, c.offset⟩)
        (.stuck ⟨.endOfObject, c.offset⟩), none)
    | (key, some c) =>
      let c := c.skipSpace
      match c.rest with
      | ':' :: _ =>
        match readNode fuel (c.skip 1) with
        | (node, none) =>
          (.member key c.offset node (.stuck ⟨.endOfObject, c.offset⟩), none)
        | (node, some behind) =>
          let (rest, behind) := readMoreMembers fuel behind
          (.member key c.offset node rest, behind)
      | _ =>
        -- Looking for the end of the object takes a brace that stands here.
        let resume := if c.rest.head? == some '\x7d' then c.offset + 1 else c.offset
        let flaw := c.flaw .endOfObject .expectedColon
        (.member key resume (.broken c.offset flaw) (.stuck flaw), none)

end

/-- The tree of a text. -/
def Source.ofText (text : String) : Source :=
  let chars := text.toList
  match readNode (2 * chars.length + 2) ⟨chars, 0⟩ with
  | (root, none) => ⟨root, none⟩
  | (root, some c) =>
    let c := c.skipSpace
    ⟨root, if c.rest.isEmpty then none else some ⟨.trailingCharacters, c.offset + 1⟩⟩

/-- The value of a text, or its first flaw. -/
def parse (text : String) : Except Flaw Json := (Source.ofText text).value?

end Rollout.Json
