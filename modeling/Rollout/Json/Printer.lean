import Rollout.Json.Basic

/-!
# Writing JSON

A value is written on one line without blanks, or on several lines with an indentation of two
spaces for each level. Only quotes, backslashes and control characters of a string are escaped.

## Main definitions

* `Json.compact` — the text of a value on one line
* `Json.pretty` — the text of a value, one item or member a line
-/

namespace Rollout.Json

/-- The digit of a number below sixteen. -/
def hexDigit (n : Nat) : Char := Nat.digitChar (n % 16)

/-- A character as it is written inside a string. -/
def escapeChar (c : Char) : List Char :=
  if c = '"' then ['\\', '"']
  else if c = '\\' then ['\\', '\\']
  else if c = '\x08' then ['\\', 'b']
  else if c = '\x0c' then ['\\', 'f']
  else if c = '\n' then ['\\', 'n']
  else if c = '\r' then ['\\', 'r']
  else if c = '\t' then ['\\', 't']
  else if c.toNat < 0x20 then ['\\', 'u', '0', '0', hexDigit (c.toNat / 16), hexDigit c.toNat]
  else [c]

/-- A string in quotes. -/
def quote (s : String) : List Char :=
  '"' :: s.toList.flatMap escapeChar ++ ['"']

/-- The text of a number, `true`, `false` or `null`; nothing for a container. -/
def scalarText : Json → List Char
  | .null => "null".toList
  | .bool true => "true".toList
  | .bool false => "false".toList
  | .number n => n.text.toList
  | .string s => quote s
  | _ => []

mutual

/-- A value on one line. -/
def compactChars : Json → List Char
  | .array items => '[' :: compactItems items ++ [']']
  | .object members => '\x7b' :: compactMembers members ++ ['\x7d']
  | v => v.scalarText

/-- Items on one line, with commas between them. -/
def compactItems : List Json → List Char
  | [] => []
  | [v] => v.compactChars
  | v :: vs => v.compactChars ++ ',' :: compactItems vs

/-- Members on one line, with commas between them. -/
def compactMembers : List (String × Json) → List Char
  | [] => []
  | [(k, v)] => quote k ++ ':' :: v.compactChars
  | (k, v) :: ms => quote k ++ ':' :: v.compactChars ++ ',' :: compactMembers ms

end

/-- The text of a value on one line. -/
def compact (v : Json) : String := String.ofList v.compactChars

/-- A new line, indented for a level of nesting. -/
def newline (level : Nat) : List Char := '\n' :: List.replicate (2 * level) ' '

mutual

/-- A value whose first line stands at a level of nesting. An empty container stays on its
line. -/
def prettyChars (level : Nat) : Json → List Char
  | .array [] => ['[', ']']
  | .array (v :: vs) =>
    '[' :: newline (level + 1) ++ v.prettyChars (level + 1) ++ prettyItems (level + 1) vs ++
      newline level ++ [']']
  | .object [] => ['\x7b', '\x7d']
  | .object ((k, v) :: ms) =>
    '\x7b' :: newline (level + 1) ++ quote k ++ ':' :: ' ' :: v.prettyChars (level + 1) ++
      prettyMembers (level + 1) ms ++ newline level ++ ['\x7d']
  | v => v.scalarText

/-- The items after the first, each on a line of its own. -/
def prettyItems (level : Nat) : List Json → List Char
  | [] => []
  | v :: vs => ',' :: newline level ++ v.prettyChars level ++ prettyItems level vs

/-- The members after the first, each on a line of its own. -/
def prettyMembers (level : Nat) : List (String × Json) → List Char
  | [] => []
  | (k, v) :: ms =>
    ',' :: newline level ++ quote k ++ ':' :: ' ' :: v.prettyChars level ++
      prettyMembers level ms

end

/-- The text of a value, one item or member a line. -/
def pretty (v : Json) : String := String.ofList (v.prettyChars 0)

end Rollout.Json
