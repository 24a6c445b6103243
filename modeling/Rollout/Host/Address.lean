/-!
# Numeric addresses

Which host names are IP addresses: an IPv4 address has four numbers up to 255 in decimal, without
leading zeros. An IPv6 address has eight groups of up to four hexadecimal digits; `::` stands for
one or more zero groups, once, and an IPv4 address for the last two groups.

Each reader here takes the longest beginning of a text that has its form, and gives what is left.

## Main definitions

* `Address.isIPv4`, `Address.isIPv6` — whether a text is such an address
* `Address.isNumeric` — whether it is either
-/

namespace Rollout.Address

/-- What a reader leaves of a text, if the text starts as it should. -/
abbrev Reader := List Char → Option (List Char)

/-- Reads a given character. -/
def char (c : Char) : Reader
  | d :: rest => if d = c then some rest else none
  | [] => none

/-- Reads one decimal number up to 255, without leading zeros. -/
def octet : Reader := fun cs =>
  let digits := cs.takeWhile Char.isDigit
  let value := digits.foldl (fun n d => n * 10 + (d.toNat - '0'.toNat)) 0
  if digits.isEmpty || 3 < digits.length || 255 < value ||
      (digits.head? == some '0' && 1 < digits.length) then none
  else some (cs.drop digits.length)

/-- Reads an IPv4 address. -/
def ipv4 : Reader := fun cs => do
  let cs ← octet cs
  let cs ← octet (← char '.' cs)
  let cs ← octet (← char '.' cs)
  octet (← char '.' cs)

/-- Whether a character is a hexadecimal digit. -/
def isHexDigit (c : Char) : Bool :=
  c.isDigit || ('a' ≤ c && c ≤ 'f') || ('A' ≤ c && c ≤ 'F')

/-- Reads one group of up to four hexadecimal digits. -/
def group : Reader := fun cs =>
  let digits := cs.takeWhile isHexDigit
  if digits.isEmpty || 4 < digits.length then none else some (cs.drop digits.length)

/-- Groups that have been read: how many, whether an IPv4 address ended them, and what is left. -/
structure Groups where
  count : Nat
  embedded : Bool
  rest : List Char

/-- Reads up to `room` groups, with a colon before each but the very first. An IPv4 address takes
the room of two groups and ends them. -/
def groups (room : Nat) (count : Nat) (cs : List Char) : Groups :=
  match room with
  | 0 => ⟨count, false, cs⟩
  | room + 1 =>
    match if count = 0 then some cs else char ':' cs with
    | none => ⟨count, false, cs⟩
    | some inner =>
      match if 0 < room then ipv4 inner else none with
      | some rest => ⟨count + 2, true, rest⟩
      | none =>
        match group inner with
        | some rest => groups room (count + 1) rest
        | none => ⟨count, false, cs⟩

/-- Reads an IPv6 address. -/
def ipv6 : Reader := fun cs =>
  let head := groups 8 0 cs
  if head.count = 8 then some head.rest
  else if head.embedded then none
  else do
    let rest ← char ':' (← char ':' head.rest)
    return (groups (7 - head.count) 0 rest).rest

/-- Whether a text is an IPv4 address. -/
def isIPv4 (cs : List Char) : Bool := ipv4 cs == some []

/-- Whether a text is an IPv6 address. -/
def isIPv6 (cs : List Char) : Bool := ipv6 cs == some []

/-- Whether a host name is an address and no name. -/
def isNumeric (name : String) : Bool := isIPv4 name.toList || isIPv6 name.toList

end Rollout.Address
