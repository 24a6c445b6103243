/-!
# Bytes as text

Output of a program need not be valid UTF-8. Where a byte cannot go on a character, the part of
the character that was read so far, or else the byte alone, is replaced by `U+FFFD`.

## Main definitions

* `Text.decode` — the text of some bytes
-/

namespace Rollout.Text

/-- The character that stands for bytes that are no text. -/
def replacement : Char := '\ufffd'

/-- The number of bytes that follow the first byte of a character, the range of the next byte,
and the bits of the character that the first byte holds. -/
def leadByte? (b : UInt8) : Option (Nat × UInt8 × UInt8 × Nat) :=
  if 0xC2 ≤ b ∧ b ≤ 0xDF then some (1, 0x80, 0xBF, b.toNat - 0xC0)
  else if b = 0xE0 then some (2, 0xA0, 0xBF, b.toNat - 0xE0)
  else if b = 0xED then some (2, 0x80, 0x9F, b.toNat - 0xE0)
  else if 0xE1 ≤ b ∧ b ≤ 0xEF then some (2, 0x80, 0xBF, b.toNat - 0xE0)
  else if b = 0xF0 then some (3, 0x90, 0xBF, b.toNat - 0xF0)
  else if b = 0xF4 then some (3, 0x80, 0x8F, b.toNat - 0xF0)
  else if 0xF1 ≤ b ∧ b ≤ 0xF3 then some (3, 0x80, 0xBF, b.toNat - 0xF0)
  else none

/-- A character that has begun: its bits so far, how many bytes it still needs, and the range of
the next of them. -/
structure Begun where
  bits : Nat
  needs : Nat
  low : UInt8
  high : UInt8

/-- Decodes bytes, the character that has begun being the state. -/
def decodeFrom : Option Begun → List UInt8 → List Char
  | none, [] => []
  | some _, [] => [replacement]
  | none, b :: rest => fresh b rest
  | some s, b :: rest =>
    if s.low ≤ b ∧ b ≤ s.high then
      let bits := s.bits * 64 + (b.toNat - 0x80)
      if s.needs = 1 then Char.ofNat bits :: decodeFrom none rest
      else decodeFrom (some ⟨bits, s.needs - 1, 0x80, 0xBF⟩) rest
    else replacement :: fresh b rest
where
  /-- Decodes bytes of which the first starts a character. -/
  fresh (b : UInt8) (rest : List UInt8) : List Char :=
    if b < 0x80 then Char.ofNat b.toNat :: decodeFrom none rest
    else
      match leadByte? b with
      | some (needs, low, high, bits) => decodeFrom (some ⟨bits, needs, low, high⟩) rest
      | none => replacement :: decodeFrom none rest

/-- The text of some bytes. -/
def decode (bytes : ByteArray) : String := String.ofList (decodeFrom none bytes.toList)

end Rollout.Text
