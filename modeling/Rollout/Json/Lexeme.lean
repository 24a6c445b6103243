import Rollout.Json.Tree

/-!
# Numbers and strings of JSON texts

The rules by which the characters of a number and of a string are read, with the offset of every
fault.

## Main definitions

* `Json.Cursor` — the rest of a text and its offset
* `Json.readNumber` — a number at the cursor
* `Json.readString` — the string after an opening quote
-/

namespace Rollout.Json

/-- What is left to read, and the byte offset where it starts. -/
structure Cursor where
  rest : List Char
  offset : Nat

/-- The cursor behind the first `n` characters, all of them ASCII. -/
def Cursor.skip (c : Cursor) (n : Nat) : Cursor := ⟨c.rest.drop n, c.offset + n⟩

/-- Whether a character is a blank of JSON. -/
def isSpace (c : Char) : Bool := c == ' ' || c == '\n' || c == '\t' || c == '\r'

/-- The cursor behind the blanks. -/
def Cursor.skipSpace (c : Cursor) : Cursor := c.skip (c.rest.takeWhile isSpace).length

/-! ### Numbers -/

/-- The value of a decimal digit. -/
def digitValue (c : Char) : Nat := c.toNat - '0'.toNat

/-- The digits at the cursor. -/
def Cursor.digits (c : Cursor) : List Char := c.rest.takeWhile Char.isDigit

/-- Takes digits into a significand for as long as it fits 64 bits. Gives the significand and the
digits that were left out. -/
def absorbDigits (significand : Nat) : List Char → Nat × List Char
  | [] => (significand, [])
  | d :: ds =>
    let next := significand * 10 + digitValue d
    if maxInteger < (next : Int) then (significand, d :: ds) else absorbDigits next ds

/-- The greatest exponent that is read digit by digit. -/
def maxExponent : Nat := 0x7FFFFFFF

/-- Reads an exponent up to the first digit that takes it above `maxExponent`: the exponent, or
else the offset behind that digit. -/
def readExponent (exponent offset : Nat) : List Char → Except Nat Nat
  | [] => .ok exponent
  | d :: ds =>
    let next := exponent * 10 + digitValue d
    if maxExponent < next then .error (offset + 1) else readExponent next (offset + 1) ds

/-- The parts of a written number. The digits of the exponent come with its sign and offset. -/
structure NumberParts where
  negative : Bool
  whole : List Char
  fraction : Option (List Char)
  exponent : Option (Bool × Nat × List Char)
  stop : Nat

/-- The binary64 number of a decimal, as a flaw where it is out of range. -/
def floatOfDecimal (negative : Bool) (significand : Nat) (exponent : Int) (stop : Nat) :
    Except Flaw Number :=
  match Decimal.Magnitude.ofDecimal? significand exponent with
  | some m => .ok (.float ⟨negative, m⟩)
  | none => .error ⟨.numberOutOfRange, stop⟩

/-- The number that is written by some parts. Without fraction and exponent it is an integer,
unless it has more than 64 bits or is a negative zero. A significand is cut off where it no longer
fits 64 bits. -/
def NumberParts.value (p : NumberParts) : Except Flaw Number :=
  let (whole, left) := absorbDigits 0 p.whole
  if left.isEmpty && p.fraction.isNone && p.exponent.isNone then
    if !p.negative then .ok (.integer whole)
    else if whole = 0 ∨ -(whole : Int) < minInteger then floatOfDecimal true whole 0 p.stop
    else .ok (.integer (-whole))
  else
    let fraction := p.fraction.getD []
    let (significand, rest) := absorbDigits whole fraction
    let scale : Int := (left.length : Int) - (fraction.length - rest.length : Nat)
    match p.exponent with
    | none => floatOfDecimal p.negative significand scale p.stop
    | some (down, offset, digits) =>
      match readExponent 0 offset digits with
      | .ok e =>
        floatOfDecimal p.negative significand (if down then scale - e else scale + e) p.stop
      | .error offset =>
        if significand ≠ 0 ∧ !down then .error ⟨.numberOutOfRange, offset⟩
        else .ok (.float ⟨p.negative, .zero⟩)

/-- The flaw of a number that has no digit at the cursor where it needs one. -/
def missingDigit (c : Cursor) : Flaw :=
  if c.rest.isEmpty then ⟨.endOfNumber, c.offset⟩ else ⟨.invalidNumber, c.offset + 1⟩

/-- The digits of the whole part: either a single zero or digits that start with no zero. -/
def readWhole (c : Cursor) : Except Flaw (List Char × Cursor) :=
  match c.digits with
  | [] => .error (missingDigit c)
  | d :: ds =>
    if d = '0' ∧ !ds.isEmpty then .error ⟨.invalidNumber, c.offset + 2⟩
    else .ok (d :: ds, c.skip (ds.length + 1))

/-- The digits after a point, if a point is at the cursor. -/
def readFraction (c : Cursor) : Except Flaw (Option (List Char) × Cursor) :=
  match c.rest with
  | '.' :: _ =>
    let c := c.skip 1
    if c.digits.isEmpty then .error (missingDigit c)
    else .ok (some c.digits, c.skip c.digits.length)
  | _ => .ok (none, c)

/-- The sign and the digits of an exponent, if one is at the cursor. -/
def readScale (c : Cursor) : Except Flaw (Option (Bool × Nat × List Char) × Cursor) :=
  match c.rest with
  | [] => .ok (none, c)
  | e :: _ =>
    if e = 'e' ∨ e = 'E' then
      let c := c.skip 1
      let down := c.rest.head? == some '-'
      let c := if down || c.rest.head? == some '+' then c.skip 1 else c
      if c.digits.isEmpty then .error (missingDigit c)
      else .ok (some (down, c.offset, c.digits), c.skip c.digits.length)
    else .ok (none, c)

/-- The parts of the number at the cursor, and the cursor behind it. -/
def readNumber (c : Cursor) : Except Flaw (NumberParts × Cursor) := do
  let negative := c.rest.head? == some '-'
  let (whole, c) ← readWhole (if negative then c.skip 1 else c)
  let (fraction, c) ← readFraction c
  let (exponent, c) ← readScale c
  return (⟨negative, whole, fraction, exponent, c.offset⟩, c)

/-! ### Strings -/

/-- A piece of a string: a character as it is, an escaped one, or a UTF-16 unit in hexadecimal
digits with the offset behind it. -/
inductive Piece where
  | plain (c : Char)
  | escaped (c : Char)
  | unit (code stop : Nat)

/-- How a string ends: with the offset behind its quote, or in a flaw. -/
abbrev Ending := Except Flaw Cursor

/-- The character of an escape with one letter. -/
def simpleEscape : Char → Option Char
  | '"' => some '"'
  | '\\' => some '\\'
  | '/' => some '/'
  | 'b' => some '\x08'
  | 'f' => some '\x0c'
  | 'n' => some '\n'
  | 'r' => some '\r'
  | 't' => some '\t'
  | _ => none

/-- The value of a hexadecimal digit. -/
def hexValue (c : Char) : Option Nat :=
  if c.isDigit then some (c.toNat - '0'.toNat)
  else if 'a' ≤ c ∧ c ≤ 'f' then some (c.toNat - 'a'.toNat + 10)
  else if 'A' ≤ c ∧ c ≤ 'F' then some (c.toNat - 'A'.toNat + 10)
  else none

/-- The number that four hexadecimal digits write. -/
def hexUnit (a b c d : Char) : Option Nat := do
  return (((← hexValue a) * 16 + (← hexValue b)) * 16 + (← hexValue c)) * 16 + (← hexValue d)

/-- How many bytes a text takes. -/
def byteLength : List Char → Nat
  | [] => 0
  | c :: cs => c.utf8Size + byteLength cs

/-- The flaw of a `\u` at whose digits the cursor stands: too little text, or no digits. -/
def badHex (c : Cursor) : Flaw :=
  if 4 ≤ byteLength c.rest then ⟨.badHexEscape, c.offset + 4⟩
  else ⟨.endOfString, c.offset + byteLength c.rest⟩

/-- The pieces of a string, from behind its opening quote, and how it ends. -/
def pieces : List Char → Nat → List Piece × Ending
  | [], i => ([], .error ⟨.endOfString, i⟩)
  | '"' :: rest, i => ([], .ok ⟨rest, i + 1⟩)
  | ['\\'], i => ([], .error ⟨.endOfString, i + 1⟩)
  | '\\' :: 'u' :: a :: b :: c :: d :: rest, i =>
    match hexUnit a b c d with
    | none => ([], .error (badHex ⟨a :: b :: c :: d :: rest, i + 2⟩))
    | some code =>
      let (ps, ending) := pieces rest (i + 6)
      (.unit code (i + 6) :: ps, ending)
  | '\\' :: e :: rest, i =>
    if e = 'u' then ([], .error (badHex ⟨rest, i + 2⟩))
    else
      match simpleEscape e with
      | none => ([], .error ⟨.unknownEscape, i + 2⟩)
      | some c =>
        let (ps, ending) := pieces rest (i + 2)
        (.escaped c :: ps, ending)
  | c :: rest, i =>
    if c.toNat < 0x20 then ([], .error ⟨.controlCharacter, i⟩)
    else
      let (ps, ending) := pieces rest (i + c.utf8Size)
      (.plain c :: ps, ending)

/-- Whether a UTF-16 unit is a leading surrogate. -/
def isLeading (code : Nat) : Bool := 0xD800 ≤ code && code ≤ 0xDBFF

/-- Whether a UTF-16 unit is a trailing surrogate. -/
def isTrailing (code : Nat) : Bool := 0xDC00 ≤ code && code ≤ 0xDFFF

/-- The character of a surrogate pair. -/
def pairChar (leading trailing : Nat) : Char :=
  .ofNat ((leading - 0xD800) * 0x400 + (trailing - 0xDC00) + 0x10000)

/-- The flaw of a leading surrogate at the end of the pieces, `stop` being the offset behind it:
what stands there is no escape of a trailing surrogate. -/
def afterLeading (stop : Nat) : Ending → Flaw
  | .ok _ => ⟨.endOfHexEscape, stop + 1⟩
  | .error ⟨.controlCharacter, _⟩ => ⟨.endOfHexEscape, stop + 1⟩
  | .error ⟨.unknownEscape, _⟩ => ⟨.endOfHexEscape, stop + 2⟩
  | .error flaw => flaw

/-- The flaw of an ending, at the offset where a string that is read for its content meets it:
behind a control character, not before it. -/
def contentFlaw : Flaw → Flaw
  | ⟨.controlCharacter, i⟩ => ⟨.controlCharacter, i + 1⟩
  | flaw => flaw

/-- The characters that pieces stand for. Surrogates have to come in pairs. -/
def contentChars (ending : Ending) : List Piece → Except Flaw (List Char)
  | [] => match ending with
    | .ok _ => .ok []
    | .error flaw => .error (contentFlaw flaw)
  | .plain c :: ps => (contentChars ending ps).map (c :: ·)
  | .escaped c :: ps => (contentChars ending ps).map (c :: ·)
  | .unit code stop :: ps =>
    if isTrailing code then .error ⟨.loneSurrogate, stop⟩
    else if isLeading code then
      match ps with
      | [] => .error (afterLeading stop ending)
      | .plain _ :: _ => .error ⟨.endOfHexEscape, stop + 1⟩
      | .escaped _ :: _ => .error ⟨.endOfHexEscape, stop + 2⟩
      | .unit next stop :: ps =>
        if isTrailing next then (contentChars ending ps).map (pairChar code next :: ·)
        else .error ⟨.loneSurrogate, stop⟩
    else (contentChars ending ps).map (Char.ofNat code :: ·)

/-- The string at a cursor behind its opening quote, and the cursor behind it where it has an
end. -/
def readString (c : Cursor) : Written × Option Cursor :=
  let (ps, ending) := pieces c.rest c.offset
  let written : Written :=
    ⟨(contentChars ending ps).map String.ofList, ending.map Cursor.offset⟩
  (written, match ending with | .ok c => some c | .error _ => none)

end Rollout.Json
