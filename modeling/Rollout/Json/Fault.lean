/-!
# Faults of JSON texts

Why a text is no JSON, and where. A fault is found at a byte offset; a message gives it as a line
and a column, lines counted from 1 and columns in bytes, so that the column is 0 right after a
line break.

A few faults are reported in other words where a value is only skipped over, because a skipped
value is checked for its outer form alone.

## Main definitions

* `Json.Fault`, `Json.Fault.message` — the faults and their wording
* `Json.Fault.whenSkipped` — the fault that stands for another in a skipped value
* `Json.Flaw` — a fault and its offset
* `Json.Position.ofOffset` — line and column of an offset
-/

namespace Rollout.Json

/-- Why a text is no JSON. -/
inductive Fault where
  /-- The text ends where a value should start, or inside one of the words. -/
  | endOfValue
  /-- The text ends inside a number. -/
  | endOfNumber
  /-- The text ends inside a string. -/
  | endOfString
  /-- The text ends inside an array, other than after a comma. -/
  | endOfList
  /-- The text ends after a comma in an array. -/
  | endAfterListComma
  /-- The text ends inside an object, other than after a comma. -/
  | endOfObject
  /-- The text ends after a comma in an object. -/
  | endAfterObjectComma
  /-- No value starts like this. -/
  | expectedValue
  /-- A word that is none of `true`, `false` and `null`. -/
  | expectedWord
  /-- A key without a colon. -/
  | expectedColon
  /-- An item is followed by neither a comma nor the end of the array. -/
  | expectedListCommaOrEnd
  /-- A member is followed by neither a comma nor the end of the object. -/
  | expectedObjectCommaOrEnd
  /-- A member that starts with something other than a string. -/
  | keyNotString
  /-- A comma with the end of the array after it. -/
  | commaBeforeListEnd
  /-- A comma with the end of the object after it. -/
  | commaBeforeObjectEnd
  /-- More text after the value. -/
  | trailingCharacters
  /-- A number that is not written by the rules. -/
  | invalidNumber
  /-- A number too large for binary64. -/
  | numberOutOfRange
  /-- A backslash with a letter after it that makes no escape. -/
  | unknownEscape
  /-- A `\u` without four hexadecimal digits. -/
  | badHexEscape
  /-- A control character inside a string. -/
  | controlCharacter
  /-- A surrogate escape that has no partner where it needs one. -/
  | loneSurrogate
  /-- A leading surrogate with no escape at all after it. -/
  | endOfHexEscape
  /-- More than 127 containers inside each other. -/
  | recursionLimit
deriving DecidableEq, Repr

/-- A fault in words. -/
def Fault.message : Fault → String
  | .endOfValue | .endOfNumber | .endAfterListComma | .endAfterObjectComma =>
    "EOF while parsing a value"
  | .endOfString => "EOF while parsing a string"
  | .endOfList => "EOF while parsing a list"
  | .endOfObject => "EOF while parsing an object"
  | .expectedValue => "expected value"
  | .expectedWord => "expected ident"
  | .expectedColon => "expected `:`"
  | .expectedListCommaOrEnd => "expected `,` or `]`"
  | .expectedObjectCommaOrEnd => "expected `,` or `\x7d`"
  | .keyNotString => "key must be a string"
  | .commaBeforeListEnd | .commaBeforeObjectEnd => "trailing comma"
  | .trailingCharacters => "trailing characters"
  | .invalidNumber => "invalid number"
  | .numberOutOfRange => "number out of range"
  | .unknownEscape | .badHexEscape => "invalid escape"
  | .controlCharacter => "control character (\\u0000-\\u001F) found while parsing a string"
  | .loneSurrogate => "lone leading surrogate in hex escape"
  | .endOfHexEscape => "unexpected end of hex escape"
  | .recursionLimit => "recursion limit exceeded"

/-- The fault that is reported instead where the value is only skipped. -/
def Fault.whenSkipped : Fault → Fault
  | .endOfNumber => .invalidNumber
  | .commaBeforeListEnd => .expectedValue
  | .commaBeforeObjectEnd => .keyNotString
  | .endAfterObjectComma => .endOfObject
  | f => f

/-- A fault and the byte offset where it was found. -/
structure Flaw where
  fault : Fault
  offset : Nat
deriving DecidableEq, Repr

/-- The same flaw in a value that is only skipped. -/
def Flaw.whenSkipped (flaw : Flaw) : Flaw := ⟨flaw.fault.whenSkipped, flaw.offset⟩

/-- A line and a column of a text. -/
structure Position where
  line : Nat
  column : Nat
deriving DecidableEq, Repr

/-- The position of a byte offset, reached from a position so many bytes before it. -/
def Position.advance (p : Position) : List Char → Nat → Position
  | [], bytes => { p with column := p.column + bytes }
  | c :: cs, bytes =>
    if bytes < c.utf8Size then { p with column := p.column + bytes }
    else if c = '\n' then Position.advance ⟨p.line + 1, 0⟩ cs (bytes - c.utf8Size)
    else Position.advance { p with column := p.column + c.utf8Size } cs (bytes - c.utf8Size)

/-- The position of a byte offset in a text. -/
def Position.ofOffset (text : String) (offset : Nat) : Position :=
  Position.advance ⟨1, 0⟩ text.toList offset

/-- A position in words. -/
def Position.message (p : Position) : String :=
  "line " ++ toString p.line ++ " column " ++ toString p.column

/-- A flaw of a text in words. -/
def Flaw.message (text : String) (flaw : Flaw) : String :=
  flaw.fault.message ++ " at " ++ (Position.ofOffset text flaw.offset).message

end Rollout.Json
