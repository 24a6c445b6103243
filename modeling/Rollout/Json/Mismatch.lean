import Rollout.Json.Basic
import Rollout.Text.Quoted

/-!
# Values of a wrong kind

A document asks for values of certain kinds. This module says how a value that does not fit is
reported, and reads the kinds that hold no further structure.

## Main definitions

* `Json.Mismatch`, `Json.Mismatch.message` — what does not fit, and the wording
* `Json.asString`, `Json.asOptionalString`, `Json.asPort`, `Json.asFields`, `Json.asFieldsList`
-/

namespace Rollout.Json

/-- The kind of a value that was found. -/
inductive Found where
  | null
  | bool (value : Bool)
  | number (value : Number)
  | string (value : String)
  | sequence
  | map
deriving DecidableEq, Repr

/-- The kind of value that was wanted; a section is a part of a document with fields of its
own. -/
inductive Wanted where
  | string
  | map
  | sequence
  | port
  | section (name : String)
deriving DecidableEq, Repr

/-- Why a value does not fit. -/
inductive Mismatch where
  /-- The value is of another kind. -/
  | wrongKind (found : Found) (wanted : Wanted)
  /-- The integer is no port. -/
  | portRange (value : Int)
  /-- A field is not there. -/
  | missingField (name : String)
  /-- A field is there twice. -/
  | duplicateField (name : String)
  /-- A section written as an array ends before a field that it needs. -/
  | tooShort (length : Nat) (sectionName : String) (fields : Nat)
  /-- A section written as an array goes on behind its last field. -/
  | tooLong (length : Nat)
deriving DecidableEq, Repr

/-- A found value in words. -/
def Found.message : Found → String
  | .null => "null"
  | .bool true => "boolean `true`"
  | .bool false => "boolean `false`"
  | .number (.integer n) => "integer `" ++ toString n ++ "`"
  | .number (.float x) => "floating point `" ++ x.text ++ "`"
  | .string s => "string " ++ Text.quoted s
  | .sequence => "sequence"
  | .map => "map"

/-- A wanted kind in words. -/
def Wanted.message : Wanted → String
  | .string => "a string"
  | .map => "a map"
  | .sequence => "a sequence"
  | .port => "u16"
  | .section name => "struct " ++ name

/-- A mismatch in words. -/
def Mismatch.message : Mismatch → String
  | .wrongKind found wanted =>
    "invalid type: " ++ found.message ++ ", expected " ++ wanted.message
  | .portRange n =>
    "invalid value: " ++ (Found.number (.integer n)).message ++ ", expected " ++
      Wanted.port.message
  | .missingField name => "missing field `" ++ name ++ "`"
  | .duplicateField name => "duplicate field `" ++ name ++ "`"
  | .tooShort length name fields =>
    "invalid length " ++ toString length ++ ", expected struct " ++ name ++ " with " ++
      toString fields ++ " elements"
  | .tooLong length =>
    "invalid length " ++ toString length ++ ", expected fewer elements in array"

/-- The kind of a value. -/
def found : Json → Found
  | .null => .null
  | .bool b => .bool b
  | .number n => .number n
  | .string s => .string s
  | .array _ => .sequence
  | .object _ => .map

/-- A string. -/
def asString : Json → Except Mismatch String
  | .string s => .ok s
  | v => .error (.wrongKind v.found .string)

/-- A string or `null`. -/
def asOptionalString : Json → Except Mismatch (Option String)
  | .null => .ok none
  | v => v.asString.map some

/-- The greatest port. -/
def maxPort : Nat := 65535

/-- A port: `null` or an integer from 0 to `maxPort`. -/
def asPort : Json → Except Mismatch (Option Nat)
  | .null => .ok none
  | .number (.integer n) =>
    if 0 ≤ n ∧ n ≤ maxPort then .ok (some n.toNat) else .error (.portRange n)
  | v => .error (.wrongKind v.found .port)

/-- An object, as its fields. -/
def asFields : Json → Except Mismatch Fields
  | .object members => .ok (.ofList members)
  | v => .error (.wrongKind v.found .map)

/-- An array of objects. -/
def asFieldsList : Json → Except Mismatch (List Fields)
  | .array items => items.mapM asFields
  | v => .error (.wrongKind v.found .sequence)

/-- What a field is read as, if it is there. -/
def readField? {α : Type} (fields : Fields) (name : String) (read : Json → Except Mismatch α) :
    Except Mismatch (Option α) :=
  match fields.get? name with
  | none => .ok none
  | some v => (read v).map some

/-- A field that has to be there. -/
def require {α : Type} (name : String) : Option α → Except Mismatch α
  | some a => .ok a
  | none => .error (.missingField name)

end Rollout.Json
