import Rollout.Document
import Rollout.Json.Mismatch

/-!
# Documents from JSON values

Each section of a document is an object, or an array of its fields in their order. Of an object
the fields are read in ascending order of their keys, which decides which of two problems is
reported; the fields that are missing come last. Keys that are no fields are ignored.

## Main definitions

* `Document.ofJson` — the document that a value stands for
-/

namespace Rollout.Document

open Json (Mismatch)

/-- A section written as an array: its items, none of them beyond the last field. -/
def positional {α : Type} (items : List Json) (read : Except Mismatch α) (fields : Nat) :
    Except Mismatch α := do
  let a ← read
  if fields < items.length then .error (.tooLong items.length) else .ok a

/-- The item of a field that has to be there, in a section written as an array. -/
def mandatoryItem {α : Type} (items : List Json) (index : Nat) (sectionName : String)
    (fields : Nat) (read : Json → Except Mismatch α) : Except Mismatch α :=
  match items[index]? with
  | some v => read v
  | none => .error (.tooShort index sectionName fields)

/-- The item of a field that may be left out, in a section written as an array. -/
def optionalItem {α : Type} (items : List Json) (index : Nat) (absent : α)
    (read : Json → Except Mismatch α) : Except Mismatch α :=
  match items[index]? with
  | some v => read v
  | none => .ok absent

/-- The section about the application. -/
def App.ofJson : Json → Except Mismatch App
  | .object members => do
    let fields := Dict.ofList members
    let name ← Json.readField? fields "name" Json.asString
    let path ← Json.readField? fields "path" Json.asString
    return ⟨← Json.require "name" name, ← Json.require "path" path⟩
  | .array items => positional items (do
      let name ← mandatoryItem items 0 App.sectionName 2 Json.asString
      let path ← mandatoryItem items 1 App.sectionName 2 Json.asString
      return ⟨name, path⟩) 2
  | v => .error (.wrongKind v.found (.section App.sectionName))

/-- The section of shared fields. -/
def Defaults.ofJson : Json → Except Mismatch Defaults
  | .object members => do
    let fields := Dict.ofList members
    let hosts ← Json.readField? fields "hosts" Json.asFields
    let services ← Json.readField? fields "services" Json.asFields
    return ⟨hosts.getD ∅, services.getD ∅⟩
  | .array items => positional items (do
      let hosts ← optionalItem items 0 ∅ Json.asFields
      let services ← optionalItem items 1 ∅ Json.asFields
      return ⟨hosts, services⟩) 2
  | v => .error (.wrongKind v.found (.section Defaults.sectionName))

/-- The document that a value stands for. -/
def ofJson : Json → Except Mismatch Document
  | .object members => do
    let fields := Dict.ofList members
    let app ← Json.readField? fields "app" App.ofJson
    let defaults ← Json.readField? fields "defaults" Defaults.ofJson
    let environment ← Json.readField? fields "environment" Json.asOptionalString
    let hooks ← Json.readField? fields "hooks" Json.asFields
    let hosts ← Json.readField? fields "hosts" Json.asFieldsList
    return {
      app := ← Json.require "app" app
      environment := environment.join
      defaults := defaults.getD .blank
      hosts := ← Json.require "hosts" hosts
      hooks := hooks.getD ∅ }
  | .array items => positional items (do
      let app ← mandatoryItem items 0 Document.sectionName 5 App.ofJson
      let environment ← optionalItem items 1 none Json.asOptionalString
      let defaults ← optionalItem items 2 .blank Defaults.ofJson
      let hosts ← mandatoryItem items 3 Document.sectionName 5 Json.asFieldsList
      let hooks ← optionalItem items 4 ∅ Json.asFields
      return { app, environment, defaults, hosts, hooks }) 5
  | v => .error (.wrongKind v.found (.section Document.sectionName))

end Rollout.Document
