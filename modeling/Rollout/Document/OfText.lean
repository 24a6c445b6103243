import Rollout.Document.OfJson
import Rollout.Json.Reader

/-!
# Documents from texts

A text is read as a document part by part, so that the first problem in the order of the text is
reported with its position, whether the text is no JSON there or a value does not fit. Keys that
are no fields of a section are skipped over; a field given twice is a problem.

## Main definitions

* `Document.Problem`, `Document.Problem.words` — why a text is no document
* `Document.ofSource`, `Document.ofText` — the document that a text stands for
-/

namespace Rollout.Document

open Json (Mismatch Flaw Fault Found Wanted Node Items Members Source)

/-- Why a text is no document: it is no JSON, or a value does not fit, which is noticed at an
offset. -/
inductive Problem where
  | flaw (flaw : Flaw)
  | mismatch (mismatch : Mismatch) (offset : Nat)
deriving DecidableEq, Repr

/-- A problem in words. -/
def Problem.words : Problem → String
  | .flaw f => f.fault.message
  | .mismatch m _ => m.message

/-- The offset at which a problem is noticed. -/
def Problem.offset : Problem → Nat
  | .flaw f => f.offset
  | .mismatch _ offset => offset

/-- What a reading step gives. -/
abbrev Reads := Except Problem

/-- A reading step that can only meet flaws. -/
def ofFlaws {α : Type} (step : Except Flaw α) : Reads α := step.mapError .flaw

/-! ### Values without further structure -/

/-- The problem of a value of another kind than the wanted one: its own flaw, if it is one
without structure and has one. A container is noticed where it starts. -/
def wrongKind {α : Type} (wanted : Wanted) : Node → Reads α
  | .null _ stop => .error (.mismatch (.wrongKind .null wanted) stop)
  | .bool _ stop b => .error (.mismatch (.wrongKind (.bool b) wanted) stop)
  | .number _ stop n => do
    let n ← ofFlaws n
    .error (.mismatch (.wrongKind (.number n) wanted) stop)
  | .string _ w => do
    let s ← ofFlaws w.content
    let stop ← ofFlaws w.close
    .error (.mismatch (.wrongKind (.string s) wanted) stop)
  | .array start _ => .error (.mismatch (.wrongKind .sequence wanted) start)
  | .object start _ => .error (.mismatch (.wrongKind .map wanted) start)
  | .broken _ flaw => .error (.flaw flaw)

/-- A string. -/
def readString : Node → Reads String
  | .string _ w => ofFlaws w.content
  | node => wrongKind .string node

/-- A string or `null`. -/
def readOptionalString : Node → Reads (Option String)
  | .null _ _ => .ok none
  | node => (readString node).map some

/-- An object, as its fields; `depth` levels of containers are left for it. -/
def readFields (depth : Nat) : Node → Reads Fields
  | .object start members =>
    match depth with
    | 0 => .error (.flaw (Json.tooDeep start))
    | depth + 1 => ofFlaws ((members.values? depth).map Dict.ofList)
  | node => wrongKind .map node

/-- The rest of an array of objects. -/
def readFieldsItems (depth : Nat) : Items → Reads (List Fields)
  | .close _ => .ok []
  | .stuck flaw => .error (.flaw flaw)
  | .item node rest => do
    let fields ← readFields depth node
    let more ← readFieldsItems depth rest
    return fields :: more

/-- An array of objects. -/
def readFieldsList (depth : Nat) : Node → Reads (List Fields)
  | .array start items =>
    match depth with
    | 0 => .error (.flaw (Json.tooDeep start))
    | depth + 1 => readFieldsItems depth items
  | node => wrongKind .sequence node

/-! ### Sections -/

/-- Reads the members of a section into the values of its fields so far. `field` reads the value
of a key into them, or tells that the key is no field. Gives the values and the offset behind the
section. -/
def readSection {σ : Type} (field : String → Node → σ → Option (Reads σ)) (seen : List String)
    (values : σ) : Members → Reads (σ × Nat)
  | .close stop => .ok (values, stop)
  | .stuck flaw => .error (.flaw flaw)
  | .member key resume node rest => do
    let key ← ofFlaws key.content
    match field key node values with
    | none =>
      match node.skipFlaw? with
      | some flaw => .error (.flaw flaw)
      | none => readSection field seen values rest
    | some step =>
      if key ∈ seen then .error (.mismatch (.duplicateField key) resume)
      else readSection field (key :: seen) (← step) rest

/-- A field that has to be in a section, noticed missing at its end. -/
def requireAt {α : Type} (stop : Nat) (name : String) : Option α → Reads α
  | some a => .ok a
  | none => .error (.mismatch (.missingField name) stop)

/-- The item of a field that has to be there, in a section written as an array, and what follows
it. -/
def mandatory {α : Type} (index : Nat) (sectionName : String) (fields : Nat)
    (read : Node → Reads α) : Items → Reads (α × Items)
  | .close stop => .error (.mismatch (.tooShort index sectionName fields) stop)
  | .stuck flaw => .error (.flaw flaw)
  | .item node rest => do return (← read node, rest)

/-- The item of a field that may be left out, in a section written as an array, and what follows
it. -/
def optional {α : Type} (absent : α) (read : Node → Reads α) : Items → Reads (α × Items)
  | .close stop => .ok (absent, .close stop)
  | .stuck flaw => .error (.flaw flaw)
  | .item node rest => do return (← read node, rest)

/-- The end of a section written as an array. Whatever else stands there is too much. -/
def endOfSection : Items → Reads Unit
  | .close _ => .ok ()
  | .item node _ => .error (.flaw ⟨.trailingCharacters, node.start + 1⟩)
  | .stuck ⟨.expectedListCommaOrEnd, offset⟩ => .error (.flaw ⟨.trailingCharacters, offset⟩)
  | .stuck ⟨.endAfterListComma, offset⟩ => .error (.flaw ⟨.trailingCharacters, offset⟩)
  | .stuck flaw => .error (.flaw flaw)

/-- The section about the application. -/
def App.read : Node → Reads App
  | .object _ members => do
    let field (key : String) (node : Node) (values : Option String × Option String) :
        Option (Reads (Option String × Option String)) :=
      if key = "name" then some do return (some (← readString node), values.2)
      else if key = "path" then some do return (values.1, some (← readString node))
      else none
    let ((name, path), stop) ← readSection field [] (none, none) members
    return ⟨← requireAt stop "name" name, ← requireAt stop "path" path⟩
  | .array _ items => do
    let (name, items) ← mandatory 0 App.sectionName 2 readString items
    let (path, items) ← mandatory 1 App.sectionName 2 readString items
    endOfSection items
    return ⟨name, path⟩
  | node => wrongKind (.section App.sectionName) node

/-- The section of shared fields; `depth` levels of containers are left inside it. -/
def Defaults.read (depth : Nat) : Node → Reads Defaults
  | .object _ members => do
    let field (key : String) (node : Node) (values : Defaults) : Option (Reads Defaults) :=
      if key = "hosts" then some do return { values with hosts := ← readFields depth node }
      else if key = "services" then some do
        return { values with services := ← readFields depth node }
      else none
    let (values, _) ← readSection field [] .blank members
    return values
  | .array _ items => do
    let (hosts, items) ← optional ∅ (readFields depth) items
    let (services, items) ← optional ∅ (readFields depth) items
    endOfSection items
    return ⟨hosts, services⟩
  | node => wrongKind (.section Defaults.sectionName) node

/-- The fields of a document that have been read so far. -/
structure Draft where
  app : Option App
  environment : Option String
  defaults : Defaults
  hosts : Option (List Fields)
  hooks : Fields

/-- No field has been read. -/
def Draft.blank : Draft := ⟨none, none, .blank, none, ∅⟩

/-- Reads the value of a key into a draft, or tells that the key is no field; `depth` levels of
containers are left inside the document. -/
def Draft.field (depth : Nat) (key : String) (node : Node) (draft : Draft) :
    Option (Reads Draft) :=
  if key = "app" then some do return { draft with app := some (← App.read node) }
  else if key = "environment" then some do
    return { draft with environment := ← readOptionalString node }
  else if key = "defaults" then some do
    return { draft with defaults := ← Defaults.read (depth - 1) node }
  else if key = "hosts" then some do
    return { draft with hosts := some (← readFieldsList depth node) }
  else if key = "hooks" then some do return { draft with hooks := ← readFields depth node }
  else none

/-- The document that a node stands for; `depth` levels of containers are left inside it. -/
def read (depth : Nat) : Node → Reads Document
  | .object _ members => do
    let (draft, stop) ← readSection (Draft.field depth) [] .blank members
    return {
      app := ← requireAt stop "app" draft.app
      environment := draft.environment
      defaults := draft.defaults
      hosts := ← requireAt stop "hosts" draft.hosts
      hooks := draft.hooks }
  | .array _ items => do
    let (app, items) ← mandatory 0 Document.sectionName 5 App.read items
    let (environment, items) ← optional none readOptionalString items
    let (defaults, items) ← optional .blank (Defaults.read (depth - 1)) items
    let (hosts, items) ← mandatory 3 Document.sectionName 5 (readFieldsList depth) items
    let (hooks, items) ← optional ∅ (readFields depth) items
    endOfSection items
    return { app, environment, defaults, hosts, hooks }
  | node => wrongKind (.section Document.sectionName) node

/-- The document of a text that has been read as JSON. -/
def ofSource (source : Source) : Reads Document := do
  let doc ← read (Json.maxDepth - 1) source.root
  match source.trailing with
  | some flaw => .error (.flaw flaw)
  | none => .ok doc

/-- The document that a text stands for. -/
def ofText (text : String) : Reads Document := ofSource (.ofText text)

end Rollout.Document
