import Rollout.Proofs.Document.Entries

/-!
# Shared fields are shorthand

What all hosts or all services share could as well be written into each of their entries. A
document with the shared fields written out, and none left, means what it meant before; and if
it means nothing, the problem is the same.

## Main definitions

* `Document.completedService`, `Document.completedHost` — an entry with the shared fields written
  out in it
* `Document.writtenOut` — a document with its shared fields written out

## Main results

* `Document.compileService_completedService`, `Document.compileHost_completedHost` — a completed
  entry means without shared fields what it meant with them
* `Document.compile_writtenOut` — the same for documents
-/

namespace Rollout.Document

open Json (Mismatch)

/-! ### Writing shared fields out -/

/-- Whether a value is there and is an object. -/
def isObject : Option Json → Bool
  | some (.object _) => true
  | _ => false

/-- The entry of a service with the fields that it lacks. If it then has variables, or if there are
shared ones, its variables are completed as well, one by one; a variable that it takes away stays
taken away. -/
def completedService (shared entry : Fields) : Fields :=
  let fields := withDefaults entry shared
  let own := fields.get? "env"
  let inherited := shared.get? "env"
  if isObject own || isObject inherited then
    fields.insert "env" (.ofDict (withDefaults (membersOf own) (membersOf inherited)))
  else fields

/-- The entry of a service where there is one; another value stays as it is. -/
def completedItem (shared : Fields) : Json → Json
  | .object members => .ofDict (completedService shared (.ofList members))
  | v => v

/-- The services of a host where they are listed; another value stays as it is. -/
def completedServices (shared : Fields) : Json → Json
  | .array items => .array (items.map (completedItem shared))
  | v => v

/-- The entry of a host with the fields that it lacks. Its services, be they its own or shared ones,
are completed as well. -/
def completedHost (defaults : Defaults) (entry : Fields) : Fields :=
  let fields := withDefaults entry defaults.hosts
  match fields.get? "services" with
  | some services => fields.insert "services" (completedServices defaults.services services)
  | none => fields

/-- A document with its shared fields written out, and none left. -/
def writtenOut (doc : Document) : Document :=
  { doc with defaults := .blank, hosts := doc.hosts.map (completedHost doc.defaults) }

/-! ### Services -/

theorem membersOf_of_not_isObject {v : Option Json} (h : isObject v = false) :
    membersOf v = ∅ := by
  unfold isObject at h
  unfold membersOf
  split
  · simp at h
  · rfl

/-- Apart from its variables, a completed service has the fields that it is completed with. -/
theorem erase_completedService (shared entry : Fields) :
    (completedService shared entry).erase "env" = (withDefaults entry shared).erase "env" := by
  apply Dict.ext_get?
  intro key
  simp only [completedService]
  split
  · rw [Dict.get?_erase, Dict.get?_erase, Dict.get?_insert]
    split <;> rfl
  · rfl

/-- The variables of a completed service are its own and the shared ones. -/
theorem membersOf_completedService (shared entry : Fields) :
    membersOf ((completedService shared entry).get? "env") =
      withDefaults (membersOf ((withDefaults entry shared).get? "env"))
        (membersOf (shared.get? "env")) := by
  simp only [completedService]
  split
  case isTrue h =>
    rw [Dict.get?_insert, if_pos rfl]
    exact Dict.ofList_entries _
  case isFalse h =>
    -- without an object on either side there are no variables
    simp only [Bool.or_eq_true, not_or, Bool.not_eq_true] at h
    rw [membersOf_of_not_isObject h.1, membersOf_of_not_isObject h.2]
    rfl

-- a variable that a service takes away does not come back from the shared ones
example :
    (completedService (.ofList [("env", .object [("LEVEL", .string "info"), ("TZ", .string "UTC")])])
        (.ofList [("env", .object [("LEVEL", .null)])])).get? "env" =
      some (.object [("LEVEL", .null), ("TZ", .string "UTC")]) := by
  rfl

/-- A completed service means without shared fields what it meant with them. -/
theorem compileService_completedService (base : String) (shared entry : Fields) :
    compileService base ∅ (completedService shared entry) = compileService base shared entry := by
  have sameEnv (service : String) :
      mergedVariables service ((completedService shared entry).get? "env") none =
        mergedVariables service ((withDefaults entry shared).get? "env") (shared.get? "env") := by
    unfold mergedVariables
    rw [membersOf_completedService]
    rfl
  have nothingShared : withDefaults (completedService shared entry) ∅ =
      completedService shared entry := Dict.orElse_empty _
  simp only [compileService, nothingShared, erase_completedService, Dict.get?_empty, sameEnv]

/-! ### Hosts -/

/-- Services are rewritten item by item when they are completed. -/
theorem completedServices_eq (shared : Fields) (v : Json) :
    completedServices shared v = v.mapItems (completedService shared) := by
  have items : completedItem shared = Json.mapFields (completedService shared) := by
    funext v
    cases v <;> rfl
  cases v <;> simp [completedServices, Json.mapItems, items]

theorem get?_completedHost (defaults : Defaults) (entry : Fields) (key : String) :
    (completedHost defaults entry).get? key =
      if key = "services" then
        ((withDefaults entry defaults.hosts).get? key).map
          (Json.mapItems (completedService defaults.services))
      else (withDefaults entry defaults.hosts).get? key := by
  refine Dict.get?_rewritten (fun v hv => ?_) (fun hnone => ?_) key
  · simp only [completedHost, hv, completedServices_eq]
  · simp only [completedHost, hnone]

/-- A completed host means without shared fields what it meant with them. -/
theorem compileHost_completedHost (common : Common) (entry : Fields) :
    compileHost { common with defaults := .blank } (completedHost common.defaults entry) =
      compileHost common entry := by
  have nothingShared : withDefaults (completedHost common.defaults entry) Defaults.blank.hosts =
      completedHost common.defaults entry := Dict.orElse_empty _
  simp only [compileHost, nothingShared,
    HostEntry.ofFields_of_get? (get?_completedHost common.defaults entry)]
  -- the parts are the same but for the services, and these mean the same
  cases HostEntry.ofFields (withDefaults entry common.defaults.hosts) with
  | error e => rfl
  | ok parts =>
    have services : (parts.services.map (completedService common.defaults.services)).mapM
        (compileService common.base Defaults.blank.services) =
          parts.services.mapM (compileService common.base common.defaults.services) := by
      rw [List.mapM_map]
      exact congrArg (parts.services.mapM ·) (funext (compileService_completedService _ _))
    simp only [Functor.map, Except.map, Except.mapError, bind, Except.bind, services]

/-! ### Documents -/

/-- A document with its shared fields written out, and none left, means what it meant before: the
same configuration, or nothing because of the same problem. -/
theorem compile_writtenOut (doc : Document) (dir : String) (around : Surroundings) :
    doc.writtenOut.defaults = .blank ∧
      doc.writtenOut.compile dir around = doc.compile dir around := by
  refine ⟨rfl, ?_⟩
  have completed (base environment : String) (app : Rollout.App) (hooks : Hooks) :
      compileHost ⟨base, around.home, .blank, environment, app, hooks⟩ ∘
          completedHost doc.defaults =
        compileHost ⟨base, around.home, doc.defaults, environment, app, hooks⟩ :=
    funext (compileHost_completedHost ⟨base, around.home, doc.defaults, environment, app, hooks⟩)
  -- only the hosts look at shared fields
  simp only [compile, writtenOut, List.mapM_map, completed]

end Rollout.Document
