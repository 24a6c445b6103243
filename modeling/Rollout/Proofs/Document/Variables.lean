import Rollout.Proofs.Document.Entries

/-!
# The variables of services

A service is given the variables that it lists and, one by one, the shared ones that it does not
list. A variable that it lists as `null` it is not given, whatever the shared value is, and what is
not listed by an object is not listed at all. Numbers and booleans count as their texts; an array or
an object that counts for a variable is a problem, and one that is shared but does not count is not.

The shared fields of services also fill in a service that lists no variables, with the shared
variables as a whole. That changes nothing: filled in or not, these are merged with themselves.

## Main definitions

* `Json.IsContainer`, `Json.HasText` — the values that no variable can have, and the texts of those
  that it can have
* `Document.IsMisfit` — a container counts for a variable
* `Document.serviceOfFields` — what the completed fields of a service mean

## Main results

* `Document.mergedVariables_eq_ok_iff_hasText`, `Document.mergedVariables_eq_error_iff` — the
  variables that a service is given, and the problem if it is given none
* `Document.mergedVariables_exact` — both, and that shared variables need not be filled in
-/

namespace Rollout

namespace Json

/-- A value is an array or an object. -/
def IsContainer (v : Json) : Prop := (∃ items, v = .array items) ∨ ∃ members, v = .object members

/-- A value has a text: a string itself, a number its decimal text and a boolean its name. -/
inductive HasText : Json → String → Prop
  | string (text : String) : HasText (.string text) text
  | number (n : Number) : HasText (.number n) n.text
  | yes : HasText (.bool true) "true"
  | no : HasText (.bool false) "false"

end Json

namespace Document

variable {own inherited : Option Json} {v : Json} {key text : String} {shared entry : Fields}
  {service : String} {env : Dict String} {e : ConfigError}

/-- An array or an object counts for a variable of a service, which lists some variables itself and
inherits others. -/
def IsMisfit (own inherited : Option Json) (key : String) : Prop :=
  ∃ v, effective (membersOf inherited) (membersOf own) key = some v ∧ v.IsContainer

/-! ### Values of variables -/

theorem isVariable_eq_false_iff : isVariable v = false ↔ v.IsContainer := by
  cases v <;> simp [isVariable, Json.IsContainer]

theorem variableText_eq_some_iff : variableText v = some text ↔ v.HasText text := by
  constructor
  · intro h
    cases v with
    | bool value => cases value <;> cases h <;> constructor
    | number n => cases h; exact .number n
    | string s => cases h; exact .string text
    | null | array _ | object _ => cases h
  · rintro (_ | _ | _ | _) <;> rfl

/-- Of the values that a variable can have, only `null` has no text. -/
theorem exists_hasText_iff (h : ¬ v.IsContainer) : (∃ text, v.HasText text) ↔ v ≠ .null := by
  simp only [← variableText_eq_some_iff, ← Option.isSome_iff_exists]
  cases v with
  | null => simp [variableText]
  | bool value => cases value <;> simp [variableText]
  | number _ | string _ => simp [variableText]
  | array items => exact absurd (.inl ⟨items, rfl⟩) h
  | object members => exact absurd (.inr ⟨members, rfl⟩) h

/-! ### Merged variables -/

theorem isMisfit_iff : IsMisfit own inherited key ↔
    ∃ v, (withDefaults (membersOf own) (membersOf inherited)).get? key = some v ∧
      isVariable v = false := by
  simp only [IsMisfit, get?_withDefaults, isVariable_eq_false_iff]

theorem forall_isVariable_iff :
    (∀ e ∈ (withDefaults (membersOf own) (membersOf inherited)).entries, isVariable e.2 = true) ↔
      ∀ key, ¬ IsMisfit own inherited key := by
  simp only [isMisfit_iff, Dict.get?_eq_some_iff, not_exists, not_and, Bool.not_eq_false]
  exact ⟨fun h key v hv => h (key, v) hv, fun h e he => h e.1 e.2 he⟩

/-- Without a container among them, a service is given the texts of the values that count. -/
theorem mergedVariables_eq_ok_iff_hasText :
    mergedVariables service own inherited = .ok env ↔
      (∀ key, ¬ IsMisfit own inherited key) ∧ ∀ key text, env.get? key = some text ↔
        ∃ v, effective (membersOf inherited) (membersOf own) key = some v ∧ v.HasText text := by
  have texts (key text : String) :
      ((withDefaults (membersOf own) (membersOf inherited)).filterMap
          fun _ v => variableText v).get? key = some text ↔
        ∃ v, effective (membersOf inherited) (membersOf own) key = some v ∧ v.HasText text := by
    rw [Dict.get?_filterMap, get?_withDefaults, Option.bind_eq_some_iff]
    simp only [variableText_eq_some_iff]
  rw [mergedVariables_eq_ok_iff, forall_isVariable_iff]
  refine and_congr_right fun _ => ⟨?_, fun h => ?_⟩
  · rintro rfl
    exact texts
  · -- a dict is determined by its look-ups
    refine Dict.ext_get? fun key => Option.ext fun text => ?_
    rw [h, texts]

/-- There are variables exactly if no container counts for one. -/
theorem exists_mergedVariables_eq_ok_iff (service : String) :
    (∃ env, mergedVariables service own inherited = .ok env) ↔
      ∀ key, ¬ IsMisfit own inherited key := by
  simp only [mergedVariables_eq_ok_iff, exists_and_left, exists_eq, and_true,
    forall_isVariable_iff]

/-- Of the containers that count for variables the one with the least key is the problem. -/
theorem mergedVariables_eq_error_iff :
    mergedVariables service own inherited = .error e ↔
      ∃ key, IsMisfit own inherited key ∧
        (∀ earlier, earlier < key → ¬ IsMisfit own inherited earlier) ∧
        e = .invalidVariable service key := by
  simp only [isMisfit_iff]
  exact checkEntries_eq_error_iff

/-- The variables that a service is given are not affected by filling in the shared fields. -/
theorem mergedVariables_withDefaults (service : String) (shared entry : Fields) :
    mergedVariables service ((withDefaults entry shared).get? "env") (shared.get? "env") =
      mergedVariables service (entry.get? "env") (shared.get? "env") := by
  rw [mergedVariables, mergedVariables, variables_eq]

/-! ### Services without shared variables filled in -/

/-- The service that its completed fields mean, where `inherited` are the shared variables. -/
def serviceOfFields (base : String) (inherited : Option Json) (fields : Fields) :
    Except ConfigError Service := do
  let parts ← (ServiceEntry.ofFields (fields.erase "env")).mapError (.schema .service)
  let env ← mergedVariables parts.name (fields.get? "env") inherited
  return {
    name := parts.name
    settingsPath := (filled parts.settingsPath).map (Path.resolve base)
    env }

/-- Apart from the variables, fields are filled in as if there were no shared variables. -/
theorem erase_withDefaults_erase (entry shared : Fields) (key : String) :
    (withDefaults entry (shared.erase key)).erase key = (withDefaults entry shared).erase key := by
  apply Dict.ext_get?
  intro k
  simp only [withDefaults, Dict.get?_erase, Dict.get?_orElse]
  split <;> rfl

/-- An entry keeps its own value, or none, for a key that is not shared. -/
theorem get?_withDefaults_erase (entry shared : Fields) (key : String) :
    (withDefaults entry (shared.erase key)).get? key = entry.get? key := by
  rw [withDefaults, Dict.get?_orElse, Dict.get?_erase, if_pos rfl, Option.or_none]

/-- A service means the same whether or not the shared variables are filled in as a whole before
they are filled in one by one. -/
theorem compileService_eq_unfilled (base : String) (shared entry : Fields) :
    compileService base shared entry =
      serviceOfFields base (shared.get? "env") (withDefaults entry (shared.erase "env")) := by
  calc
    compileService base shared entry =
        serviceOfFields base (shared.get? "env") (withDefaults entry shared) := rfl
    _ = serviceOfFields base (shared.get? "env") (withDefaults entry (shared.erase "env")) := by
      simp only [serviceOfFields, erase_withDefaults_erase, get?_withDefaults_erase,
        mergedVariables_withDefaults]

/-- The variables of a service. There are none exactly if an array or an object counts for one of
them, and then the least such variable is the problem. Otherwise a service is given those variables
for which a value other than `null` counts, each with the text of that value. Whether the shared
variables have been filled in as a whole before makes no difference to what a service means. -/
theorem mergedVariables_exact (service : String) (own inherited : Option Json) :
    ((∃ e, mergedVariables service own inherited = .error e) ↔
        ∃ key, IsMisfit own inherited key) ∧
      (∀ e, mergedVariables service own inherited = .error e ↔
        ∃ key, IsMisfit own inherited key ∧
          (∀ earlier, earlier < key → ¬ IsMisfit own inherited earlier) ∧
          e = .invalidVariable service key) ∧
      (∀ env, mergedVariables service own inherited = .ok env → ∀ key,
        (env.contains key = true ↔
          ∃ v, effective (membersOf inherited) (membersOf own) key = some v ∧ v ≠ .null) ∧
        ∀ text, env.get? key = some text ↔
          ∃ v, effective (membersOf inherited) (membersOf own) key = some v ∧ v.HasText text) ∧
      ∀ base shared entry,
        compileService base shared entry =
            serviceOfFields base (shared.get? "env") (withDefaults entry shared) ∧
          compileService base shared entry =
            serviceOfFields base (shared.get? "env") (withDefaults entry (shared.erase "env")) := by
  refine ⟨?_, fun e => mergedVariables_eq_error_iff, fun env h key => ?_,
    fun base shared entry => ⟨rfl, compileService_eq_unfilled base shared entry⟩⟩
  · cases h : mergedVariables service own inherited with
    | ok env =>
      have hfits := (mergedVariables_eq_ok_iff_hasText.mp h).1
      simp [hfits]
    | error e =>
      obtain ⟨key, hkey, -⟩ := mergedVariables_eq_error_iff.mp h
      exact ⟨fun _ => ⟨key, hkey⟩, fun _ => ⟨e, rfl⟩⟩
  · obtain ⟨hfits, htexts⟩ := mergedVariables_eq_ok_iff_hasText.mp h
    refine ⟨?_, htexts key⟩
    have hvalue : ∀ v, effective (membersOf inherited) (membersOf own) key = some v →
        ((∃ text, v.HasText text) ↔ v ≠ .null) :=
      fun v hv => exists_hasText_iff fun hcontainer => hfits key ⟨v, hv, hcontainer⟩
    calc
      env.contains key = true ↔ ∃ text, env.get? key = some text := by
        rw [Dict.contains, Option.isSome_iff_exists]
      _ ↔ ∃ v, effective (membersOf inherited) (membersOf own) key = some v ∧
          ∃ text, v.HasText text := by
        simp only [htexts, ← exists_and_left]
        exact exists_comm
      _ ↔ _ := exists_congr fun v => and_congr_right (hvalue v)

/-- The variables that a service lists. -/
def listedVariables : Json :=
  .object [("DEBUG", .null), ("PORT", .ofNat 8080), ("ROOT", .string "/srv")]

/-- The variables that services share. Two of the values are containers. -/
def sharedVariables : Json :=
  .object [("DEBUG", .array []), ("ROOT", .object []), ("TRACE", .bool false), ("USER", .null)]

/-- The containers that are shared do no harm where the service lists the variables itself. -/
theorem mergedVariables_listedVariables :
    ∃ env, mergedVariables "web" (some listedVariables) (some sharedVariables) = .ok env ∧
      env.contains "DEBUG" = false ∧ env.get? "PORT" = some "8080" ∧
      env.get? "TRACE" = some "false" ∧ env.contains "USER" = false := by
  obtain ⟨-, -, hvariables, -⟩ :=
    mergedVariables_exact "web" (some listedVariables) (some sharedVariables)
  obtain ⟨env, henv⟩ : ∃ env,
      mergedVariables "web" (some listedVariables) (some sharedVariables) = .ok env := ⟨_, rfl⟩
  have counts := hvariables env henv
  have none_of_null {key : String} (h : effective (membersOf (some sharedVariables))
      (membersOf (some listedVariables)) key = some .null) : env.contains key = false := by
    rw [Bool.eq_false_iff, ne_eq, (counts key).1, h]
    simp
  exact ⟨env, henv, none_of_null rfl, ((counts "PORT").2 _).mpr ⟨_, rfl, .number _⟩,
    ((counts "TRACE").2 _).mpr ⟨_, rfl, .no⟩, none_of_null rfl⟩

end Document

end Rollout
