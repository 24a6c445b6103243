import Rollout.Proofs.Dict
import Rollout.Proofs.Document.Compile

/-!
# What entries say

An entry says of each key what counts for it: its own value, even `null`, or else the shared one.
A look-up of what counts is all that is read of the entry of a host or a service, and the entry can
be read exactly if the fields have the right kinds. A field that says text or a port may also be
left out or be `null`, which both say nothing.

## Main definitions

* `Document.effective` — what counts for a key of an entry
* `Json.Lists` — an array of objects, as the fields of the objects
* `Document.HostEntry.ReadFrom`, `Document.ServiceEntry.ReadFrom` — parts of an entry and the
  fields that say them
* `Json.mapItems` — an array of objects with their fields rewritten

## Main results

* `Document.HostEntry.ofFields_eq_ok_iff`, `Document.ServiceEntry.ofFields_eq_ok_iff` — what an
  entry is read as
* `Document.HostEntry.ofFields_of_get?` — rewriting the services of a host, before or after its
  entry is read
* `Document.variables_eq` — the variables that a service is given are its own and the shared ones
-/

namespace Rollout

/-! ### Values of the right kinds -/

namespace Json

variable {v : Json} {fields : Fields} {key : String}

/-- A port, or `null` where there is none. -/
def ofPort : Option Nat → Json
  | none => .null
  | some n => .ofNat n

/-- An array of objects lists some fields, those of its items in their order. -/
def Lists (v : Json) (entries : List Fields) : Prop :=
  ∃ items, v = .array items ∧
    List.Forall₂ (fun item entry => ∃ members, item = .object members ∧ entry = .ofList members)
      items entries

/-- An array lists its items in one way. -/
theorem Lists.unique {entries entries' : List Fields} (h : v.Lists entries)
    (h' : v.Lists entries') : entries = entries' := by
  obtain ⟨items, rfl, hitems⟩ := h
  obtain ⟨items', heq, hitems'⟩ := h'
  cases heq
  induction hitems generalizing entries' with
  | nil =>
    cases hitems'
    rfl
  | cons hitem _ ih =>
    cases hitems' with
    | cons hitem' hrest' =>
      obtain ⟨members, rfl, rfl⟩ := hitem
      obtain ⟨members', heq, rfl⟩ := hitem'
      cases heq
      rw [ih hrest']

theorem asString_eq_ok_iff {text : String} : v.asString = .ok text ↔ v = .string text := by
  cases v <;> simp [asString]

theorem asOptionalString_eq_ok_iff {text : Option String} :
    v.asOptionalString = .ok text ↔ v = .ofOption text := by
  cases v <;> cases text <;> simp [asOptionalString, asString, ofOption, Except.map]

/-- A field that says text or nothing says the text that it holds. -/
theorem eq_some_iff_of_getD_eq_ofOption {field : Option Json} {text : Option String}
    (h : field.getD .null = .ofOption text) {s : String} :
    text = some s ↔ field = some (.string s) := by
  cases field with
  | none =>
    cases text <;> simp_all [ofOption]
  | some v =>
    obtain rfl : v = .ofOption text := h
    cases text <;> simp [ofOption]

theorem asPort_eq_ok_iff {port : Option Nat} :
    v.asPort = .ok port ↔ v = .ofPort port ∧ ∀ n, port = some n → n ≤ maxPort := by
  unfold asPort
  split
  · cases port <;> simp [ofPort, ofNat]
  · rename_i n
    split
    · rename_i hrange
      cases port with
      | none => simp [ofPort]
      | some m =>
        simp only [Except.ok.injEq, Option.some.injEq, ofPort, ofNat, number.injEq,
          Number.integer.injEq]
        constructor
        · rintro rfl
          exact ⟨by omega, fun _ h => by omega⟩
        · rintro ⟨h, -⟩
          omega
    · rename_i hrange
      cases port with
      | none => simp [ofPort]
      | some m =>
        simp only [reduceCtorEq, ofPort, ofNat, number.injEq, Number.integer.injEq,
          Option.some.injEq, forall_eq', false_iff, not_and]
        rintro rfl
        omega
  · rename_i hnull hinteger
    cases port with
    | none => simpa [ofPort] using hnull
    | some m =>
      have hne : v ≠ .number (.integer m) := hinteger m
      simp [ofPort, ofNat, hne]

theorem asFields_eq_ok_iff {entry : Fields} :
    v.asFields = .ok entry ↔ ∃ members, v = .object members ∧ entry = .ofList members := by
  cases v <;> simp [asFields, eq_comm]

theorem asFieldsList_eq_ok_iff {entries : List Fields} :
    v.asFieldsList = .ok entries ↔ v.Lists entries := by
  unfold asFieldsList Lists
  split
  · simp only [mapM_eq_ok_iff, asFields_eq_ok_iff, array.injEq, exists_eq_left']
  · rename_i hitems
    simp only [reduceCtorEq, false_iff, not_exists, not_and]
    rintro items rfl
    exact absurd rfl (hitems items)

/-- A field that may be left out is read as what stands for it, which where it is missing is
`absent`. -/
theorem readField?_getD_eq_ok_iff {α : Type} (read : Json → Except Mismatch α) (absent : Json)
    (nothing : α) {a : α} (habsent : read absent = .ok nothing) :
    (∃ r, readField? fields key read = .ok r ∧ r.getD nothing = a) ↔
      read ((fields.get? key).getD absent) = .ok a := by
  unfold readField?
  cases fields.get? key with
  | none => simp [habsent]
  | some v =>
    dsimp only [Option.getD_some]
    cases read v <;> simp [Except.map]

theorem readField?_text_eq_ok_iff {text : Option String} :
    (∃ r, readField? fields key asOptionalString = .ok r ∧ r.getD none = text) ↔
      (fields.get? key).getD .null = .ofOption text := by
  rw [readField?_getD_eq_ok_iff asOptionalString .null none rfl, asOptionalString_eq_ok_iff]

theorem readField?_port_eq_ok_iff {port : Option Nat} :
    (∃ r, readField? fields key asPort = .ok r ∧ r.getD none = port) ↔
      (fields.get? key).getD .null = .ofPort port ∧ ∀ n, port = some n → n ≤ maxPort := by
  rw [readField?_getD_eq_ok_iff asPort .null none rfl, asPort_eq_ok_iff]

theorem readField?_list_eq_ok_iff {entries : List Fields} :
    (∃ r, readField? fields key asFieldsList = .ok r ∧ r.getD [] = entries) ↔
      ((fields.get? key).getD (.array [])).Lists entries := by
  rw [readField?_getD_eq_ok_iff asFieldsList (.array []) [] rfl, asFieldsList_eq_ok_iff]

/-- A name has to be there. -/
theorem readField?_require_eq_ok_iff {text : String} :
    (∃ r, readField? fields key asString = .ok r ∧ require key r = .ok text) ↔
      fields.get? key = some (.string text) := by
  unfold readField?
  cases fields.get? key with
  | none => simp [require]
  | some v =>
    rw [Option.some_inj, ← asString_eq_ok_iff]
    dsimp only
    cases v.asString <;> simp [Except.map, require]

/-! ### Rewritten objects -/

/-- An object with its fields rewritten; another value stays as it is. -/
def mapFields (f : Fields → Fields) : Json → Json
  | .object members => .ofDict (f (.ofList members))
  | v => v

/-- An array with the fields of the objects in it rewritten; another value stays as it is. -/
def mapItems (f : Fields → Fields) : Json → Json
  | .array items => .array (items.map (mapFields f))
  | v => v

theorem asFields_mapFields (f : Fields → Fields) (v : Json) :
    (v.mapFields f).asFields = f <$> v.asFields := by
  cases v with
  | object members => exact congrArg Except.ok (Dict.ofList_entries _)
  | _ => rfl

/-- Rewriting objects is no matter of whether they can be read. -/
theorem asFieldsList_mapItems (f : Fields → Fields) (v : Json) :
    (v.mapItems f).asFieldsList = List.map f <$> v.asFieldsList := by
  cases v with
  | array items => exact mapM_map_eq_map fun item _ => asFields_mapFields f item
  | _ => rfl

end Json

/-! ### The parts of entries -/

namespace Document

variable {shared entry fields : Fields} {key : String}

/-- What counts for a key of an entry: its own value, even `null`, or else the shared one. -/
def effective (shared entry : Fields) (key : String) : Option Json :=
  match entry.get? key with
  | some own => some own
  | none => shared.get? key

theorem get?_withDefaults (entry shared : Fields) (key : String) :
    (withDefaults entry shared).get? key = effective shared entry key := by
  rw [withDefaults, Dict.get?_orElse, effective]
  cases entry.get? key <;> rfl

/-- The parts of a host entry are what its fields say. -/
structure HostEntry.ReadFrom (parts : HostEntry) (field : String → Option Json) : Prop where
  name : field "name" = some (.string parts.name)
  shortName : (field "shortName").getD .null = .ofOption parts.shortName
  username : (field "username").getD .null = .ofOption parts.username
  password : (field "password").getD .null = .ofOption parts.password
  pem : (field "pem").getD .null = .ofOption parts.pem
  port : (field "port").getD .null = .ofPort parts.port
  isPort : ∀ n, parts.port = some n → n ≤ Json.maxPort
  services : ((field "services").getD (.array [])).Lists parts.services

/-- The parts of a service entry are what its fields say. -/
structure ServiceEntry.ReadFrom (parts : ServiceEntry) (field : String → Option Json) :
    Prop where
  name : field "name" = some (.string parts.name)
  settingsPath : (field "settingsPath").getD .null = .ofOption parts.settingsPath

theorem join_eq_getD {α : Type} (o : Option (Option α)) : o.join = o.getD none := by
  cases o <;> rfl

/-- A host entry is read as what its fields say. -/
theorem HostEntry.ofFields_eq_ok_iff {parts : HostEntry} :
    HostEntry.ofFields fields = .ok parts ↔ parts.ReadFrom fields.get? := by
  simp only [HostEntry.ofFields, bind_eq_ok_iff, join_eq_getD]
  constructor
  · rintro ⟨name, hname, password, hpassword, pem, hpem, port, hport, services, hservices,
      shortName, hshortName, username, husername, text, htext, h⟩
    cases h
    obtain ⟨hport, hrange⟩ := Json.readField?_port_eq_ok_iff.mp ⟨port, hport, rfl⟩
    exact {
      name := Json.readField?_require_eq_ok_iff.mp ⟨name, hname, htext⟩
      shortName := Json.readField?_text_eq_ok_iff.mp ⟨shortName, hshortName, rfl⟩
      username := Json.readField?_text_eq_ok_iff.mp ⟨username, husername, rfl⟩
      password := Json.readField?_text_eq_ok_iff.mp ⟨password, hpassword, rfl⟩
      pem := Json.readField?_text_eq_ok_iff.mp ⟨pem, hpem, rfl⟩
      port := hport
      isPort := hrange
      services := Json.readField?_list_eq_ok_iff.mp ⟨services, hservices, rfl⟩ }
  · intro h
    obtain ⟨name, hname, htext⟩ := Json.readField?_require_eq_ok_iff.mpr h.name
    obtain ⟨shortName, hshortName, hshortName'⟩ := Json.readField?_text_eq_ok_iff.mpr h.shortName
    obtain ⟨username, husername, husername'⟩ := Json.readField?_text_eq_ok_iff.mpr h.username
    obtain ⟨password, hpassword, hpassword'⟩ := Json.readField?_text_eq_ok_iff.mpr h.password
    obtain ⟨pem, hpem, hpem'⟩ := Json.readField?_text_eq_ok_iff.mpr h.pem
    obtain ⟨port, hport, hport'⟩ := Json.readField?_port_eq_ok_iff.mpr ⟨h.port, h.isPort⟩
    obtain ⟨services, hservices, hservices'⟩ := Json.readField?_list_eq_ok_iff.mpr h.services
    refine ⟨name, hname, password, hpassword, pem, hpem, port, hport, services, hservices,
      shortName, hshortName, username, husername, parts.name, htext, ?_⟩
    rw [hshortName', husername', hpassword', hpem', hport', hservices']
    rfl

/-- A service entry is read as what its fields say. -/
theorem ServiceEntry.ofFields_eq_ok_iff {parts : ServiceEntry} :
    ServiceEntry.ofFields fields = .ok parts ↔ parts.ReadFrom fields.get? := by
  simp only [ServiceEntry.ofFields, bind_eq_ok_iff, join_eq_getD]
  constructor
  · rintro ⟨name, hname, settingsPath, hpath, text, htext, h⟩
    cases h
    exact ⟨Json.readField?_require_eq_ok_iff.mp ⟨name, hname, htext⟩,
      Json.readField?_text_eq_ok_iff.mp ⟨settingsPath, hpath, rfl⟩⟩
  · intro h
    obtain ⟨name, hname, htext⟩ := Json.readField?_require_eq_ok_iff.mpr h.name
    obtain ⟨settingsPath, hpath, hpath'⟩ := Json.readField?_text_eq_ok_iff.mpr h.settingsPath
    refine ⟨name, hname, settingsPath, hpath, parts.name, htext, ?_⟩
    rw [hpath']
    rfl

theorem HostEntry.ofFields_withDefaults_eq_ok_iff {parts : HostEntry} :
    HostEntry.ofFields (withDefaults entry shared) = .ok parts ↔
      parts.ReadFrom (effective shared entry) := by
  rw [ofFields_eq_ok_iff, funext (get?_withDefaults entry shared)]

/-- The variables are no matter of whether the rest of a service entry can be read. -/
theorem ServiceEntry.ofFields_erase_eq_ok_iff {parts : ServiceEntry} :
    ServiceEntry.ofFields ((withDefaults entry shared).erase "env") = .ok parts ↔
      parts.ReadFrom (effective shared entry) := by
  rw [ofFields_eq_ok_iff]
  constructor
  · rintro ⟨hname, hpath⟩
    rw [Dict.get?_erase, if_neg (by decide), get?_withDefaults] at hname hpath
    exact ⟨hname, hpath⟩
  · rintro ⟨hname, hpath⟩
    constructor
    · rwa [Dict.get?_erase, if_neg (by decide), get?_withDefaults]
    · rwa [Dict.get?_erase, if_neg (by decide), get?_withDefaults]

/-- The services of a host whose entries are rewritten are read as they would have been, rewritten;
everything else of the host is read as before. -/
theorem HostEntry.ofFields_of_get? {f : Fields → Fields} {rewritten : Fields}
    (h : ∀ key, rewritten.get? key =
      if key = "services" then (fields.get? key).map (Json.mapItems f) else fields.get? key) :
    HostEntry.ofFields rewritten =
      (fun parts : HostEntry => { parts with services := parts.services.map f }) <$>
        HostEntry.ofFields fields := by
  have other {α : Type} (key : String) (hkey : key ≠ "services")
      (read : Json → Except Json.Mismatch α) :
      Json.readField? rewritten key read = Json.readField? fields key read := by
    rw [Json.readField?, Json.readField?, h, if_neg hkey]
  have services : Json.readField? rewritten "services" Json.asFieldsList =
      Option.map (List.map f) <$> Json.readField? fields "services" Json.asFieldsList := by
    rw [Json.readField?, Json.readField?, h, if_pos rfl]
    cases fields.get? "services" with
    | none => rfl
    | some v =>
      simp only [Option.map_some, Json.asFieldsList_mapItems]
      cases v.asFieldsList <;> rfl
  have absent (s : Option (List Fields)) :
      (s.map (List.map f)).getD [] = (s.getD []).map f := by
    cases s <;> rfl
  simp only [HostEntry.ofFields, services, other "name" (by decide),
    other "password" (by decide), other "pem" (by decide), other "port" (by decide),
    other "shortName" (by decide), other "username" (by decide), map_bind, bind_map_left,
    map_pure, absent]

/-! ### The variables of services -/

/-- The variables of a service entry after the shared fields have been filled in, completed with
the shared ones, are those that it lists itself completed with the shared ones. -/
theorem variables_eq (shared entry : Fields) :
    withDefaults (membersOf ((withDefaults entry shared).get? "env"))
        (membersOf (shared.get? "env")) =
      withDefaults (membersOf (entry.get? "env")) (membersOf (shared.get? "env")) := by
  apply Dict.ext_get?
  intro key
  rw [get?_withDefaults entry shared, effective]
  cases entry.get? "env" with
  | some own => rfl
  | none =>
    -- the shared variables are then filled in twice
    simp only [withDefaults, Dict.get?_orElse, membersOf, Dict.get?_empty, Option.none_or,
      Option.or_self]

end Document

end Rollout
