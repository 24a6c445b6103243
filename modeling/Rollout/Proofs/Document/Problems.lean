import Rollout.Proofs.Config.Origin
import Rollout.Proofs.Document.Variables

/-!
# The first problem of a document

A document compiles exactly if it is well formed: if its environment has a name, its hooks are
paths, the fields of its hosts and services are of the right kinds, no variable that counts is a
container, and the names of the hosts, and of the services of each host, are distinct. Otherwise
its first problem is reported. The environment comes first, then the hooks in the order of their
events, then the hosts in their order and last the names of the hosts; of a host the entry comes
first, then its services in their order and last their names; of a service the entry comes first and
then the variables in the order of their names.

## Main definitions

* `Document.IsHostEntry`, `Document.IsServiceEntry` — the fields of an entry are of the right kinds
* `Document.IsWellFormed` — nothing is wrong with a document
* `Document.ServiceProblem`, `Document.HostProblem`, `Document.FirstProblem` — an error is the first
  problem of a service, of a host, of a document

## Main results

* `Document.compile_exact` — the well-formed documents compile, and of the others the first problem
  is reported
-/

namespace Rollout.Document

open Json (Mismatch)

/-! ### Well-formed documents -/

/-- A field is there and is text. -/
def IsText (field : Option Json) : Prop := ∃ text, field = some (.string text)

/-- A field is left out, `null` or text. -/
def IsOptionalText (field : Option Json) : Prop := field = none ∨ field = some .null ∨ IsText field

/-- A field is left out, `null` or an integer from 0 to 65535. -/
def IsOptionalPort (field : Option Json) : Prop :=
  field = none ∨ field = some .null ∨ ∃ n : Nat, n ≤ 65535 ∧ field = some (.ofNat n)

/-- The fields of a host are of the right kinds. No services are left out or listed by an array of
objects. -/
structure IsHostEntry (field : String → Option Json) : Prop where
  name : IsText (field "name")
  shortName : IsOptionalText (field "shortName")
  username : IsOptionalText (field "username")
  password : IsOptionalText (field "password")
  pem : IsOptionalText (field "pem")
  port : IsOptionalPort (field "port")
  services : ∃ entries, ((field "services").getD (.array [])).Lists entries

/-- The fields of a service are of the right kinds. -/
structure IsServiceEntry (field : String → Option Json) : Prop where
  name : IsText (field "name")
  settingsPath : IsOptionalText (field "settingsPath")

/-- What counts for a variable of a service is a container. -/
def IsBadVariable (shared entry : Fields) (key : String) : Prop :=
  ∃ v, effective (membersOf (shared.get? "env")) (membersOf (entry.get? "env")) key = some v ∧
    ((∃ items, v = .array items) ∨ ∃ members, v = .object members)

/-- A hook is neither a note nor `null` nor text. -/
def IsBadHook (hooks : Fields) (event : String) : Prop :=
  event ≠ commentKey ∧ ∃ v, hooks.get? event = some v ∧ v ≠ .null ∧ ∀ path, v ≠ .string path

/-- Nothing is wrong with a service. -/
structure ServiceFits (shared entry : Fields) : Prop where
  fields : IsServiceEntry (effective shared entry)
  env : ∀ key, ¬ IsBadVariable shared entry key

/-- The services that count for a host. -/
def ListsServices (defaults : Defaults) (entry : Fields) (services : List Fields) : Prop :=
  ((effective defaults.hosts entry "services").getD (.array [])).Lists services

/-- What counts as the names of some entries. -/
def entryNames (shared : Fields) (entries : List Fields) : List (Option Json) :=
  entries.map fun entry => effective shared entry "name"

/-- Nothing is wrong with a host. -/
structure HostFits (defaults : Defaults) (entry : Fields) : Prop where
  fields : IsHostEntry (effective defaults.hosts entry)
  services : ∀ services, ListsServices defaults entry services →
    ∀ service ∈ services, ServiceFits defaults.services service
  distinct : ∀ services, ListsServices defaults entry services →
    (entryNames defaults.services services).Nodup

/-- Nothing is wrong with a document. -/
structure IsWellFormed (doc : Document) : Prop where
  environment : ∃ name, doc.environment = some name ∧ name ≠ ""
  hooks : ∀ event, ¬ IsBadHook doc.hooks event
  hosts : ∀ entry ∈ doc.hosts, HostFits doc.defaults entry
  distinct : (entryNames doc.defaults.hosts doc.hosts).Nodup

/-! ### First problems -/

/-- An error is the first problem of a service. -/
inductive ServiceProblem (shared entry : Fields) : ConfigError → Prop
  | fields {cause : Mismatch} (hfields : ¬ IsServiceEntry (effective shared entry))
    (hcause : ServiceEntry.ofFields ((withDefaults entry shared).erase "env") = .error cause) :
    ServiceProblem shared entry (.schema .service cause)
  | env {name key : String} (hfields : IsServiceEntry (effective shared entry))
    (hname : effective shared entry "name" = some (.string name))
    (hkey : IsBadVariable shared entry key)
    (hfirst : ∀ earlier, earlier < key → ¬ IsBadVariable shared entry earlier) :
    ServiceProblem shared entry (.invalidVariable name key)

/-- An error is the first problem of a host. -/
inductive HostProblem (defaults : Defaults) (entry : Fields) : ConfigError → Prop
  | fields {cause : Mismatch} (hfields : ¬ IsHostEntry (effective defaults.hosts entry))
    (hcause : HostEntry.ofFields (withDefaults entry defaults.hosts) = .error cause) :
    HostProblem defaults entry (.schema .host cause)
  | service {front back : List Fields} {service : Fields} {e : ConfigError}
    (hfields : IsHostEntry (effective defaults.hosts entry))
    (hservices : ListsServices defaults entry (front ++ service :: back))
    (hfirst : ∀ earlier ∈ front, ServiceFits defaults.services earlier)
    (hservice : ServiceProblem defaults.services service e) : HostProblem defaults entry e
  | repeated {services : List Fields} {host name : String}
    (hfields : IsHostEntry (effective defaults.hosts entry))
    (hservices : ListsServices defaults entry services)
    (hfit : ∀ service ∈ services, ServiceFits defaults.services service)
    (hhost : effective defaults.hosts entry "name" = some (.string host))
    (hname : RepeatsFirst (entryNames defaults.services services) (some (.string name))) :
    HostProblem defaults entry (.duplicateService host name)

/-- An error is the first problem of a document. -/
inductive FirstProblem (doc : Document) : ConfigError → Prop
  | environment (hunnamed : ∀ name, doc.environment = some name → name = "") :
    FirstProblem doc .missingEnvironment
  | hook {name event : String} (hnamed : doc.environment = some name ∧ name ≠ "")
    (hevent : IsBadHook doc.hooks event)
    (hfirst : ∀ earlier, earlier < event → ¬ IsBadHook doc.hooks earlier) :
    FirstProblem doc (.invalidHook event)
  | host {name : String} {front back : List Fields} {entry : Fields} {e : ConfigError}
    (hnamed : doc.environment = some name ∧ name ≠ "")
    (hhooks : ∀ event, ¬ IsBadHook doc.hooks event)
    (hhosts : doc.hosts = front ++ entry :: back)
    (hfirst : ∀ earlier ∈ front, HostFits doc.defaults earlier)
    (hentry : HostProblem doc.defaults entry e) : FirstProblem doc e
  | repeated {name host : String} (hnamed : doc.environment = some name ∧ name ≠ "")
    (hhooks : ∀ event, ¬ IsBadHook doc.hooks event)
    (hfit : ∀ entry ∈ doc.hosts, HostFits doc.defaults entry)
    (hhost : RepeatsFirst (entryNames doc.defaults.hosts doc.hosts) (some (.string host))) :
    FirstProblem doc (.duplicateHost host)

/-! ### Entries -/

variable {base : String} {shared entry : Fields} {e : ConfigError}

theorem isOptionalText_iff {field : Option Json} :
    IsOptionalText field ↔ ∃ text, field.getD .null = .ofOption text := by
  constructor
  · rintro (rfl | rfl | ⟨text, rfl⟩)
    · exact ⟨none, rfl⟩
    · exact ⟨none, rfl⟩
    · exact ⟨some text, rfl⟩
  · rintro ⟨text, h⟩
    cases field with
    | none => exact .inl rfl
    | some v =>
      obtain rfl : v = .ofOption text := h
      cases text with
      | none => exact .inr (.inl rfl)
      | some text => exact .inr (.inr ⟨text, rfl⟩)

theorem isOptionalPort_iff {field : Option Json} :
    IsOptionalPort field ↔
      ∃ port, field.getD .null = .ofPort port ∧ ∀ n, port = some n → n ≤ Json.maxPort := by
  constructor
  · rintro (rfl | rfl | ⟨n, hn, rfl⟩)
    · exact ⟨none, rfl, by simp⟩
    · exact ⟨none, rfl, by simp⟩
    · exact ⟨some n, rfl, by rintro _ ⟨⟩; exact hn⟩
  · rintro ⟨port, h, hrange⟩
    cases field with
    | none => exact .inl rfl
    | some v =>
      obtain rfl : v = .ofPort port := h
      cases port with
      | none => exact .inr (.inl rfl)
      | some n => exact .inr (.inr ⟨n, hrange n rfl, rfl⟩)

/-- A host entry can be read exactly if its fields are of the right kinds. -/
theorem isHostEntry_iff {field : String → Option Json} :
    IsHostEntry field ↔ ∃ parts : HostEntry, parts.ReadFrom field := by
  constructor
  · intro h
    obtain ⟨name, hname⟩ := h.name
    obtain ⟨shortName, hshortName⟩ := isOptionalText_iff.mp h.shortName
    obtain ⟨username, husername⟩ := isOptionalText_iff.mp h.username
    obtain ⟨password, hpassword⟩ := isOptionalText_iff.mp h.password
    obtain ⟨pem, hpem⟩ := isOptionalText_iff.mp h.pem
    obtain ⟨port, hport, hrange⟩ := isOptionalPort_iff.mp h.port
    obtain ⟨services, hservices⟩ := h.services
    exact ⟨⟨name, shortName, username, password, pem, port, services⟩,
      ⟨hname, hshortName, husername, hpassword, hpem, hport, hrange, hservices⟩⟩
  · rintro ⟨parts, h⟩
    exact {
      name := ⟨_, h.name⟩
      shortName := isOptionalText_iff.mpr ⟨_, h.shortName⟩
      username := isOptionalText_iff.mpr ⟨_, h.username⟩
      password := isOptionalText_iff.mpr ⟨_, h.password⟩
      pem := isOptionalText_iff.mpr ⟨_, h.pem⟩
      port := isOptionalPort_iff.mpr ⟨_, h.port, h.isPort⟩
      services := ⟨_, h.services⟩ }

/-- A service entry can be read exactly if its fields are of the right kinds. -/
theorem isServiceEntry_iff {field : String → Option Json} :
    IsServiceEntry field ↔ ∃ parts : ServiceEntry, parts.ReadFrom field := by
  constructor
  · rintro ⟨⟨name, hname⟩, hpath⟩
    obtain ⟨path, hpath⟩ := isOptionalText_iff.mp hpath
    exact ⟨⟨name, path⟩, ⟨hname, hpath⟩⟩
  · rintro ⟨parts, hname, hpath⟩
    exact ⟨⟨_, hname⟩, isOptionalText_iff.mpr ⟨_, hpath⟩⟩

/-! ### Variables and hooks -/

/-- The variables of a service that are no good are the misfits among its own and the shared
ones. -/
theorem isBadVariable_iff {key : String} :
    IsBadVariable shared entry key ↔ IsMisfit (entry.get? "env") (shared.get? "env") key :=
  Iff.rfl

theorem isBadHook_iff {hooks : Fields} {event : String} :
    IsBadHook hooks event ↔
      ∃ v, (hooks.erase commentKey).get? event = some v ∧ isHook v = false := by
  rw [Dict.get?_erase, IsBadHook]
  by_cases hnote : commentKey = event
  · simp [hnote]
  · simp only [ne_eq, Ne.symm hnote, not_false_eq_true, true_and, if_neg hnote]
    refine exists_congr fun v => and_congr_right fun _ => ?_
    cases v <;> simp [isHook]

/-! ### Services -/

theorem isServiceEntry_effective_iff :
    IsServiceEntry (effective shared entry) ↔
      ∃ parts, ServiceEntry.ofFields ((withDefaults entry shared).erase "env") = .ok parts := by
  simp only [isServiceEntry_iff, ServiceEntry.ofFields_erase_eq_ok_iff]

theorem exists_compileService_eq_ok_iff :
    (∃ service, compileService base shared entry = .ok service) ↔ ServiceFits shared entry := by
  constructor
  · rintro ⟨service, h⟩
    obtain ⟨parts, hparts, henv, -, -⟩ := compileService_eq_ok_iff.mp h
    rw [mergedVariables_withDefaults] at henv
    exact ⟨isServiceEntry_effective_iff.mpr ⟨parts, hparts⟩,
      (exists_mergedVariables_eq_ok_iff _).mp ⟨_, henv⟩⟩
  · rintro ⟨hfields, henv⟩
    obtain ⟨parts, hparts⟩ := isServiceEntry_effective_iff.mp hfields
    obtain ⟨env, henv⟩ := (exists_mergedVariables_eq_ok_iff parts.name).mpr henv
    rw [← mergedVariables_withDefaults] at henv
    exact ⟨⟨parts.name, _, env⟩, compileService_eq_ok_iff.mpr ⟨parts, hparts, henv, rfl, rfl⟩⟩

theorem compileService_eq_error_iff :
    compileService base shared entry = .error e ↔ ServiceProblem shared entry e := by
  simp only [compileService, bind_eq_error_iff, mapError_eq_error_iff, mapError_eq_ok_iff,
    mergedVariables_withDefaults, mergedVariables_eq_error_iff, ← isBadVariable_iff]
  constructor
  · rintro (⟨cause, hcause, rfl⟩ | ⟨parts, hparts, ⟨key, hkey, hfirst, rfl⟩ | ⟨_, _, h⟩⟩)
    · refine .fields (fun hfields => ?_) hcause
      obtain ⟨parts, hparts⟩ := isServiceEntry_effective_iff.mp hfields
      rw [hcause] at hparts
      cases hparts
    · have hread := ServiceEntry.ofFields_erase_eq_ok_iff.mp hparts
      exact .env (isServiceEntry_effective_iff.mpr ⟨parts, hparts⟩) hread.name hkey hfirst
    · cases h
  · intro h
    cases h with
    | fields _ hcause => exact .inl ⟨_, hcause, rfl⟩
    | env hfields hname hkey hfirst =>
      obtain ⟨parts, hparts⟩ := isServiceEntry_effective_iff.mp hfields
      have hread := ServiceEntry.ofFields_erase_eq_ok_iff.mp hparts
      obtain rfl : _ = parts.name := by simpa [hname] using hread.name
      exact .inr ⟨parts, hparts, .inl ⟨_, hkey, hfirst, rfl⟩⟩

theorem exists_mapM_compileService_eq_ok_iff (base : String) {entries : List Fields} :
    (∃ services, entries.mapM (compileService base shared) = .ok services) ↔
      ∀ entry ∈ entries, ServiceFits shared entry := by
  simp only [exists_mapM_eq_ok_iff, exists_compileService_eq_ok_iff]

/-- Compiled entries have the names that count for them. -/
theorem entryNames_eq_map_name {α : Type} [Named α] {f : Fields → Except ConfigError α}
    {entries : List Fields} {items : List α} (h : entries.mapM f = .ok items)
    (hname : ∀ entry item, f entry = .ok item →
      effective shared entry "name" = some (.string (name item))) :
    entryNames shared entries = (items.map name).map fun n => some (.string n) := by
  have hall := (mapM_eq_ok_iff.mp h).imp hname
  clear h
  induction hall with
  | nil => rfl
  | cons hentry _ ih =>
    rw [entryNames] at ih
    rw [entryNames, List.map_cons, List.map_cons, List.map_cons, hentry, ih]

theorem string_injective : Function.Injective fun n : String => some (Json.string n) := by
  intro n n' h
  simpa using h

/-! ### Hosts -/

theorem isHostEntry_effective_iff :
    IsHostEntry (effective shared entry) ↔
      ∃ parts, HostEntry.ofFields (withDefaults entry shared) = .ok parts := by
  simp only [isHostEntry_iff, HostEntry.ofFields_withDefaults_eq_ok_iff]

variable {common : Common}

theorem services_of_readFrom {defaults : Defaults} {parts : HostEntry} {services : List Fields}
    (hread : parts.ReadFrom (effective defaults.hosts entry)) :
    ListsServices defaults entry services ↔ services = parts.services :=
  ⟨fun h => h.unique hread.services, fun h => h ▸ hread.services⟩

/-- Items make up a roster exactly if the names that count for their entries are distinct. -/
theorem exists_ofList_eq_ok_iff {α : Type} [Named α] {entries : List Fields} {items : List α}
    (hnames : entryNames shared entries = (items.map name).map fun n => some (.string n)) :
    (∃ roster : Roster α, Roster.ofList items = .ok roster) ↔
      (entryNames shared entries).Nodup := by
  rw [hnames]
  constructor
  · rintro ⟨roster, hroster⟩
    rw [← Roster.ofList_eq_ok_iff.mp hroster]
    exact roster.nodup.map string_injective
  · intro hnodup
    exact ⟨⟨items, hnodup.of_map⟩, Roster.ofList_eq_ok_iff.mpr rfl⟩

theorem ofList_eq_error_iff {α : Type} [Named α] {entries : List Fields} {items : List α}
    {n : String}
    (hnames : entryNames shared entries = (items.map name).map fun n => some (.string n)) :
    Roster.ofList items = .error n ↔
      RepeatsFirst (entryNames shared entries) (some (.string n)) := by
  rw [hnames, repeatsFirst_map_iff string_injective, Roster.ofList_eq_error_iff]

theorem entryNames_services {entries : List Fields} {services : List Service}
    (h : entries.mapM (compileService base shared) = .ok services) :
    entryNames shared entries = (services.map name).map fun n => some (.string n) :=
  entryNames_eq_map_name h fun _ _ h => (compileService_comesFrom h rfl).name

theorem exists_compileHost_eq_ok_iff :
    (∃ host, compileHost common entry = .ok host) ↔ HostFits common.defaults entry := by
  constructor
  · rintro ⟨host, h⟩
    obtain ⟨parts, hparts, hservices, -⟩ := compileHost_eq_ok_iff.mp h
    have hread := HostEntry.ofFields_withDefaults_eq_ok_iff.mp hparts
    refine ⟨isHostEntry_effective_iff.mpr ⟨parts, hparts⟩, ?_, ?_⟩
    · rintro _ hlists
      obtain rfl := (services_of_readFrom hread).mp hlists
      exact (exists_mapM_compileService_eq_ok_iff _).mp ⟨_, hservices⟩
    · rintro _ hlists
      obtain rfl := (services_of_readFrom hread).mp hlists
      exact (exists_ofList_eq_ok_iff (entryNames_services hservices)).mp
        ⟨host.services, Roster.ofList_eq_ok_iff.mpr rfl⟩
  · rintro ⟨hfields, hfit, hdistinct⟩
    obtain ⟨parts, hparts⟩ := isHostEntry_effective_iff.mp hfields
    have hlists := (HostEntry.ofFields_withDefaults_eq_ok_iff.mp hparts).services
    obtain ⟨services, hservices⟩ :=
      (exists_mapM_compileService_eq_ok_iff common.base).mpr (hfit _ hlists)
    obtain ⟨roster, hroster⟩ :=
      (exists_ofList_eq_ok_iff (entryNames_services hservices)).mpr (hdistinct _ hlists)
    obtain rfl := Roster.ofList_eq_ok_iff.mp hroster
    exact ⟨⟨_, _, _, roster, _, _, _⟩, compileHost_eq_ok_iff.mpr ⟨parts, hparts, hservices, rfl⟩⟩

theorem compileHost_eq_error_iff :
    compileHost common entry = .error e ↔ HostProblem common.defaults entry e := by
  simp only [compileHost, bind_eq_error_iff, mapError_eq_error_iff, mapError_eq_ok_iff]
  constructor
  · rintro (⟨cause, hcause, rfl⟩ | ⟨parts, hparts, h⟩)
    · refine .fields (fun hfields => ?_) hcause
      obtain ⟨parts, hparts⟩ := isHostEntry_effective_iff.mp hfields
      rw [hcause] at hparts
      cases hparts
    have hfields := isHostEntry_effective_iff.mpr ⟨parts, hparts⟩
    have hread := HostEntry.ofFields_withDefaults_eq_ok_iff.mp hparts
    rcases h with hservices | ⟨services, hservices, ⟨n, hn, rfl⟩ | ⟨_, _, h⟩⟩
    · obtain ⟨front, service, back, hsplit, hfirst, hservice⟩ := mapM_eq_error_iff.mp hservices
      simp only [exists_compileService_eq_ok_iff, compileService_eq_error_iff] at hfirst hservice
      exact .service hfields ((services_of_readFrom hread).mpr hsplit.symm) hfirst hservice
    · exact .repeated hfields hread.services
        ((exists_mapM_compileService_eq_ok_iff _).mp ⟨_, hservices⟩) hread.name
        ((ofList_eq_error_iff (entryNames_services hservices)).mp hn)
    · cases h
  · intro h
    cases h with
    | fields _ hcause => exact .inl ⟨_, hcause, rfl⟩
    | service hfields hservices hfirst hservice =>
      obtain ⟨parts, hparts⟩ := isHostEntry_effective_iff.mp hfields
      have hread := HostEntry.ofFields_withDefaults_eq_ok_iff.mp hparts
      refine .inr ⟨parts, hparts, .inl (mapM_eq_error_iff.mpr ?_)⟩
      simp only [exists_compileService_eq_ok_iff, compileService_eq_error_iff]
      exact ⟨_, _, _, ((services_of_readFrom hread).mp hservices).symm, hfirst, hservice⟩
    | repeated hfields hlists hfit hhost hname =>
      obtain ⟨parts, hparts⟩ := isHostEntry_effective_iff.mp hfields
      have hread := HostEntry.ofFields_withDefaults_eq_ok_iff.mp hparts
      obtain rfl := (services_of_readFrom hread).mp hlists
      obtain rfl : _ = parts.name := by simpa [hhost] using hread.name
      obtain ⟨services, hservices⟩ :=
        (exists_mapM_compileService_eq_ok_iff common.base).mpr hfit
      have hrepeated := (ofList_eq_error_iff (entryNames_services hservices)).mpr hname
      exact .inr ⟨parts, hparts, .inr ⟨services, hservices, .inl ⟨_, hrepeated, rfl⟩⟩⟩

/-! ### Hooks -/

theorem exists_compileHooks_eq_ok_iff (base : String) {hooks : Fields} :
    (∃ compiled, compileHooks base hooks = .ok compiled) ↔ ∀ event, ¬ IsBadHook hooks event := by
  simp only [compileHooks_eq_ok_iff, exists_and_left, exists_eq, and_true, isBadHook_iff,
    Dict.get?_eq_some_iff, not_exists, not_and, Bool.not_eq_false]
  exact ⟨fun hall event v hv => hall _ hv, fun hall e he => hall e.1 e.2 he⟩

theorem compileHooks_eq_error_iff {hooks : Fields} :
    compileHooks base hooks = .error e ↔
      ∃ event, IsBadHook hooks event ∧
        (∀ earlier, earlier < event → ¬ IsBadHook hooks earlier) ∧ e = .invalidHook event := by
  simp only [isBadHook_iff]
  exact checkEntries_eq_error_iff

/-! ### Documents -/

variable {doc : Document} {around : Surroundings}

theorem exists_mapM_compileHost_eq_ok_iff (common : Common) {entries : List Fields} :
    (∃ hosts, entries.mapM (compileHost common) = .ok hosts) ↔
      ∀ entry ∈ entries, HostFits common.defaults entry := by
  simp only [exists_mapM_eq_ok_iff, exists_compileHost_eq_ok_iff]

theorem entryNames_hosts {entries : List Fields} {hosts : List Host}
    (h : entries.mapM (compileHost common) = .ok hosts) :
    entryNames common.defaults.hosts entries = (hosts.map name).map fun n => some (.string n) :=
  entryNames_eq_map_name h fun _ _ h => (compileHost_comesFrom h rfl).name

theorem filled_eq_none_iff {text : Option String} :
    filled text = none ↔ ∀ s, text = some s → s = "" := by
  simp [filled]

variable {normal : String}

theorem exists_compile_eq_ok_iff (hbase : around.absolute base = .ok normal) :
    (∃ c, doc.compile base around = .ok c) ↔ doc.IsWellFormed := by
  constructor
  · rintro ⟨c, h⟩
    obtain ⟨_, -, henv, -, hhooks, hhosts⟩ := compile_eq_ok_iff.mp h
    refine ⟨⟨_, filled_eq_some_iff.mp henv⟩, ?_, ?_, ?_⟩
    · exact (exists_compileHooks_eq_ok_iff _).mp ⟨_, hhooks⟩
    · exact (exists_mapM_compileHost_eq_ok_iff _).mp ⟨_, hhosts⟩
    · exact (exists_ofList_eq_ok_iff (entryNames_hosts hhosts)).mp
        ⟨c.hosts, Roster.ofList_eq_ok_iff.mpr rfl⟩
  · rintro ⟨⟨name, hnamed⟩, hhooks, hfit, hdistinct⟩
    obtain ⟨hooks, hhooks⟩ := (exists_compileHooks_eq_ok_iff normal).mpr hhooks
    obtain ⟨hosts, hhosts⟩ := (exists_mapM_compileHost_eq_ok_iff {
      base := normal, home := around.home, defaults := doc.defaults, environment := name, hooks
      app := ⟨doc.app.name, Path.resolve normal doc.app.path⟩ }).mpr hfit
    obtain ⟨roster, hroster⟩ :=
      (exists_ofList_eq_ok_iff (entryNames_hosts hhosts)).mpr hdistinct
    obtain rfl := Roster.ofList_eq_ok_iff.mp hroster
    exact ⟨⟨_, name, roster, hooks⟩, compile_eq_ok_iff.mpr ⟨normal, hbase,
      filled_eq_some_iff.mpr hnamed, rfl, hhooks, hhosts⟩⟩

theorem compile_eq_error_iff (hbase : around.absolute base = .ok normal) :
    doc.compile base around = .error e ↔ doc.FirstProblem e := by
  rw [compile, hbase]
  simp only [bind_eq_error_iff, Except.ok.injEq, reduceCtorEq, exists_eq_left', false_or]
  cases henv : filled doc.environment with
  | none =>
    have hunnamed := filled_eq_none_iff.mp henv
    simp only [Except.error.injEq]
    constructor
    · rintro rfl
      exact .environment hunnamed
    · intro h
      cases h with
      | environment => rfl
      | hook hnamed => exact absurd (hunnamed _ hnamed.1) hnamed.2
      | host hnamed => exact absurd (hunnamed _ hnamed.1) hnamed.2
      | repeated hnamed => exact absurd (hunnamed _ hnamed.1) hnamed.2
  | some name =>
    have hnamed := filled_eq_some_iff.mp henv
    simp only [bind_eq_error_iff, mapError_eq_error_iff, mapError_eq_ok_iff]
    constructor
    · rintro (hhooks | ⟨hooks, hhooks, hhosts | ⟨hosts, hhosts, ⟨host, hhost, rfl⟩ | ⟨_, _, h⟩⟩⟩)
      · obtain ⟨event, hevent, hfirst, rfl⟩ := compileHooks_eq_error_iff.mp hhooks
        exact .hook hnamed hevent hfirst
      · obtain ⟨front, entry, back, hsplit, hfirst, hentry⟩ := mapM_eq_error_iff.mp hhosts
        simp only [exists_compileHost_eq_ok_iff, compileHost_eq_error_iff] at hfirst hentry
        exact .host hnamed ((exists_compileHooks_eq_ok_iff _).mp ⟨_, hhooks⟩) hsplit hfirst hentry
      · exact .repeated hnamed ((exists_compileHooks_eq_ok_iff _).mp ⟨_, hhooks⟩)
          ((exists_mapM_compileHost_eq_ok_iff _).mp ⟨_, hhosts⟩)
          ((ofList_eq_error_iff (entryNames_hosts hhosts)).mp hhost)
      · cases h
    · intro h
      cases h with
      | environment hunnamed => exact absurd (hunnamed _ hnamed.1) hnamed.2
      | hook _ hevent hfirst =>
        exact .inl (compileHooks_eq_error_iff.mpr ⟨_, hevent, hfirst, rfl⟩)
      | host _ hhooks hsplit hfirst hentry =>
        obtain ⟨hooks, hhooks⟩ := (exists_compileHooks_eq_ok_iff _).mpr hhooks
        refine .inr ⟨hooks, hhooks, .inl (mapM_eq_error_iff.mpr ?_)⟩
        simp only [exists_compileHost_eq_ok_iff, compileHost_eq_error_iff]
        exact ⟨_, _, _, hsplit, hfirst, hentry⟩
      | repeated _ hhooks hfit hhost =>
        obtain ⟨hooks, hhooks⟩ := (exists_compileHooks_eq_ok_iff _).mpr hhooks
        obtain ⟨hosts, hhosts⟩ := (exists_mapM_compileHost_eq_ok_iff {
          base := normal, home := around.home, defaults := doc.defaults, environment := name, hooks
          app := ⟨doc.app.name, Path.resolve normal doc.app.path⟩ }).mpr hfit
        have hrepeated := (ofList_eq_error_iff (entryNames_hosts hhosts)).mpr hhost
        exact .inr ⟨hooks, hhooks, .inr ⟨hosts, hhosts, .inl ⟨_, hrepeated, rfl⟩⟩⟩

theorem absolute_of_isAbsolute (hbase : Path.isAbsolute base = true) :
    around.absolute base = .ok (Path.normalize base) :=
  if_pos hbase

/-- The well-formed documents compile, and of every other document the first problem is the one
that is reported. -/
theorem compile_exact (doc : Document) (around : Surroundings) {base : String}
    (hbase : Path.isAbsolute base = true) :
    ((∃ c, doc.compile base around = .ok c) ↔ doc.IsWellFormed) ∧
      ∀ e, doc.compile base around = .error e ↔ doc.FirstProblem e :=
  ⟨exists_compile_eq_ok_iff (absolute_of_isAbsolute hbase),
    fun _ => compile_eq_error_iff (absolute_of_isAbsolute hbase)⟩

end Rollout.Document

namespace Rollout

/-- A document with two hosts of one name, before a host whose port is text. -/
def brokenDocument : Document where
  app := ⟨"shop", "/srv/shop"⟩
  environment := some "staging"
  defaults := ⟨.ofList [("username", .string "deploy")], ∅⟩
  hosts := [
    .ofList [("name", .string "a.example.com"), ("services", .array [])],
    .ofList [("name", .string "a.example.com"), ("port", .ofNat 22)],
    .ofList [("name", .string "b.example.com"), ("port", .string "ssh")]]
  hooks := .ofList [("--comment", .ofNat 1), ("deploy", .string "run.sh")]

/-- The port is the first problem, since the names of the hosts come last. -/
theorem brokenDocument_firstProblem :
    ¬ brokenDocument.IsWellFormed ∧
      brokenDocument.FirstProblem (.schema .host (.wrongKind (.string "ssh") .port)) ∧
      ¬ brokenDocument.FirstProblem (.duplicateHost "a.example.com") := by
  have hcompile : brokenDocument.compile "/srv/deploy" ⟨some "/", "/home/me"⟩ =
      .error (.schema .host (.wrongKind (.string "ssh") .port)) := by rfl
  obtain ⟨hwell, hproblem⟩ :=
    Document.compile_exact brokenDocument ⟨some "/", "/home/me"⟩
      (by decide : Path.isAbsolute "/srv/deploy" = true)
  rw [← hwell, ← hproblem, ← hproblem, hcompile]
  simp

end Rollout
