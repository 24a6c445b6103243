import Rollout.Config.View
import Rollout.Document.OfJson
import Rollout.Proofs.Config.Compiled
import Rollout.Workspace

/-!
# Compiling what is shown

A configuration is shown as a document that means the same. Read back and compiled in any working
directory, it gives the configuration again, without what is not shown: how to log in at a host,
apart from the user name. So what is shown of the result is what was shown before.

## Main definitions

* `Config.shown` — the document that a configuration is shown as
* `Host.redacted`, `Config.redacted` — a configuration without what is not shown

## Main results

* `Document.ofJson_toJson` — what is shown of a configuration is read as `Config.shown`
* `Config.compile_shown`, `Config.configOfJson_toJson` — what is shown of a compiled configuration
  compiles to it, redacted
* `Config.recompile_view` — the same for any configuration that a document means
-/

namespace Rollout

open Document (ServiceEntry HostEntry compileService compileHost compileHooks)

/-! ### The document that is shown -/

/-- A service as the fields of its entry. -/
def Service.shown (s : Service) : Fields :=
  .ofList [("env", .ofStrings s.env), ("name", .string s.name),
    ("settingsPath", .ofOption s.settingsPath)]

/-- A host as the fields of its entry. -/
def Host.shown (h : Host) : Fields :=
  .ofList [("name", .string h.name), ("services", .array (h.services.map Service.toJson)),
    ("shortName", .string h.shortName), ("username", .ofOption h.credentials.username)]

/-- A configuration as a document. -/
def Config.shown (c : Config) : Document where
  app := ⟨c.app.name, c.app.path⟩
  environment := some c.environment
  defaults := .blank
  hosts := c.hosts.map Host.shown
  hooks := c.hooks.map .string

/-- A host without what is not shown of how to log in. -/
def Host.redacted (h : Host) : Host :=
  { h with credentials := { h.credentials with password := none, pem := none, port := none } }

/-- A configuration without what is not shown of how to log in at its hosts. -/
def Config.redacted (c : Config) : Config :=
  { c with hosts := ⟨c.hosts.map Host.redacted, by
      have hnames : (c.hosts.map Host.redacted).map name = c.hosts.toList.map name := by
        simp [Roster.map, Function.comp_def, name, Host.redacted]
      rw [hnames]
      exact c.hosts.nodup⟩ }

/-- Nothing of what is cleared is shown. -/
theorem Config.toJson_redacted (c : Config) : c.redacted.toJson = c.toJson := by
  simp only [toJson, redacted, Roster.map, List.map_map]
  rfl

/-! ### Reading it back -/

theorem Json.asFields_ofDict (d : Fields) : asFields (ofDict d) = .ok d := by
  simp [asFields, ofDict]

theorem Json.asOptionalString_ofOption (o : Option String) :
    asOptionalString (ofOption o) = .ok o := by
  cases o <;> rfl

theorem Json.asFieldsList_array {α : Type} {xs : List α} {toJson : α → Json} {shown : α → Fields}
    (h : ∀ x ∈ xs, toJson x = ofDict (shown x)) :
    asFieldsList (.array (xs.map toJson)) = .ok (xs.map shown) := by
  apply mapM_map_eq_ok
  intro x hx
  rw [h x hx, asFields_ofDict]

/-! Fields that hold what is written. -/

theorem Json.readField?_of_get? {α : Type} {fields : Fields} {key : String} {v : Json} {a : α}
    {read : Json → Except Mismatch α} (h : fields.get? key = some v) (hread : read v = .ok a) :
    readField? fields key read = .ok (some a) := by
  simp [readField?, h, hread, Except.map]

theorem Json.readField?_of_get?_eq_none {α : Type} {fields : Fields} {key : String}
    {read : Json → Except Mismatch α} (h : fields.get? key = none) :
    readField? fields key read = .ok none := by
  simp [readField?, h]

theorem Json.readField?_string {fields : Fields} {key text : String}
    (h : fields.get? key = some (.string text)) :
    readField? fields key asString = .ok (some text) :=
  readField?_of_get? h rfl

theorem Json.readField?_option {fields : Fields} {key : String} {o : Option String}
    (h : fields.get? key = some (.ofOption o)) :
    readField? fields key asOptionalString = .ok (some o) :=
  readField?_of_get? h (asOptionalString_ofOption o)

namespace Document

open Json (readField?)

theorem ServiceEntry.ofFields_shown (s : Service) :
    ServiceEntry.ofFields (s.shown.erase "env") = .ok ⟨s.name, s.settingsPath⟩ := by
  have hname : readField? (s.shown.erase "env") "name" Json.asString = .ok (some s.name) :=
    Json.readField?_string (by simp [Service.shown, Dict.get?_ofList, Dict.lookup])
  have hpath : readField? (s.shown.erase "env") "settingsPath" Json.asOptionalString =
      .ok (some s.settingsPath) :=
    Json.readField?_option (by simp [Service.shown, Dict.get?_ofList, Dict.lookup])
  simp only [ServiceEntry.ofFields, hname, hpath]
  rfl

theorem HostEntry.ofFields_shown (h : Host) :
    HostEntry.ofFields h.shown = .ok {
      name := h.name
      shortName := some h.shortName
      username := h.credentials.username
      password := none
      pem := none
      port := none
      services := h.services.map Service.shown } := by
  have hget : ∀ key, h.shown.get? key = Dict.lookup key
      [("username", .ofOption h.credentials.username), ("shortName", .string h.shortName),
        ("services", .array (h.services.map Service.toJson)), ("name", .string h.name)] :=
    fun key => Dict.get?_ofList _ key
  have hname : readField? h.shown "name" Json.asString = .ok (some h.name) :=
    Json.readField?_string (by simp [hget, Dict.lookup])
  have hservices : readField? h.shown "services" Json.asFieldsList =
      .ok (some (h.services.map Service.shown)) :=
    Json.readField?_of_get? (by simp [hget, Dict.lookup]; rfl)
      (Json.asFieldsList_array fun _ _ => rfl)
  have hshort : readField? h.shown "shortName" Json.asOptionalString =
      .ok (some (some h.shortName)) :=
    Json.readField?_option (by simp [hget, Dict.lookup, Json.ofOption])
  have husername : readField? h.shown "username" Json.asOptionalString =
      .ok (some h.credentials.username) :=
    Json.readField?_option (by simp [hget, Dict.lookup])
  -- the fields that are not shown are not there
  have habsent : ∀ {α : Type} (read : Json → Except Json.Mismatch α) (key : String),
      key ∈ ["password", "pem", "port"] → readField? h.shown key read = .ok none := by
    intro α read key hkey
    apply Json.readField?_of_get?_eq_none
    simp only [List.mem_cons, List.not_mem_nil, or_false] at hkey
    rcases hkey with rfl | rfl | rfl <;> simp [hget, Dict.lookup]
  have hpassword := habsent Json.asOptionalString "password" (by simp)
  have hpem := habsent Json.asOptionalString "pem" (by simp)
  have hport := habsent Json.asPort "port" (by simp)
  simp only [HostEntry.ofFields, hname, hservices, hshort, husername, hpassword, hpem, hport]
  rfl

theorem App.ofJson_toJson (a : Rollout.App) : App.ofJson a.toJson = .ok ⟨a.name, a.path⟩ := by
  have hname : readField? (.ofList [("name", .string a.name), ("path", .string a.path)]) "name"
      Json.asString = .ok (some a.name) :=
    Json.readField?_string (by simp [Dict.get?_ofList, Dict.lookup])
  have hpath : readField? (.ofList [("name", .string a.name), ("path", .string a.path)]) "path"
      Json.asString = .ok (some a.path) :=
    Json.readField?_string (by simp [Dict.get?_ofList, Dict.lookup])
  simp only [Rollout.App.toJson, Json.ofMembers, Json.ofDict, App.ofJson, Dict.ofList_entries,
    hname, hpath]
  rfl

/-- What is shown of a configuration is read as a document without shared fields. -/
theorem ofJson_toJson (c : Config) : ofJson c.toJson = .ok c.shown := by
  obtain ⟨fields, hfields⟩ : ∃ fields : Fields, fields = .ofList
      [("app", c.app.toJson), ("environment", .string c.environment),
        ("hooks", .ofStrings c.hooks), ("hosts", .array (c.hosts.map Host.toJson))] := ⟨_, rfl⟩
  have hjson : c.toJson = .object fields.entries := by rw [hfields]; rfl
  have hget : ∀ key, fields.get? key = Dict.lookup key
      [("hosts", .array (c.hosts.map Host.toJson)), ("hooks", .ofStrings c.hooks),
        ("environment", .string c.environment), ("app", c.app.toJson)] := by
    intro key
    rw [hfields, Dict.get?_ofList]
    rfl
  have happ : readField? fields "app" App.ofJson = .ok (some ⟨c.app.name, c.app.path⟩) :=
    Json.readField?_of_get? (by simp [hget, Dict.lookup]) (App.ofJson_toJson c.app)
  have hdefaults : readField? fields "defaults" Defaults.ofJson = .ok none :=
    Json.readField?_of_get?_eq_none (by simp [hget, Dict.lookup])
  have henv : readField? fields "environment" Json.asOptionalString =
      .ok (some (some c.environment)) :=
    Json.readField?_option (by simp [hget, Dict.lookup, Json.ofOption])
  have hhooks : readField? fields "hooks" Json.asFields = .ok (some (c.hooks.map .string)) :=
    Json.readField?_of_get? (by simp [hget, Dict.lookup]; rfl) (Json.asFields_ofDict _)
  have hhosts : readField? fields "hosts" Json.asFieldsList =
      .ok (some (c.hosts.map Host.shown)) :=
    Json.readField?_of_get? (by simp [hget, Dict.lookup]; rfl)
      (Json.asFieldsList_array fun _ _ => rfl)
  simp only [hjson, ofJson, Dict.ofList_entries, happ, hdefaults, henv, hhooks, hhosts]
  rfl

/-! ### Compiling it -/

/-- A service compiles to itself, whatever the directory of the document is. -/
theorem compileService_shown {s : Service}
    (hs : ∀ p, s.settingsPath = some p → Path.IsResolved p) (base : String) :
    compileService base ∅ s.shown = .ok s := by
  have henv : s.shown.get? "env" = some (.ofStrings s.env) := by
    simp [Service.shown, Dict.get?_ofList, Dict.lookup]
  have hmembers : withDefaults (membersOf (some (.ofStrings s.env))) (membersOf none) =
      s.env.map .string := by
    simp [membersOf, Json.ofStrings, Json.ofDict, withDefaults]
  refine compileService_eq_ok_iff.mpr ⟨_, ServiceEntry.ofFields_shown s, ?_, rfl, ?_⟩
  · rw [withDefaults, Dict.orElse_empty, henv, Dict.get?_empty, mergedVariables_eq_ok_iff,
      hmembers]
    constructor
    · intro e he
      rw [Dict.entries_map] at he
      obtain ⟨_, -, rfl⟩ := List.mem_map.mp he
      rfl
    · exact (Dict.filterMap_map fun _ _ => rfl).symm
  · cases hpath : s.settingsPath with
    | none => rfl
    | some p =>
      -- an absolute path is not taken for an empty one, and stays where it is
      have hp := hs p hpath
      have hfilled : filled (some p) = some p := filled_eq_some_iff.mpr ⟨rfl, hp.ne_empty⟩
      rw [hfilled, Option.map_some, hp.resolve_eq]

/-- The hooks compile to themselves. -/
theorem compileHooks_shown {hooks : Hooks} (hscripts : ∀ e ∈ hooks.entries, Path.IsResolved e.2)
    (hnotes : hooks.get? commentKey = none) (base : String) :
    compileHooks base (hooks.map .string) = .ok hooks := by
  have hall : (hooks.map Json.string).erase commentKey = hooks.map .string :=
    Dict.erase_eq_self (by rw [Dict.get?_map, hnotes]; rfl)
  rw [compileHooks_eq_ok_iff, hall]
  constructor
  · intro e he
    rw [Dict.entries_map] at he
    obtain ⟨_, -, rfl⟩ := List.mem_map.mp he
    rfl
  · refine (Dict.filterMap_map fun e he => ?_).symm
    have hscript := hscripts e he
    simp [hookScript, hscript.ne_empty, hscript.resolve_eq]

/-- A host of a compiled configuration compiles to itself, redacted. An empty alias is derived
from the name anew, and comes out empty again. -/
theorem compileHost_shown {c : Config} {h : Host} (hc : h.BelongsTo c) (base home : String) :
    compileHost ⟨base, home, .blank, c.environment, c.app, c.hooks⟩ h.shown =
      .ok h.redacted := by
  refine compileHost_eq_ok_iff.mpr ⟨_, HostEntry.ofFields_shown h, ?_, ?_⟩
  · -- shared fields of services are none, so each entry stands for itself
    have hservices := mapM_map_eq_ok (f := compileService base ∅) (e := Service.shown) (g := id)
      fun s hs => compileService_shown (hc.settings s hs) base
    rwa [List.map_id] at hservices
  · have hshort : h.shortName =
        (filled (some h.shortName)).getD (Host.defaultShortName h.name) := by
      by_cases hempty : h.shortName = ""
      · rw [hempty, hc.shortName hempty]
        rfl
      · have hfilled := filled_eq_some_iff.mpr ⟨rfl, hempty⟩
        rw [hfilled, Option.getD_some]
    simp only [Host.redacted, Option.map_none, ← hshort, ← hc.environment, ← hc.app, ← hc.hooks]

end Document

/-- Who stands in a directory that exists knows its path, which starts at the root. -/
theorem Workspace.isAbsolute_surroundings (w : Workspace) : w.surroundings.IsAbsolute := by
  intro dir hdir
  unfold surroundings Standpoint.path? at hdir
  split at hdir
  · cases hdir
    exact Path.isAbsolute_append (by decide) _
  · cases hdir

namespace Config

/-- What is shown of a compiled configuration compiles to the configuration again, redacted. -/
theorem compile_shown {c : Config} (hc : c.IsCompiled) {dir base : String}
    {around : Surroundings} (hbase : around.absolute dir = .ok base) :
    c.shown.compile dir around = .ok c.redacted := by
  refine Document.compile_eq_ok_iff.mpr ⟨base, hbase, ?_, ?_, ?_, ?_⟩
  · exact Document.filled_eq_some_iff.mpr ⟨rfl, hc.environment⟩
  · simp [shown, redacted, hc.app.resolve_eq]
  · exact Document.compileHooks_shown hc.scripts hc.noNotes base
  · exact mapM_map_eq_ok fun h hh => Document.compileHost_shown (hc.hosts h hh) base around.home

/-- The environment of a compiled configuration counts, not the one that would fill in for it. -/
theorem orEnvironment_shown {c : Config} (hc : c.IsCompiled) (fallback : Option String) :
    c.shown.orEnvironment fallback = c.shown := by
  simp [Document.orEnvironment, shown, hc.environment]

/-- What is shown of a compiled configuration means the configuration again, redacted, in any
working directory. -/
theorem configOfJson_toJson {c : Config} (hc : c.IsCompiled) {around : Surroundings} {dir : String}
    (hdir : around.workingDir = some dir) (fallback : Option String) :
    Document.configOfJson c.toJson fallback around = .ok c.redacted := by
  have hworking : around.workingPath = .ok dir := by simp [Surroundings.workingPath, hdir]
  obtain ⟨base, hbase⟩ : ∃ base, around.absolute dir = .ok base := by
    unfold Surroundings.absolute
    split
    · exact ⟨_, rfl⟩
    · exact ⟨_, by rw [hworking]; rfl⟩
  calc
    Document.configOfJson c.toJson fallback around =
        (c.shown.orEnvironment fallback).compile dir around := by
      rw [Document.configOfJson, Document.ofJson_toJson, hworking]
      rfl
    _ = c.shown.compile dir around := by rw [orEnvironment_shown hc]
    _ = .ok c.redacted := compile_shown hc hbase

/-- Showing the configuration that a document means and compiling what is shown, in any working
directory that exists and with any environment to fall back to, gives the configuration without
what is not shown of how to log in; so what is shown of the two is the same. -/
theorem recompile_view {doc : Document} {dir : String} {w w' : Workspace} {c : Config}
    (h : doc.compile dir w.surroundings = .ok c) (hw : w'.workingDir.lost = 0)
    (fallback : Option String) :
    Document.configOfJson c.toJson fallback w'.surroundings = .ok c.redacted ∧
      c.redacted.toJson = c.toJson := by
  have hc : c.IsCompiled := Document.isCompiled_of_compile w.isAbsolute_surroundings h
  obtain ⟨working, hworking⟩ : ∃ working, w'.workingDir.path? = some working := by
    simp [Standpoint.path?, hw]
  exact ⟨configOfJson_toJson hc hworking fallback, c.toJson_redacted⟩

end Config

/-- A document with shared fields, a note among the hooks and a password. -/
def shopDocument : Document where
  app := ⟨"shop", "../app"⟩
  environment := some "production"
  defaults := ⟨.ofList [("username", .string "deploy")], ∅⟩
  hosts := [.ofList [("name", .string "web.example.com"), ("password", .string "secret"),
    ("services", .array [.ofMembers [("name", .string "api"), ("settingsPath", .string "./a")]])]]
  hooks := .ofList [("--comment", .bool true), ("deploy", .string "run.sh")]

/-- A workspace whose working directory is `/site`. -/
def siteWorkspace : Workspace where
  files := .directory [("site", .directory [])]
  workingDir := ⟨["site"], 0⟩
  home := "/"
  deploySetting := none
  colours := false
  ssh := none

/-- The document for the shop compiles, and what is shown of it compiles at the root as well. -/
theorem shopDocument_recompile :
    ∃ c, shopDocument.compile "deploy" siteWorkspace.surroundings = .ok c ∧
      c.app.path = "/site/app" ∧
      Document.configOfJson c.toJson none { siteWorkspace with workingDir := ⟨[], 0⟩ }.surroundings =
        .ok c.redacted := by
  obtain ⟨c, hcompiles, hpath⟩ : ∃ c,
      shopDocument.compile "deploy" siteWorkspace.surroundings = .ok c ∧ c.app.path = "/site/app" :=
    ⟨_, rfl, rfl⟩
  have hroot : ({ siteWorkspace with workingDir := ⟨[], 0⟩ } : Workspace).workingDir.lost = 0 := rfl
  exact ⟨c, hcompiles, hpath, (Config.recompile_view hcompiles hroot none).1⟩

end Rollout
