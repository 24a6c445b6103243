import Rollout.Proofs.Config.Compiled
import Rollout.Proofs.Document.Entries

/-!
# Where configurations come from

Every part of a configuration comes from one place in the document that it is compiled from. The
hosts are those of the document, one for one and in order, and so are the services of each host;
their fields are what counts for their entries. A field that is `null` counts, as nothing, and so
does an empty alias or an empty path, unlike a field that is left out.

## Main definitions

* `Service.ComesFrom`, `Host.ComesFrom`, `Config.ComesFrom` — what the parts of a configuration
  have to do with the document

## Main results

* `Document.comesFrom_of_compile` — the configuration that a document means comes from it
-/

namespace Rollout

open Document (effective)

variable {base home : String}

/-- A service has the name that counts for its entry, and a settings file exactly if the path that
counts is one. -/
structure Service.ComesFrom (base : String) (shared entry : Fields) (s : Service) : Prop where
  name : effective shared entry "name" = some (.string s.name)
  settingsPath : ∀ path, s.settingsPath = some path ↔
    ∃ raw, raw ≠ "" ∧ effective shared entry "settingsPath" = some (.string raw) ∧
      path = Path.resolve base raw

/-- A host has the fields that count for its entry, an alias of its own only if that is not empty,
and the services that count in their order. -/
structure Host.ComesFrom (base home : String) (defaults : Document.Defaults) (entry : Fields)
    (h : Host) : Prop where
  name : effective defaults.hosts entry "name" = some (.string h.name)
  username :
    (effective defaults.hosts entry "username").getD .null = .ofOption h.credentials.username
  password :
    (effective defaults.hosts entry "password").getD .null = .ofOption h.credentials.password
  port : (effective defaults.hosts entry "port").getD .null = .ofPort h.credentials.port
  pem : ∃ raw, (effective defaults.hosts entry "pem").getD .null = .ofOption raw ∧
    h.credentials.pem = raw.map (Path.expandHome home)
  ownAlias : ∀ text, effective defaults.hosts entry "shortName" = some (.string text) →
    text ≠ "" → h.shortName = text
  defaultAlias : (∀ text, effective defaults.hosts entry "shortName" = some (.string text) →
    text = "") → h.shortName = Host.defaultShortName h.name
  services : ∃ entries,
    ((effective defaults.hosts entry "services").getD (.array [])).Lists entries ∧
      List.Forall₂ (Service.ComesFrom base defaults.services) entries h.services.toList

/-- A configuration has the environment and the application of the document, a script for each
event for which the document has a path, and the hosts of the document in their order, which all
carry what the configuration has in common. -/
structure Config.ComesFrom (base home : String) (doc : Document) (c : Config) : Prop where
  environment : doc.environment = some c.environment
  app : c.app = ⟨doc.app.name, Path.resolve base doc.app.path⟩
  hooks : ∀ event script, c.hooks.get? event = some script ↔
    event ≠ Document.commentKey ∧ ∃ raw, raw ≠ "" ∧ doc.hooks.get? event = some (.string raw) ∧
      script = Path.resolve base raw
  hosts : List.Forall₂ (Host.ComesFrom base home doc.defaults) doc.hosts c.hosts.toList
  carried : ∀ h ∈ c.hosts.toList,
    h.environment = c.environment ∧ h.app = c.app ∧ h.hooks = c.hooks

namespace Document

/-! ### The parts of documents

Paths are resolved against the normal form of the directory of the document, which makes no
difference to what they are resolved to. -/

variable {normal : String}

theorem map_filled_eq_some_iff {text : Option String} {f : String → String} {path : String} :
    (filled text).map f = some path ↔ ∃ raw, raw ≠ "" ∧ text = some raw ∧ path = f raw := by
  rw [Option.map_eq_some_iff]
  constructor
  · rintro ⟨raw, hraw, rfl⟩
    obtain ⟨htext, hne⟩ := filled_eq_some_iff.mp hraw
    exact ⟨raw, hne, htext, rfl⟩
  · rintro ⟨raw, hne, htext, rfl⟩
    exact ⟨raw, filled_eq_some_iff.mpr ⟨htext, hne⟩, rfl⟩

theorem compileService_comesFrom {shared entry : Fields} {service : Service}
    (h : compileService normal shared entry = .ok service)
    (hsame : Path.resolve normal = Path.resolve base) :
    service.ComesFrom base shared entry := by
  obtain ⟨parts, hparts, -, hname, hpath⟩ := compileService_eq_ok_iff.mp h
  have hread := ServiceEntry.ofFields_erase_eq_ok_iff.mp hparts
  constructor
  · rw [hname]
    exact hread.name
  · intro path
    rw [hpath, hsame, map_filled_eq_some_iff]
    simp only [Json.eq_some_iff_of_getD_eq_ofOption hread.settingsPath]

theorem compileHost_comesFrom {common : Common} {entry : Fields} {host : Host}
    (h : compileHost common entry = .ok host)
    (hsame : Path.resolve common.base = Path.resolve base) :
    host.ComesFrom base common.home common.defaults entry := by
  obtain ⟨parts, hparts, hservices, hhost⟩ := compileHost_eq_ok_iff.mp h
  have hread := HostEntry.ofFields_withDefaults_eq_ok_iff.mp hparts
  have halias {text : String} := Json.eq_some_iff_of_getD_eq_ofOption hread.shortName (s := text)
  rw [hhost]
  constructor
  · exact hread.name
  · exact hread.username
  · exact hread.password
  · exact hread.port
  · exact ⟨parts.pem, hread.pem, rfl⟩
  · intro text htext hne
    have hfilled : filled parts.shortName = some text :=
      filled_eq_some_iff.mpr ⟨halias.mpr htext, hne⟩
    simp only [hfilled, Option.getD_some]
  · intro hempty
    have hfilled : filled parts.shortName = none := by
      rw [Option.eq_none_iff_forall_ne_some]
      intro text htext
      obtain ⟨htext, hne⟩ := filled_eq_some_iff.mp htext
      exact hne (hempty text (halias.mp htext))
    simp only [hfilled, Option.getD_none]
  · exact ⟨parts.services, hread.services,
      (mapM_eq_ok_iff.mp hservices).imp fun _ _ h => compileService_comesFrom h hsame⟩

theorem hookScript_eq_some_iff {v : Json} {script : String} :
    hookScript base v = some script ↔
      ∃ raw, raw ≠ "" ∧ v = .string raw ∧ script = Path.resolve base raw := by
  unfold hookScript
  split
  · rename_i s
    by_cases hs : s = ""
    · simp [hs]
    · simp [hs, @eq_comm _ script]
  · rename_i hstring
    simp only [reduceCtorEq, false_iff, not_exists, not_and]
    exact fun raw _ hv => absurd hv (hstring raw)

theorem get?_compileHooks {hooks : Fields} {compiled : Hooks}
    (h : compileHooks base hooks = .ok compiled) (event script : String) :
    compiled.get? event = some script ↔
      event ≠ commentKey ∧ ∃ raw, raw ≠ "" ∧ hooks.get? event = some (.string raw) ∧
        script = Path.resolve base raw := by
  obtain ⟨-, rfl⟩ := compileHooks_eq_ok_iff.mp h
  rw [Dict.get?_filterMap, Dict.get?_erase]
  by_cases hnote : commentKey = event
  · simp [hnote]
  · simp only [if_neg hnote, Option.bind_eq_some_iff, hookScript_eq_some_iff, ne_eq,
      Ne.symm hnote, not_false_eq_true, true_and]
    constructor
    · rintro ⟨v, hv, raw, hne, rfl, hscript⟩
      exact ⟨raw, hne, hv, hscript⟩
    · rintro ⟨raw, hne, hv, hscript⟩
      exact ⟨_, hv, raw, hne, rfl, hscript⟩

/-! ### Documents -/

/-- The configuration that a document means comes from the document, with its paths resolved
against the directory of the document. -/
theorem comesFrom_of_compile {doc : Document} {around : Surroundings} {c : Config}
    (hbase : Path.isAbsolute base = true) (h : doc.compile base around = .ok c) :
    c.ComesFrom base around.home doc := by
  obtain ⟨normal, hnormal, henv, happ, hhooks, hhosts⟩ := compile_eq_ok_iff.mp h
  have hsame : Path.resolve normal = Path.resolve base := by
    rw [Surroundings.absolute, if_pos hbase] at hnormal
    cases hnormal
    exact funext (Path.resolve_normalize hbase)
  constructor
  · exact (filled_eq_some_iff.mp henv).1
  · rw [happ, hsame]
  · intro event script
    rw [get?_compileHooks hhooks, hsame]
  · refine (mapM_eq_ok_iff.mp hhosts).imp fun entry host hentry => ?_
    exact compileHost_comesFrom hentry hsame
  · intro host hhost
    obtain ⟨entry, -, hentry⟩ := exists_of_mem_of_mapM hhosts hhost
    obtain ⟨parts, -, -, hcommon⟩ := compileHost_eq_ok_iff.mp hentry
    rw [hcommon]
    exact ⟨rfl, rfl, rfl⟩

end Document

/-- A document whose hosts share a user name, a port and a service. One host takes the user name
away and has an empty alias, the other has services of its own. -/
def pairDocument : Document where
  app := ⟨"shop", "./app/../app"⟩
  environment := some "staging"
  defaults := ⟨.ofList [("port", .ofNat 22), ("username", .string "deploy"),
      ("services", .array [.ofMembers [("name", .string "web")]])],
    .ofList [("settingsPath", .string "common.json")]⟩
  hosts := [
    .ofList [("name", .string "a.example.com"), ("shortName", .string ""), ("username", .null),
      ("pem", .string "~/a.pem")],
    .ofList [("name", .string "b.example.com"), ("shortName", .string "second"),
      ("services", .array [.ofMembers [("name", .string "api"), ("settingsPath", .null)],
        .ofMembers [("name", .string "worker"), ("settingsPath", .string "/etc/worker.json")]])]]
  hooks := .ofList [("--comment", .ofNat 1), ("deploy", .string "../run.sh"), ("stop", .string "")]

/-- Where the configuration of the pair comes from, and what this makes of its second host. -/
theorem pairDocument_comesFrom :
    ∃ c, pairDocument.compile "/srv/./deploy" ⟨some "/", "/home/me"⟩ = .ok c ∧
      c.ComesFrom "/srv/./deploy" "/home/me" pairDocument ∧
      c.hosts.toList.map (fun h => (h.shortName, h.credentials.username, h.credentials.pem)) =
        [("a", none, some "/home/me/a.pem"), ("second", some "deploy", none)] := by
  obtain ⟨c, hcompiles, hhosts⟩ : ∃ c,
      pairDocument.compile "/srv/./deploy" ⟨some "/", "/home/me"⟩ = .ok c ∧
      c.hosts.toList.map (fun h => (h.shortName, h.credentials.username, h.credentials.pem)) =
        [("a", none, some "/home/me/a.pem"), ("second", some "deploy", none)] :=
    ⟨_, rfl, rfl⟩
  exact ⟨c, hcompiles, Document.comesFrom_of_compile (by decide) hcompiles, hhosts⟩

end Rollout
