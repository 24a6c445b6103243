import Rollout.Document.Compile
import Rollout.Proofs.Dict
import Rollout.Proofs.Except
import Rollout.Proofs.Roster

/-!
# When documents compile

Each part of a document means something exactly if it can be read and its own parts mean
something; what it means is then determined by them. The equivalences here say this part by part,
without the order in which problems are reported.

## Main results

* `Document.compileService_eq_ok_iff`, `Document.compileHost_eq_ok_iff`,
  `Document.compileHooks_eq_ok_iff`, `Document.compile_eq_ok_iff` — what the parts of a document
  mean
-/

namespace Rollout.Document

variable {base : String} {shared entry : Fields}

/-- A check of all entries, which gives the key of the first bad one as a problem, passes exactly
if there is none. -/
private theorem checkEntries_eq_ok_iff {α : Type} {entries : List (String × Json)}
    {good : Json → Bool} {problem : String → ConfigError} {value a : α} :
    (match entries.find? fun e => !good e.2 with
      | some (key, _) => Except.error (problem key)
      | none => .ok value) = .ok a ↔
      (∀ e ∈ entries, good e.2 = true) ∧ a = value := by
  cases hbad : entries.find? fun e => !good e.2 with
  | none =>
    have hall := List.find?_eq_none.mp hbad
    simp only [Except.ok.injEq]
    constructor
    · rintro rfl
      exact ⟨by simpa using hall, rfl⟩
    · rintro ⟨-, rfl⟩
      rfl
  | some e =>
    have hmem := List.mem_of_find?_eq_some hbad
    have hwrong := List.find?_some hbad
    simp only [reduceCtorEq, false_iff]
    rintro ⟨hall, -⟩
    simp [hall e hmem] at hwrong

/-- A check of all entries fails at the bad one with the least key. -/
theorem checkEntries_eq_error_iff {α : Type} {d : Fields} {good : Json → Bool}
    {problem : String → ConfigError} {value : α} {e : ConfigError} :
    (match d.entries.find? fun e => !good e.2 with
      | some (key, _) => Except.error (problem key)
      | none => .ok value) = .error e ↔
      ∃ key, (∃ v, d.get? key = some v ∧ good v = false) ∧
        (∀ earlier, earlier < key → ¬ ∃ v, d.get? earlier = some v ∧ good v = false) ∧
        e = problem key := by
  cases hbad : d.entries.find? fun e => !good e.2 with
  | none =>
    have hall := List.find?_eq_none.mp hbad
    simp only [reduceCtorEq, false_iff]
    rintro ⟨key, ⟨v, hv, hwrong⟩, -⟩
    exact hall _ (Dict.get?_eq_some_iff.mp hv) (by simp [hwrong])
  | some found =>
    obtain ⟨key, v⟩ := found
    obtain ⟨hv, hwrong, hleast⟩ :=
      Dict.find?_entries_eq_some_iff (p := fun v => !good v) |>.mp hbad
    have hleast : ∀ earlier, earlier < key →
        ¬ ∃ v, d.get? earlier = some v ∧ good v = false := by
      rintro earlier hlt ⟨v', hv', hwrong'⟩
      simpa [hwrong'] using hleast earlier v' hlt hv'
    simp only [Except.error.injEq]
    constructor
    · rintro rfl
      exact ⟨key, ⟨v, hv, by simpa using hwrong⟩, hleast, rfl⟩
    · rintro ⟨key', hkey', hleast', rfl⟩
      -- both keys are the least bad one
      rcases Std.lt_trichotomy key key' with hlt | rfl | hlt
      · exact absurd ⟨v, hv, by simpa using hwrong⟩ (hleast' key hlt)
      · rfl
      · exact absurd hkey' (hleast key' hlt)

/-- What the variables of a service are merged from has to be variables. -/
theorem mergedVariables_eq_ok_iff {name : String} {own inherited : Option Json}
    {env : Dict String} :
    mergedVariables name own inherited = .ok env ↔
      (∀ e ∈ (withDefaults (membersOf own) (membersOf inherited)).entries,
        isVariable e.2 = true) ∧
      env = (withDefaults (membersOf own) (membersOf inherited)).filterMap
        fun _ v => variableText v :=
  checkEntries_eq_ok_iff

/-- What a service entry means. -/
theorem compileService_eq_ok_iff {service : Service} :
    compileService base shared entry = .ok service ↔
      ∃ parts, ServiceEntry.ofFields ((withDefaults entry shared).erase "env") = .ok parts ∧
        mergedVariables parts.name ((withDefaults entry shared).get? "env") (shared.get? "env") =
          .ok service.env ∧
        service.name = parts.name ∧
        service.settingsPath = (filled parts.settingsPath).map (Path.resolve base) := by
  simp only [compileService, bind_eq_ok_iff, mapError_eq_ok_iff]
  constructor
  · rintro ⟨parts, hparts, env, henv, h⟩
    cases h
    exact ⟨parts, hparts, henv, rfl, rfl⟩
  · rintro ⟨parts, hparts, henv, hname, hpath⟩
    refine ⟨parts, hparts, service.env, henv, ?_⟩
    rw [← hname, ← hpath]
    rfl

/-- What a host entry means. -/
theorem compileHost_eq_ok_iff {common : Common} {host : Host} :
    compileHost common entry = .ok host ↔
      ∃ parts, HostEntry.ofFields (withDefaults entry common.defaults.hosts) = .ok parts ∧
        parts.services.mapM (compileService common.base common.defaults.services) =
          .ok host.services.toList ∧
        host = {
          name := parts.name
          shortName := (filled parts.shortName).getD (Host.defaultShortName parts.name)
          credentials := {
            username := parts.username
            password := parts.password
            pem := parts.pem.map (Path.expandHome common.home)
            port := parts.port }
          services := host.services
          environment := common.environment
          app := common.app
          hooks := common.hooks } := by
  simp only [compileHost, bind_eq_ok_iff, mapError_eq_ok_iff, Roster.ofList_eq_ok_iff]
  constructor
  · rintro ⟨parts, hparts, services, hservices, roster, hroster, h⟩
    cases h
    exact ⟨parts, hparts, hroster ▸ hservices, rfl⟩
  · rintro ⟨parts, hparts, hservices, hhost⟩
    refine ⟨parts, hparts, _, hservices, host.services, rfl, ?_⟩
    rw [hhost]
    rfl

/-- Hooks mean something exactly if each but the notes can be a hook. -/
theorem compileHooks_eq_ok_iff {hooks : Fields} {compiled : Hooks} :
    compileHooks base hooks = .ok compiled ↔
      (∀ e ∈ (hooks.erase commentKey).entries, isHook e.2 = true) ∧
        compiled = (hooks.erase commentKey).filterMap fun _ v => hookScript base v :=
  checkEntries_eq_ok_iff

/-- What a document means. -/
theorem compile_eq_ok_iff {doc : Document} {dir : String} {around : Surroundings} {c : Config} :
    doc.compile dir around = .ok c ↔
      ∃ base, around.absolute dir = .ok base ∧ filled doc.environment = some c.environment ∧
        c.app = ⟨doc.app.name, Path.resolve base doc.app.path⟩ ∧
        compileHooks base doc.hooks = .ok c.hooks ∧
        doc.hosts.mapM (compileHost {
          base, home := around.home, defaults := doc.defaults, environment := c.environment,
          app := c.app, hooks := c.hooks }) = .ok c.hosts.toList := by
  simp only [compile, bind_eq_ok_iff]
  constructor
  · rintro ⟨base, hbase, h⟩
    cases henv : filled doc.environment with
    | none => simp [henv] at h
    | some environment =>
      simp only [henv, bind_eq_ok_iff, mapError_eq_ok_iff, Roster.ofList_eq_ok_iff] at h
      obtain ⟨hooks, hhooks, hosts, hhosts, roster, hroster, h⟩ := h
      cases h
      exact ⟨base, hbase, rfl, rfl, hhooks, hroster ▸ hhosts⟩
  · rintro ⟨base, hbase, henv, happ, hhooks, hhosts⟩
    refine ⟨base, hbase, ?_⟩
    simp only [henv, bind_eq_ok_iff, mapError_eq_ok_iff, Roster.ofList_eq_ok_iff]
    rw [← happ]
    exact ⟨c.hooks, hhooks, _, hhosts, c.hosts, rfl, rfl⟩

end Rollout.Document
