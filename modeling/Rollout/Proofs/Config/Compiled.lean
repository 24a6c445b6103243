import Rollout.Proofs.Dict
import Rollout.Proofs.Document.Compile
import Rollout.Proofs.Path

/-!
# Compiled configurations

What can be said of a configuration without looking at the document that it comes from: its paths
are resolved, its hosts share the application, the environment and the hooks of the whole, no note
is among the hooks, and the alias of a host is only empty where the default is.

## Main definitions

* `Host.BelongsTo` — a host is one of a compiled configuration
* `Config.IsCompiled` — a configuration is as compilation leaves it

## Main results

* `Document.isCompiled_of_compile` — configurations that documents mean are compiled
-/

namespace Rollout

/-- A host has what all hosts of the configuration have in common, and fields that are filled
in. -/
structure Host.BelongsTo (c : Config) (h : Host) : Prop where
  environment : h.environment = c.environment
  app : h.app = c.app
  hooks : h.hooks = c.hooks
  shortName : h.shortName = "" → Host.defaultShortName h.name = ""
  settings : ∀ s ∈ h.services.toList, ∀ p, s.settingsPath = some p → Path.IsResolved p

/-- A configuration is as compilation leaves it. -/
structure Config.IsCompiled (c : Config) : Prop where
  environment : c.environment ≠ ""
  app : Path.IsResolved c.app.path
  scripts : ∀ e ∈ c.hooks.entries, Path.IsResolved e.2
  noNotes : c.hooks.get? Document.commentKey = none
  hosts : ∀ h ∈ c.hosts.toList, h.BelongsTo c

/-- The directories that a configuration depends on start at the root. -/
def Surroundings.IsAbsolute (around : Surroundings) : Prop :=
  ∀ dir, around.workingDir = some dir → Path.isAbsolute dir = true

theorem Surroundings.IsAbsolute.isAbsolute_working {around : Surroundings} (h : around.IsAbsolute)
    {dir : String} (hworking : around.workingPath = .ok dir) : Path.isAbsolute dir = true := by
  unfold Surroundings.workingPath at hworking
  split at hworking
  · rename_i dir' hdir'
    cases hworking
    exact h _ hdir'
  · cases hworking

theorem Surroundings.IsAbsolute.isAbsolute_base {around : Surroundings} (h : around.IsAbsolute)
    {dir base : String} (hbase : around.absolute dir = .ok base) :
    Path.isAbsolute base = true := by
  unfold Surroundings.absolute at hbase
  split at hbase
  · rename_i hdir
    cases hbase
    exact (Path.isResolved_normalize hdir).absolute
  · obtain ⟨working, hworking, hbase⟩ := bind_eq_ok_iff.mp hbase
    cases hbase
    exact (Path.isResolved_resolve (h.isAbsolute_working hworking) dir).absolute

namespace Document

variable {base : String}

@[simp] theorem filled_eq_some_iff {s : Option String} {text : String} :
    filled s = some text ↔ s = some text ∧ text ≠ "" := by
  simp [filled, Option.filter_eq_some_iff]

theorem settings_of_compileService {shared entry : Fields} {service : Service}
    (hbase : Path.isAbsolute base = true)
    (h : compileService base shared entry = .ok service) {p : String}
    (hp : service.settingsPath = some p) : Path.IsResolved p := by
  obtain ⟨parts, -, -, -, hpath⟩ := compileService_eq_ok_iff.mp h
  rw [hpath, Option.map_eq_some_iff] at hp
  obtain ⟨raw, -, rfl⟩ := hp
  exact Path.isResolved_resolve hbase raw

theorem hooks_of_compileHooks {hooks : Fields} {compiled : Hooks}
    (hbase : Path.isAbsolute base = true) (h : compileHooks base hooks = .ok compiled) :
    (∀ e ∈ compiled.entries, Path.IsResolved e.2) ∧ compiled.get? commentKey = none := by
  obtain ⟨-, rfl⟩ := compileHooks_eq_ok_iff.mp h
  constructor
  · rintro ⟨event, script⟩ he
    obtain ⟨value, -, hscript⟩ := Dict.mem_entries_filterMap.mp he
    unfold hookScript at hscript
    split at hscript
    · split at hscript
      · cases hscript
      · cases hscript
        exact Path.isResolved_resolve hbase _
    · cases hscript
  · -- notes have been left out before the scripts are looked at
    simp [Dict.get?_filterMap]

/-- A host keeps what all hosts have in common, and has an empty alias only by default. -/
theorem belongsTo_of_compileHost {home : String} {defaults : Defaults} {entry : Fields}
    {c : Config} {host : Host} (hbase : Path.isAbsolute base = true)
    (h : compileHost ⟨base, home, defaults, c.environment, c.app, c.hooks⟩ entry = .ok host) :
    host.BelongsTo c := by
  obtain ⟨parts, -, hservices, hhost⟩ := compileHost_eq_ok_iff.mp h
  constructor
  · rw [hhost]
  · rw [hhost]
  · rw [hhost]
  · rw [hhost]
    intro hshort
    -- an alias that is given is not empty, so an empty one is the default
    cases hfilled : filled parts.shortName with
    | none => simpa [hfilled] using hshort
    | some shortName =>
      obtain ⟨-, hne⟩ := filled_eq_some_iff.mp hfilled
      simp [hfilled, hne] at hshort
  · intro service hservice p hp
    obtain ⟨entry, -, hentry⟩ := exists_of_mem_of_mapM hservices hservice
    exact settings_of_compileService hbase hentry hp

/-- The configuration that a document means is a compiled one. -/
theorem isCompiled_of_compile {doc : Document} {dir : String} {around : Surroundings} {c : Config}
    (habs : around.IsAbsolute) (h : doc.compile dir around = .ok c) : c.IsCompiled := by
  obtain ⟨base, hbase, henv, happ, hhooks, hhosts⟩ := compile_eq_ok_iff.mp h
  have hbase := habs.isAbsolute_base hbase
  obtain ⟨hscripts, hnotes⟩ := hooks_of_compileHooks hbase hhooks
  constructor
  · exact (filled_eq_some_iff.mp henv).2
  · rw [happ]
    exact Path.isResolved_resolve hbase doc.app.path
  · exact hscripts
  · exact hnotes
  · intro host hhost
    obtain ⟨entry, -, hentry⟩ := exists_of_mem_of_mapM hhosts hhost
    exact belongsTo_of_compileHost hbase hentry

end Document

end Rollout
