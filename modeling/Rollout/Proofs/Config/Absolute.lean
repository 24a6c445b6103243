import Rollout.Command.Lint
import Rollout.Proofs.Config.Compiled
import Rollout.Proofs.Document.Entries
import Rollout.Proofs.FileTree.Names
import Rollout.Ssh.Command

/-!
# Paths that depend on where one stands

The paths of the application, of settings and of scripts are resolved against the directory of the
document, so they start at the root. The path of a private key is not resolved: the home directory
is put in for a leading `~`, and that is all. A key that is given by any other path that does not
start at the root is looked for from wherever the process stands, by `ssh` as well as by the check
of a configuration.

## Main definitions

* `Path.IsRooted` — a path starts at the root or in the home directory
* `Config.PathsAbsolute` — all paths of a configuration start at the root

## Main results

* `Config.problems_of_pathsAbsolute` — with such paths a check does not depend on the working
  directory
* `Document.pathsAbsolute_iff` — which documents have such configurations
* `keyDocument_strays` — a key beside its document, found from one directory only
-/

namespace Rollout

/-! ### Paths that start at the root -/

/-- A path that starts at the root or in the home directory. -/
def Path.IsRooted (p : String) : Prop :=
  isAbsolute p = true ∨ p = "~" ∨ ∃ rest, p = "~/" ++ rest

/-- Putting the home directory in makes those paths absolute that are rooted, and no others. -/
theorem Path.isAbsolute_expandHome_iff {home p : String} (hhome : isAbsolute home = true) :
    isAbsolute (expandHome home p) = true ↔ IsRooted p := by
  unfold expandHome
  split
  · rename_i rest hp
    have hrelative : isAbsolute p = false := by simp [isAbsolute, hp]
    split
    · rename_i hrest
      refine iff_of_true (isAbsolute_append hhome _) (.inr ?_)
      rcases hrest with rfl | hslash
      · left
        rw [← String.toList_inj, hp]
        rfl
      · right
        obtain ⟨back, rfl⟩ := List.head?_eq_some_iff.mp hslash
        refine ⟨String.ofList back, ?_⟩
        rw [← String.toList_inj, hp]
        simp
    · -- what follows the `~` is part of a name, so nothing is put in
      rename_i hrest
      rw [hrelative]
      apply iff_of_false (by decide)
      rintro (habsolute | rfl | ⟨back, rfl⟩)
      · rw [hrelative] at habsolute
        cases habsolute
      · obtain rfl : [] = rest := by simpa using hp
        exact hrest (.inl rfl)
      · obtain rfl : '/' :: back.toList = rest := by simpa using hp
        exact hrest (.inr rfl)
  · rename_i htilde
    constructor
    · intro habsolute
      exact .inl habsolute
    · rintro (habsolute | rfl | ⟨back, rfl⟩)
      · exact habsolute
      · exact absurd rfl (htilde [])
      · exact absurd (by simp) (htilde ('/' :: back.toList))

namespace FileTree

variable {path : String} (root : FileTree) (workingDir workingDir' : Standpoint)

/-- A path that starts at the root has the same components from everywhere. -/
theorem components_of_isAbsolute (h : Path.isAbsolute path = true) :
    components workingDir path = components workingDir' path := by
  obtain ⟨names, hne, hsegments⟩ := Path.segments_of_isAbsolute h
  obtain ⟨name, rest, rfl⟩ := List.exists_cons_of_ne_nil hne
  have hparts : (path.toList.splitOn '/').map String.ofList =
      "" :: (name :: rest).map String.ofList := by
    rw [← Path.segments, hsegments]
    rfl
  unfold components
  rw [hparts]
  rfl

theorem at?_of_isAbsolute (h : Path.isAbsolute path = true) :
    root.at? workingDir path = root.at? workingDir' path := by
  rw [at?, at?, locate, locate, components_of_isAbsolute workingDir workingDir' h]

theorem isFile_of_isAbsolute (h : Path.isAbsolute path = true) :
    root.isFile workingDir path = root.isFile workingDir' path := by
  rw [isFile, isFile, at?_of_isAbsolute root workingDir workingDir' h]

theorem isDirectory_of_isAbsolute (h : Path.isAbsolute path = true) :
    root.isDirectory workingDir path = root.isDirectory workingDir' path := by
  rw [isDirectory, isDirectory, at?_of_isAbsolute root workingDir workingDir' h]

end FileTree

/-! ### Checks from elsewhere -/

/-- All paths of a configuration start at the root: those of the application, of settings, of
scripts and of private keys. -/
structure Config.PathsAbsolute (c : Config) : Prop where
  app : Path.isAbsolute c.app.path = true
  settings : ∀ h ∈ c.hosts.toList, ∀ s ∈ h.services.toList, ∀ p, s.settingsPath = some p →
    Path.isAbsolute p = true
  scripts : ∀ e ∈ c.hooks.entries, Path.isAbsolute e.2 = true
  keys : ∀ h ∈ c.hosts.toList, ∀ p, h.credentials.pem = some p → Path.isAbsolute p = true

namespace Workspace

variable {w : Workspace} {path : String}

/-- A file at an absolute path is missed from everywhere or from nowhere. -/
theorem unlessFile_of_isAbsolute (place : Standpoint) (problem : String → Problem)
    {path? : Option String} (h : ∀ p, path? = some p → Path.isAbsolute p = true) :
    Problem.unlessFile { w with workingDir := place } problem path? =
      Problem.unlessFile w problem path? := by
  cases path? with
  | none => rfl
  | some path =>
    have same : { w with workingDir := place }.isFile path = w.isFile path :=
      w.files.isFile_of_isAbsolute place w.workingDir (h path rfl)
    rw [Problem.unlessFile, Problem.unlessFile, same]

end Workspace

/-- Where all paths are absolute, the problems of a configuration do not depend on where one
stands. -/
theorem Config.problems_of_pathsAbsolute {c : Config} (h : c.PathsAbsolute) (w : Workspace)
    (place : Standpoint) (stored : String) :
    c.problems { w with workingDir := place } stored = c.problems w stored := by
  have app : { w with workingDir := place }.isDirectory c.app.path = w.isDirectory c.app.path :=
    w.files.isDirectory_of_isAbsolute place w.workingDir h.app
  have hosts : c.hosts.toList.flatMap (Host.problems { w with workingDir := place }) =
      c.hosts.toList.flatMap (Host.problems w) := by
    apply List.flatMap_congr
    intro host hhost
    have services :
        host.services.toList.flatMap
            (Service.problems { w with workingDir := place } host.name) =
          host.services.toList.flatMap (Service.problems w host.name) := by
      apply List.flatMap_congr
      intro service hservice
      exact Workspace.unlessFile_of_isAbsolute place _ (h.settings host hhost service hservice)
    rw [Host.problems, Host.problems, services,
      Workspace.unlessFile_of_isAbsolute place _ (h.keys host hhost)]
  rw [Config.problems, Config.problems, app, hosts]
  congr 1
  -- what is left are the scripts of the hooks
  apply List.flatMap_congr
  intro e he
  have same : { w with workingDir := place }.isFile e.2 = w.isFile e.2 :=
    w.files.isFile_of_isAbsolute place w.workingDir (h.scripts e he)
  simp only [same]

/-! ### Documents -/

namespace Document

variable {doc : Document} {dir : String} {around : Surroundings} {c : Config}

/-- The key of a host has an absolute path exactly if the path that counts for its entry is
rooted. -/
theorem keyAbsolute_iff {common : Common} {entry : Fields} {host : Host}
    (h : compileHost common entry = .ok host) (hhome : Path.isAbsolute common.home = true) :
    (∀ p, host.credentials.pem = some p → Path.isAbsolute p = true) ↔
      ∀ raw, effective common.defaults.hosts entry "pem" = some (.string raw) →
        Path.IsRooted raw := by
  obtain ⟨parts, hparts, -, hhost⟩ := compileHost_eq_ok_iff.mp h
  have hread := HostEntry.ofFields_withDefaults_eq_ok_iff.mp hparts
  have hpem : host.credentials.pem = parts.pem.map (Path.expandHome common.home) := by
    rw [hhost]
  simp only [hpem, ← Json.eq_some_iff_of_getD_eq_ofOption hread.pem]
  cases parts.pem with
  | none => simp
  | some raw => simp [Path.isAbsolute_expandHome_iff hhome]

theorem keysAbsolute_iff {common : Common} {entries : List Fields} {hosts : List Host}
    (h : List.Forall₂ (fun entry host => compileHost common entry = .ok host) entries hosts)
    (hhome : Path.isAbsolute common.home = true) :
    (∀ host ∈ hosts, ∀ p, host.credentials.pem = some p → Path.isAbsolute p = true) ↔
      ∀ entry ∈ entries, ∀ raw,
        effective common.defaults.hosts entry "pem" = some (.string raw) → Path.IsRooted raw := by
  induction h with
  | nil => simp
  | cons hentry _ ih =>
    rw [List.forall_mem_cons, List.forall_mem_cons, keyAbsolute_iff hentry hhome, ih]

/-- In the configuration that a document means, the paths of the application, of settings and of
scripts are absolute in any case. All paths are exactly if the path of each private key that counts
for a host starts at the root or in the home directory; then a check of the configuration finds the
same problems from everywhere. -/
theorem pathsAbsolute_iff (habs : around.IsAbsolute) (hhome : Path.isAbsolute around.home = true)
    (h : doc.compile dir around = .ok c) :
    (Path.isAbsolute c.app.path = true ∧
      (∀ host ∈ c.hosts.toList, ∀ s ∈ host.services.toList, ∀ p, s.settingsPath = some p →
        Path.isAbsolute p = true) ∧
      ∀ e ∈ c.hooks.entries, Path.isAbsolute e.2 = true) ∧
    (c.PathsAbsolute ↔ ∀ entry ∈ doc.hosts, ∀ raw,
      effective doc.defaults.hosts entry "pem" = some (.string raw) → Path.IsRooted raw) ∧
    (c.PathsAbsolute → ∀ (w : Workspace) (place : Standpoint) (stored : String),
      c.problems { w with workingDir := place } stored = c.problems w stored) := by
  have hcompiled : c.IsCompiled := isCompiled_of_compile habs h
  obtain ⟨base, -, -, -, -, hhosts⟩ := compile_eq_ok_iff.mp h
  have hkeys := keysAbsolute_iff (mapM_eq_ok_iff.mp hhosts) hhome
  have happ := hcompiled.app.absolute
  have hsettings : ∀ host ∈ c.hosts.toList, ∀ s ∈ host.services.toList, ∀ p,
      s.settingsPath = some p → Path.isAbsolute p = true := by
    intro host hhost s hs p hp
    exact ((hcompiled.hosts host hhost).settings s hs p hp).absolute
  have hscripts : ∀ e ∈ c.hooks.entries, Path.isAbsolute e.2 = true := by
    intro e he
    exact (hcompiled.scripts e he).absolute
  refine ⟨⟨happ, hsettings, hscripts⟩, ⟨?_, ?_⟩, Config.problems_of_pathsAbsolute⟩
  · intro hall
    exact hkeys.mp hall.keys
  · intro hrooted
    exact ⟨happ, hsettings, hscripts, hkeys.mpr hrooted⟩

end Document

/-! ### A key beside its document -/

/-- A document with one host, whose private key is at a given path. -/
def keyDocument (pem : String) : Document where
  app := ⟨"shop", "../app"⟩
  environment := some "staging"
  defaults := ⟨.ofList [("pem", .string pem)], ∅⟩
  hosts := [.ofList [("name", .string "a.example.com"),
    ("services", .array [.ofMembers [("name", .string "web")]])]]
  hooks := ∅

/-- A key in the home directory has an absolute path. -/
theorem keyDocument_absolute :
    ∃ c, (keyDocument "~/.ssh/id.pem").compile "deploy" ⟨some "/srv", "/home/me"⟩ = .ok c ∧
      c.PathsAbsolute ∧
      c.hosts.toList.map (fun h => h.credentials.pem) = [some "/home/me/.ssh/id.pem"] := by
  obtain ⟨c, hcompile, hpem⟩ : ∃ c,
      (keyDocument "~/.ssh/id.pem").compile "deploy" ⟨some "/srv", "/home/me"⟩ = .ok c ∧
        c.hosts.toList.map (fun h => h.credentials.pem) = [some "/home/me/.ssh/id.pem"] :=
    ⟨_, rfl, rfl⟩
  have habs : Surroundings.IsAbsolute ⟨some "/srv", "/home/me"⟩ := by
    rintro dir ⟨⟩
    decide
  obtain ⟨-, hiff, -⟩ := Document.pathsAbsolute_iff habs (by decide) hcompile
  refine ⟨c, hcompile, hiff.mpr ?_, hpem⟩
  intro entry hentry raw hraw
  obtain rfl := List.mem_singleton.mp hentry
  obtain rfl : "~/.ssh/id.pem" = raw := Json.string.inj (Option.some.inj hraw)
  exact .inr (.inr ⟨".ssh/id.pem", rfl⟩)

/-- The files of a project with its application, its documents and a key beside them, seen from a
directory. -/
def keyWorkspace (place : Place) : Workspace where
  files := .directory [("srv", .directory [("app", .directory []),
    ("deploy", .directory [("keys", .directory [("id.pem", .file ⟨#[]⟩)])])])]
  workingDir := ⟨place, 0⟩
  home := "/home/me"
  deploySetting := none
  colours := false
  ssh := none

/-- The path of a key that is given relative to the document stays relative: `ssh` is given it as it
is, and the check finds the key from the directory of the document and misses it from the root. -/
theorem keyDocument_strays :
    ∃ c host, (keyDocument "keys/id.pem").compile "/srv/deploy" ⟨some "/", "/home/me"⟩ = .ok c ∧
      c.hosts.toList = [host] ∧ host.credentials.pem = some "keys/id.pem" ∧ ¬ c.PathsAbsolute ∧
      Ssh.arguments host "uptime" =
        ["-o", "BatchMode=yes", "-i", "keys/id.pem", "a.example.com", "uptime"] ∧
      c.problems (keyWorkspace ["srv", "deploy"]) "staging" = [] ∧
      c.problems (keyWorkspace []) "staging" = [.noKey "a.example.com" "keys/id.pem"] := by
  refine ⟨_, _, rfl, rfl, rfl, ?_, rfl, rfl, rfl⟩
  intro habsolute
  have hkey := habsolute.keys _ List.mem_cons_self "keys/id.pem" rfl
  exact absurd hkey (by decide)

end Rollout
