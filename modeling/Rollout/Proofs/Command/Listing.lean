import Rollout.Proofs.Command.Starter
import Rollout.Proofs.Config.View
import Rollout.Proofs.FileTree.Entries

/-!
# Listed environments

The environments that are listed are those whose documents stand in the directory of the documents
itself. The name of an environment may have slashes in it, and its document stands in another
directory then: an `init` writes it, and no listing shows it.

## Main definitions

* `Workspace.Lists` — an environment is listed

## Main results

* `Location.environmentOf?_eq_some_iff` — which file names are those of documents
* `Workspace.lists_iff` — which environments are listed
* `Workspace.after_wellNamed` — no session brings a slash into a name
* `Workspace.init_lists_iff` — after an `init` that succeeds its environment is listed exactly if it
  has no slash in its name
-/

namespace Rollout

variable {w : Workspace} {options options' : Options} {environment appPath fileName dir : String}
  {appName : Option String}

/-! ### Names of documents -/

/-- The name of a document is that of its environment, which is not empty, before the suffix. -/
theorem Location.environmentOf?_eq_some_iff :
    environmentOf? fileName = some environment ↔
      environment ≠ "" ∧ fileName = environment ++ documentSuffix := by
  unfold environmentOf?
  dsimp only
  constructor
  · intro h
    split at h
    · rename_i hsuffix
      obtain ⟨hsuffix, hlength⟩ := hsuffix
      obtain ⟨front, hfront⟩ := List.isSuffixOf_iff_suffix.mp hsuffix
      rw [← hfront, List.length_append] at hlength
      rw [← hfront, List.length_append, Nat.add_sub_cancel, List.take_left, Option.some.injEq] at h
      subst h
      refine ⟨fun hnil => ?_, String.toList_inj.mp (by simp [hfront])⟩
      rw [String.ofList_eq_empty_iff] at hnil
      simp [hnil] at hlength
    · cases h
  · rintro ⟨hne, rfl⟩
    simp [String.toList_append, List.length_pos_iff, hne]

theorem Command.run_init :
    (Command.init environment appName appPath).run w options =
      ((w.init options environment appName appPath).1,
        { w with files := (w.init options environment appName appPath).2 }) :=
  rfl

theorem Command.failure_run_init :
    ((Command.init environment appName appPath).run w options).1.failure =
      (w.init options environment appName appPath).1.failure :=
  rfl

namespace Workspace

/-! ### Which environments are listed -/

theorem isAbsolute_deployDirectory (h : w.deployDirectory = .ok dir) :
    Path.isAbsolute dir = true := by
  obtain ⟨working, hworking, hdir⟩ := bind_eq_ok_iff.mp h
  have habsolute := w.isAbsolute_surroundings.isAbsolute_working hworking
  cases hdir
  unfold Location.deployDirectory
  split
  · exact (Path.isResolved_resolve habsolute _).absolute
  · exact Path.isAbsolute_join habsolute _

/-- An environment is listed: a listing succeeds, and the environment is one of those that have a
document in the directory of the documents. -/
def Lists (w : Workspace) (options : Options) (environment : String) : Prop :=
  (Command.list.run w options).1.failure = none ∧
    ∃ dir names, w.deployDirectory = .ok dir ∧ w.environments dir = .ok names ∧
      environment ∈ names

theorem mem_environments_iff :
    (∃ names, w.environments dir = .ok names ∧ environment ∈ names) ↔
      environment ≠ "" ∧ ∃ names, w.files.list w.workingDir dir = some names ∧
        environment ++ Location.documentSuffix ∈ names := by
  unfold environments
  cases w.files.list w.workingDir dir with
  | none => simp
  | some names =>
    simp [Text.sortStrings, List.mem_mergeSort, Location.environmentOf?_eq_some_iff, and_comm]

/-- The environments that are listed are those whose documents are in the directory of the
documents. -/
theorem lists_iff :
    w.Lists options environment ↔ environment ≠ "" ∧
      ∃ dir names, w.deployDirectory = .ok dir ∧ w.files.list w.workingDir dir = some names ∧
        environment ++ Location.documentSuffix ∈ names := by
  constructor
  · rintro ⟨-, dir, names, hdir, hthere, hname⟩
    obtain ⟨hne, entries, hlist, hentry⟩ := mem_environments_iff.mp ⟨names, hthere, hname⟩
    exact ⟨hne, dir, entries, hdir, hlist, hentry⟩
  · rintro ⟨hne, dir, entries, hdir, hlist, hentry⟩
    obtain ⟨names, hthere, hname⟩ := mem_environments_iff.mpr ⟨hne, entries, hlist, hentry⟩
    refine ⟨?_, dir, names, hdir, hthere, hname⟩
    simp [Command.run, listing, hdir, hthere, bind, Except.bind, pure, Except.pure]

/-- Where no name has a slash in it, no environment is listed that has one. -/
theorem no_slash_of_lists (hfiles : w.files.WellNamed) (h : w.Lists options environment) :
    '/' ∉ environment.toList := by
  obtain ⟨-, dir, names, -, hlist, hname⟩ := lists_iff.mp h
  have hslash := FileTree.no_slash_of_mem_list hfiles hlist hname
  rw [String.toList_append, List.mem_append, not_or] at hslash
  exact hslash.1

/-! ### After an `init` -/

/-- The environment of an `init` that succeeds is listed if it has no slash in its name. -/
theorem lists_of_init (hname : '/' ∉ environment.toList)
    (hdone : ((Command.init environment appName appPath).run w options).1.failure = none) :
    ((Command.init environment appName appPath).run w options).2.Lists options' environment := by
  have hend := w.inits_init options environment appName appPath
  rw [Command.run_init] at hdone ⊢
  rw [hdone] at hend
  generalize (w.init options environment appName appPath).2 = files at hend ⊢
  cases hend with
  | @done path files hnamed hpath hwrite =>
    have hw := lost_of_documentPath hpath
    obtain ⟨dir, hdir, hpath⟩ := bind_eq_ok_iff.mp hpath
    cases hpath
    obtain ⟨-, tree, -, hwrite⟩ := write_of_writeNew hwrite
    -- without a slash the file name is one component, so the file is in the directory itself
    have hslash : '/' ∉ (environment ++ Location.documentSuffix).toList := by
      rw [String.toList_append, List.mem_append, not_or]
      exact ⟨hname, by decide⟩
    obtain ⟨names, hlist, hentry⟩ :=
      FileTree.mem_list_of_write hw (isAbsolute_deployDirectory hdir) hslash hwrite
    exact lists_iff.mpr ⟨hnamed, dir, names, hdir, hlist, hentry⟩

theorem writeNew_wellNamed (hfiles : w.files.WellNamed) (path text : String) :
    (w.writeNew path text).1.WellNamed := by
  have hmade := hfiles.createDirectories w.workingDir ((Path.parent? path).getD "")
  have hend := w.writesNew_writeNew path text
  generalize (w.writeNew path text).1 = files, (w.writeNew path text).2 = problem at hend ⊢
  cases hend with
  | refused => exact hfiles
  | stuck _ hmake => rwa [hmake] at hmade
  | unwritten _ hmake => rwa [hmake] at hmade
  | written _ hmake hwrite =>
    rw [hmake] at hmade
    exact hmade.write hwrite

/-- No command brings a slash into a name. -/
theorem run_wellNamed (hfiles : w.files.WellNamed) (options : Options) (command : Command) :
    (command.run w options).2.files.WellNamed := by
  cases command with
  | init environment appName appPath =>
    rw [Command.run_init, init_files]
    split
    · exact hfiles
    · exact writeNew_wellNamed hfiles _ _
  | _ => exact hfiles

/-- Nor does any session. -/
theorem after_wellNamed (hfiles : w.files.WellNamed) (session : List (Options × Command)) :
    (w.after session).files.WellNamed := by
  induction session generalizing w with
  | nil => exact hfiles
  | cons step rest ih => exact ih (run_wellNamed hfiles step.1 step.2)

/-- In a session of any commands on files without slashes in their names, an `init` that succeeds
is followed by a listing with its environment exactly if the environment has no slash in its
name. -/
theorem init_lists_iff (hfiles : w.files.WellNamed) (session : List (Options × Command))
    (hdone : ((Command.init environment appName appPath).run (w.after session)
      options).1.failure = none) :
    ((Command.init environment appName appPath).run (w.after session) options).2.Lists options'
      environment ↔ '/' ∉ environment.toList :=
  ⟨no_slash_of_lists (run_wellNamed (after_wellNamed hfiles session) options _),
    fun hname => lists_of_init hname hdone⟩

end Workspace

/-! ### An environment that is not listed -/

theorem bareSite.wellNamed : bareSite.files.WellNamed := by
  simp [bareSite, FileTree.wellNamed_directory_iff, FileTree.wellNamed_file, FileTree.lookup]

theorem bareSite.documentPath_production :
    bareSite.documentPath "eu/production" = .ok "/site/deploy/eu/production.flotilla.json" := by
  rfl

theorem bareSite.documentPath_staging :
    bareSite.documentPath "staging" = .ok "/site/deploy/staging.flotilla.json" := by
  rfl

theorem bareSite.writeNew_production (text : String) :
    (bareSite.writeNew "/site/deploy/eu/production.flotilla.json" text).2 = none := by
  rfl

theorem bareSite.writeNew_staging (text : String) :
    (bareSite.writeNew "/site/deploy/staging.flotilla.json" text).2 = none := by
  rfl

/-- An `init` for `eu/production` succeeds, and the environment is not listed. -/
theorem bareSite.created_unlisted :
    ((Command.init "eu/production" none "..").run bareSite ⟨0, false⟩).1.failure = none ∧
      ¬ ((Command.init "eu/production" none "..").run bareSite ⟨0, false⟩).2.Lists ⟨0, false⟩
        "eu/production" := by
  constructor
  · rw [Command.failure_run_init]
    exact Workspace.init_succeeds (by decide) bareSite.documentPath_production
      (bareSite.writeNew_production _)
  · intro hlists
    exact absurd (Workspace.no_slash_of_lists
      (Workspace.run_wellNamed bareSite.wellNamed _ _) hlists) (by decide)

/-- An `init` for `staging` succeeds after a listing, and the environment is listed. -/
theorem bareSite.created_listed :
    ((Command.init "staging" none "..").run
      (bareSite.after [(⟨0, false⟩, .list)]) ⟨0, false⟩).2.Lists ⟨0, false⟩ "staging" := by
  have hsession : bareSite.after [(⟨0, false⟩, .list)] = bareSite := rfl
  refine (Workspace.init_lists_iff bareSite.wellNamed [(⟨0, false⟩, .list)] ?_).mpr (by decide)
  rw [Command.failure_run_init, hsession]
  exact Workspace.init_succeeds (by decide) bareSite.documentPath_staging
    (bareSite.writeNew_staging _)

end Rollout
