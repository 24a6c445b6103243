import Rollout.Proofs.Command.Lint
import Rollout.Proofs.Command.Listing

/-!
# The first configuration of an environment

Once an `init` has succeeded, the environment has a configuration: one host, named for the
application, that runs one service of the name of the application. All that can be wrong with it is
the path of the application, which need not be a directory.

## Main definitions

* `Host.starter`, `Config.starter` — the host and the configuration
* `Workspace.HasFirstConfig` — an environment has its first configuration

## Main results

* `Document.compile_starter` — a first document means the configuration
* `Workspace.first_config` — what is loaded and reported after an `init` that succeeds
-/

namespace Rollout

/-- The host of a first configuration. It runs one service, which listens on a port. -/
def Host.starter (environment : String) (app : App) : Host where
  name := app.name ++ "-1.example.com"
  shortName := Host.defaultShortName (app.name ++ "-1.example.com")
  credentials := ⟨some "deploy", none, none, none⟩
  services := ⟨[⟨app.name, none, .ofList [("PORT", "3000")]⟩], by simp⟩
  environment
  app
  hooks := ∅

/-- The first configuration of an environment. -/
def Config.starter (environment : String) (app : App) : Config where
  app
  environment
  hosts := ⟨[Host.starter environment app], by simp⟩
  hooks := ∅

/-! ### What the document means -/

namespace Document

variable {environment appName appPath base dir : String} {around : Surroundings}

theorem mergedVariables_starter (name environment appName appPath : String) :
    mergedVariables name ((withDefaults (starterService appName)
        (starter environment appName appPath).defaults.services).get? "env")
      ((starter environment appName appPath).defaults.services.get? "env") =
        .ok (.ofList [("PORT", "3000")]) := by
  have hown : (starterService appName).get? "env" = none := by
    simp [starterService, Dict.get?_ofList, Dict.lookup]
  have hshared : (starter environment appName appPath).defaults.services.get? "env" =
      some (.ofMembers [("PORT", .ofNat 3000)]) := by
    simp [starter, Dict.get?_ofList, Dict.lookup]
  have hmerged : withDefaults (membersOf none)
      (membersOf (some (.ofMembers [("PORT", .ofNat 3000)]))) =
        .ofList [("PORT", .ofNat 3000)] := rfl
  have hentries : (Dict.ofList [("PORT", Json.ofNat 3000)]).entries =
      [("PORT", .ofNat 3000)] := rfl
  rw [mergedVariables_eq_ok_iff, variables_eq, hown, hshared, hmerged, hentries]
  constructor
  · simp [isVariable, Json.ofNat]
  · rfl

theorem compileService_starter (base environment appName appPath : String) :
    compileService base (starter environment appName appPath).defaults.services
      (starterService appName) = .ok ⟨appName, none, .ofList [("PORT", "3000")]⟩ := by
  rw [compileService_eq_ok_iff]
  refine ⟨⟨appName, none⟩, ?_, mergedVariables_starter .., rfl, rfl⟩
  rw [ServiceEntry.ofFields_erase_eq_ok_iff]
  constructor
  · simp [starterService, effective, Dict.get?_ofList, Dict.lookup]
  · simp [starter, starterService, effective, Dict.get?_ofList, Dict.lookup, Json.ofOption]

theorem compileHost_starter (base home environment appName appPath path : String) :
    compileHost ⟨base, home, (starter environment appName appPath).defaults, environment,
        ⟨appName, path⟩, ∅⟩ (starterHost appName) =
      .ok (Host.starter environment ⟨appName, path⟩) := by
  rw [compileHost_eq_ok_iff]
  refine ⟨⟨appName ++ "-1.example.com", none, some "deploy", none, none, none,
    [starterService appName]⟩, ?_, ?_, rfl⟩
  · have hfield := effective_starterHost environment appName appPath
    rw [HostEntry.ofFields_withDefaults_eq_ok_iff]
    constructor
    · simp [hfield, Dict.lookup]
    · simp [hfield, Dict.lookup, Json.ofOption]
    · simp [hfield, Dict.lookup, Json.ofOption]
    · simp [hfield, Dict.lookup, Json.ofOption]
    · simp [hfield, Dict.lookup, Json.ofOption]
    · simp [hfield, Dict.lookup, Json.ofPort]
    · simp
    · exact listsServices_starter environment appName appPath
  · rw [mapM_eq_ok_iff]
    exact .cons (compileService_starter base environment appName appPath) .nil

/-- A first document means the first configuration, unless its environment has no name. -/
theorem compile_starter (hbase : around.absolute dir = .ok base) (hnamed : environment ≠ "") :
    (starter environment appName appPath).compile dir around =
      .ok (Config.starter environment ⟨appName, Path.resolve base appPath⟩) := by
  rw [compile_eq_ok_iff]
  refine ⟨base, hbase, ?_, rfl, ?_, ?_⟩
  · exact filled_eq_some_iff.mpr ⟨rfl, hnamed⟩
  · rfl
  · rw [mapM_eq_ok_iff]
    exact .cons (compileHost_starter ..) .nil

end Document

/-! ### What a check reports -/

/-- Nothing is wrong with the host of a first configuration. -/
theorem Host.problems_starter (w : Workspace) (environment : String) (app : App) :
    (Host.starter environment app).problems w = [] := by
  have hservices : (Host.starter environment app).services.toList =
      [⟨app.name, none, .ofList [("PORT", "3000")]⟩] := rfl
  have hempty : (Host.starter environment app).services.isEmpty = false := rfl
  have hpem : (Host.starter environment app).credentials.pem = none := rfl
  simp [Host.problems, Service.problems, Problem.unlessFile, Problem.when, hservices, hempty, hpem]

/-- All that can be wrong with a first configuration is the path of its application. -/
theorem Config.problems_starter (w : Workspace) (environment : String) (app : App) :
    (Config.starter environment app).problems w environment =
      if w.isDirectory app.path then [] else [.noApp app.path] := by
  have hhosts : (Config.starter environment app).hosts.toList = [Host.starter environment app] :=
    rfl
  have hempty : (Config.starter environment app).hosts.isEmpty = false := rfl
  have hhooks : (Config.starter environment app).hooks.entries = [] := rfl
  have happ : (Config.starter environment app).app = app := rfl
  have hnamed : (Config.starter environment app).environment = environment := rfl
  rw [Config.problems, hhosts, hempty, hhooks, happ, hnamed]
  by_cases hthere : w.isDirectory app.path = true
  · simp [Problem.when, Host.problems_starter, hthere]
  · simp [Problem.when, Host.problems_starter, hthere]

namespace Workspace

variable {w : Workspace} {options : Options} {environment appPath path : String}
  {appName : Option String}

/-- An environment has the first configuration with an application: that is what is loaded, and a
check finds nothing wrong with it but the path of the application, if that is no directory. -/
structure HasFirstConfig (w : Workspace) (environment : String) (app : App) : Prop where
  loaded : w.environmentConfig environment = .ok (Config.starter environment app)
  reported : ∀ options : Options, (w.lint options environment).Reports w.colours environment
    (if w.isDirectory app.path then [] else [.noApp app.path])

/-- A check of a first configuration succeeds if its application is in a directory. -/
theorem HasFirstConfig.failure_lint {app : App} (h : w.HasFirstConfig environment app)
    (options : Options) :
    (w.lint options environment).failure =
      if w.isDirectory app.path then none else some (.problems 1 environment) := by
  rw [(h.reported options).failure]
  by_cases hthere : w.isDirectory app.path = true
  · simp [hthere]
  · simp [hthere]

/-! ### After an `init` -/

/-- A document is expected in some directory, which is absolute. -/
theorem exists_parent?_of_documentPath (h : w.documentPath environment = .ok path) :
    ∃ dir, Path.parent? path = some dir ∧ Path.isAbsolute dir = true := by
  obtain ⟨deploy, hdeploy, hpath⟩ := bind_eq_ok_iff.mp h
  cases hpath
  have habsolute := Path.isAbsolute_join (isAbsolute_deployDirectory hdeploy)
    (environment ++ Location.documentSuffix)
  -- whatever the name of the environment is, its document has a letter in its name
  have hsuffix : 'f' ∈ Location.documentSuffix.toList := by decide
  have hmem : 'f' ∈ (environment ++ Location.documentSuffix).toList := by
    rw [String.toList_append]
    exact List.mem_append_right _ hsuffix
  exact Path.exists_parent? habsolute (Path.mem_join hmem) (by decide) (by decide)

/-- After an `init` that succeeds, the environment has its first configuration. The path of the
application counts from the directory of the document. -/
theorem first_config
    (hdone : ((Command.init environment appName appPath).run w options).1.failure = none) :
    ∃ path dir, w.documentPath environment = .ok path ∧ Path.parent? path = some dir ∧
      ((Command.init environment appName appPath).run w options).2.HasFirstConfig environment
        ⟨w.starterName appName, Path.resolve dir appPath⟩ := by
  have hend := w.inits_init options environment appName appPath
  rw [Command.run_init] at hdone ⊢
  rw [hdone] at hend
  generalize (w.init options environment appName appPath).2 = files at hend ⊢
  cases hend with
  | @done path files hnamed hpath hwrite =>
    obtain ⟨dir, hdir, habsolute⟩ := exists_parent?_of_documentPath hpath
    -- the directory is absolute, so the working directory does not matter for it
    have hbase : w.surroundings.absolute dir = .ok (Path.normalize dir) := if_pos habsolute
    have hloaded : ({ w with files } : Workspace).environmentConfig environment =
        .ok (Config.starter environment ⟨w.starterName appName, Path.resolve dir appPath⟩) := by
      have hpath' : ({ w with files } : Workspace).documentPath environment = .ok path := hpath
      rw [environmentConfig, hpath']
      refine (loadConfig_written (lost_of_documentPath hpath) hwrite).trans ?_
      rw [hdir, Option.getD_some, Document.compile_starter hbase hnamed,
        Path.resolve_normalize habsolute]
    refine ⟨path, dir, hpath, hdir, hloaded, fun options' => ?_⟩
    have hreports := lint_reports hloaded options'
    rwa [Config.problems_starter] at hreports

end Workspace

/-! ### A first configuration with and without its application -/

/-- The site after an `init` for `staging`. -/
def bareSite.staged (appPath : String) : Workspace :=
  ((Command.init "staging" none appPath).run bareSite ⟨0, false⟩).2

theorem bareSite.init_staging (appPath : String) :
    ((Command.init "staging" none appPath).run bareSite ⟨0, false⟩).1.failure = none := by
  rw [Command.failure_run_init]
  exact Workspace.init_succeeds (by decide) bareSite.documentPath_staging
    (bareSite.writeNew_staging _)

theorem bareSite.staged_eq (appPath : String) :
    bareSite.staged appPath = { bareSite with
      files := (bareSite.writeNew "/site/deploy/staging.flotilla.json"
        (bareSite.starterText "staging" none appPath)).1 } := by
  rw [staged, Command.run_init, Workspace.init_files, bareSite.documentPath_staging]

theorem bareSite.isDirectory_writeNew (text : String) :
    let w : Workspace := { bareSite with
      files := (bareSite.writeNew "/site/deploy/staging.flotilla.json" text).1 }
    w.isDirectory "/site" = true ∧ w.isDirectory "/site/deploy/shop" = false :=
  ⟨rfl, rfl⟩

theorem bareSite.starterName_none : bareSite.starterName none = "site" := by
  rfl

/-- The first configuration is fine if its application is the site itself, and it has one problem if
its application is in a directory that is not there. -/
theorem bareSite.staged_lint :
    (bareSite.staged "..").HasFirstConfig "staging" ⟨"site", "/site"⟩ ∧
      ((bareSite.staged "..").lint ⟨0, false⟩ "staging").failure = none ∧
      ((bareSite.staged "shop").lint ⟨0, false⟩ "staging").failure =
        some (.problems 1 "staging") := by
  have hdeploy : Path.parent? "/site/deploy/staging.flotilla.json" = some "/site/deploy" := rfl
  have hfirst (appPath : String) : (bareSite.staged appPath).HasFirstConfig "staging"
      ⟨"site", Path.resolve "/site/deploy" appPath⟩ := by
    obtain ⟨path, dir, hpath, hdir, hfirst⟩ :=
      Workspace.first_config (bareSite.init_staging appPath)
    rw [bareSite.documentPath_staging, Except.ok.injEq] at hpath
    rw [← hpath, hdeploy, Option.some.injEq] at hdir
    rw [← hdir, bareSite.starterName_none] at hfirst
    exact hfirst
  -- the two paths of applications count from the directory of the documents
  have hsite : Path.resolve "/site/deploy" ".." = "/site" := rfl
  have hshop : Path.resolve "/site/deploy" "shop" = "/site/deploy/shop" := rfl
  have hvalid := hfirst ".."
  have hflawed := hfirst "shop"
  rw [hsite] at hvalid
  rw [hshop] at hflawed
  refine ⟨hvalid, ?_, ?_⟩
  · have hthere : (bareSite.staged "..").isDirectory "/site" = true := by
      rw [bareSite.staged_eq]
      exact (bareSite.isDirectory_writeNew _).1
    rw [hvalid.failure_lint, if_pos hthere]
  · have hgone : (bareSite.staged "shop").isDirectory "/site/deploy/shop" = false := by
      rw [bareSite.staged_eq]
      exact (bareSite.isDirectory_writeNew _).2
    rw [hflawed.failure_lint, if_neg (by simp [hgone])]

end Rollout
