import Rollout.Proofs.Command.Init
import Rollout.Proofs.Document.OfText
import Rollout.Proofs.Document.Problems
import Rollout.Proofs.FileTree.Widening

/-!
# The first document of an environment

The text that is written as a first document is read as a document with one host, which has nothing
but a name of its own. Nothing is wrong with that document unless its environment has no name, so
an `init` that has written it fails exactly for an environment without a name.

## Main definitions

* `Document.starter` — the document
* `Workspace.Inits` — all ways in which an `init` can end

## Main results

* `Document.ofText_starterDocument` — the text is read as the document
* `Document.exists_compile_starter_iff`, `Document.compile_starter_eq_error` — the document compiles
  exactly if the environment has a name
* `Workspace.loadConfig_written` — what is loaded after the document has been written
* `Workspace.inits_init` — an `init` ends in one of these ways
-/

namespace Rollout

namespace Document

/-- The one host of a starter document, with nothing but a name of its own. -/
def starterHost (appName : String) : Fields :=
  .ofList [("name", .string (appName ++ "-1.example.com"))]

/-- The one service that the hosts of a starter document share. -/
def starterService (appName : String) : Fields := .ofList [("name", .string appName)]

/-- The first document of an environment, as it is read. -/
def starter (environment appName appPath : String) : Document where
  app := ⟨appName, appPath⟩
  environment := some environment
  defaults := {
    hosts := .ofList [("username", .string "deploy"),
      ("services", .array [.ofMembers [("name", .string appName)]])]
    services := .ofList [("env", .ofMembers [("PORT", .ofNat 3000)])] }
  hosts := [starterHost appName]
  hooks := .ofList
    [("--comment", .string "Map hook events to script paths, relative to this file")]

/-! ### The text -/

theorem starterDocument_eq_object (environment appName appPath : String) :
    starterDocument environment appName appPath = .object [
      ("app", .object [("name", .string appName), ("path", .string appPath)]),
      ("defaults", .object [
        ("hosts", .object [("services", .array [.object [("name", .string appName)]]),
          ("username", .string "deploy")]),
        ("services", .object [("env", .object [("PORT", .ofNat 3000)])])]),
      ("environment", .string environment),
      ("hooks", .object
        [("--comment", .string "Map hook events to script paths, relative to this file")]),
      ("hosts", .array [.object [("name", .string (appName ++ "-1.example.com"))]])] := by
  simp only [starterDocument, Json.ofMembers, Json.ofDict, Dict.entries_ofList,
    Dict.insertEntry, List.foldl_cons, List.foldl_nil, String.reduceLT, String.reduceEq,
    ↓reduceIte]

theorem toJson_starter (environment appName appPath : String) :
    (starter environment appName appPath).toJson = starterDocument environment appName appPath := by
  rw [toJson_eq_object, starterDocument_eq_object]
  simp only [members, starter, starterHost, Json.ofMembers, Json.ofDict, Dict.entries_ofList,
    Dict.insertEntry, List.foldl_cons, List.foldl_nil, List.cons_append, List.nil_append,
    Option.map_some, Option.toList_some, List.map_cons, List.map_nil, String.reduceLT,
    ↓reduceIte]

theorem ofText_starterDocument (environment appName appPath : String) :
    Document.ofText ((starterDocument environment appName appPath).pretty ++ "\n") =
      .ok (starter environment appName appPath) := by
  rw [← toJson_starter]
  apply ofText_toJson
  all_goals rw [toJson_starter, starterDocument_eq_object]
  · simp [Json.Integral, Json.IntegralMembers, Json.IntegralItems, Json.ofNat, Json.minInteger,
      Json.maxInteger]
  · simp only [Json.SortedKeys, Json.SortedMembers, Json.SortedItems, Json.ofNat,
      List.pairwise_cons, List.Pairwise.nil, List.mem_cons, List.not_mem_nil, or_false,
      forall_eq_or_imp, forall_eq, String.reduceLT, IsEmpty.forall_iff, implies_true, and_self]
  · simp [Json.depth, Json.depthMembers, Json.depthItems, Json.maxDepth, Json.ofNat]

/-! ### The document -/

section

variable (environment appName appPath : String)

theorem listsServices_starter :
    ListsServices (starter environment appName appPath).defaults (starterHost appName)
      [starterService appName] := by
  refine ⟨[.ofMembers [("name", .string appName)]], ?_, ?_⟩
  · simp [starter, starterHost, effective, Dict.get?_ofList, Dict.lookup]
  · exact .cons ⟨_, rfl, (Dict.ofList_entries _).symm⟩ .nil

theorem effective_starterHost (key : String) :
    effective (starter environment appName appPath).defaults.hosts (starterHost appName) key =
      Dict.lookup key [
        ("name", .string (appName ++ "-1.example.com")),
        ("services", .array [.ofMembers [("name", .string appName)]]),
        ("username", .string "deploy")] := by
  by_cases hname : "name" = key <;>
    simp [starter, starterHost, effective, Dict.get?_ofList, Dict.lookup, hname]

theorem starterHost_isHostEntry :
    IsHostEntry (effective (starter environment appName appPath).defaults.hosts
      (starterHost appName)) := by
  have hfield := effective_starterHost environment appName appPath
  constructor
  · simp [hfield, Dict.lookup, IsText]
  · simp [hfield, Dict.lookup, IsOptionalText]
  · simp [hfield, Dict.lookup, IsOptionalText, IsText]
  · simp [hfield, Dict.lookup, IsOptionalText]
  · simp [hfield, Dict.lookup, IsOptionalText]
  · simp [hfield, Dict.lookup, IsOptionalPort]
  · exact ⟨_, listsServices_starter environment appName appPath⟩

theorem starterService_fits :
    ServiceFits (starter environment appName appPath).defaults.services
      (starterService appName) where
  fields := ⟨by simp [starterService, effective, Dict.get?_ofList, Dict.lookup, IsText],
    by simp [starter, starterService, effective, Dict.get?_ofList, Dict.lookup, IsOptionalText]⟩
  env := by
    rintro key ⟨v, hv, hbad⟩
    simp [starter, starterService, effective, Dict.get?_ofList, Dict.lookup, membersOf,
      Json.ofMembers, Json.ofDict] at hv
    obtain ⟨-, rfl⟩ := hv
    simp [Json.ofNat] at hbad

theorem starterHost_fits :
    HostFits (starter environment appName appPath).defaults (starterHost appName) where
  fields := starterHost_isHostEntry environment appName appPath
  services := by
    intro services hservices
    rw [hservices.unique (listsServices_starter environment appName appPath)]
    simpa using starterService_fits environment appName appPath
  distinct := by
    intro services hservices
    rw [hservices.unique (listsServices_starter environment appName appPath)]
    simp [entryNames]

end

variable {environment appName appPath dir normal : String} {around : Surroundings}

/-- Nothing is wrong with a starter document unless its environment has no name. -/
theorem starter_isWellFormed_iff :
    (starter environment appName appPath).IsWellFormed ↔ environment ≠ "" := by
  constructor
  · rintro ⟨⟨name, hname, hne⟩, -⟩
    cases hname
    exact hne
  · intro h
    constructor
    · exact ⟨environment, rfl, h⟩
    · rintro event ⟨hevent, v, hv, -⟩
      simp [starter, Dict.get?_ofList, Dict.lookup] at hv
      exact hevent hv.1.symm
    · intro entry hentry
      rw [starter, List.mem_singleton] at hentry
      exact hentry ▸ starterHost_fits environment appName appPath
    · simp [starter, entryNames]

theorem exists_compile_starter_iff (hdir : around.absolute dir = .ok normal) :
    (∃ c, (starter environment appName appPath).compile dir around = .ok c) ↔
      environment ≠ "" :=
  (exists_compile_eq_ok_iff hdir).trans starter_isWellFormed_iff

/-- A starter document whose environment has no name is reported for that. -/
theorem compile_starter_eq_error (hdir : around.absolute dir = .ok normal) :
    (starter "" appName appPath).compile dir around = .error .missingEnvironment :=
  (compile_eq_error_iff hdir).mpr <| .environment fun name hname => by
    cases hname
    rfl

end Document

/-! ### The document in a workspace -/

namespace Workspace

open Document (starter)

variable {w : Workspace} {environment appPath path : String}
  {appName : Option String} {files : FileTree}

/-- The name of the application that a first document gets. -/
def starterName (w : Workspace) (appName : Option String) : String :=
  appName.getD ((w.workingDir.path?.bind Path.fileName?).getD "app")

theorem exists_absolute (hw : w.workingDir.lost = 0) (dir : String) :
    ∃ normal, w.surroundings.absolute dir = .ok normal := by
  unfold Surroundings.absolute
  split
  · exact ⟨_, rfl⟩
  · simp [surroundings, Surroundings.workingPath, Standpoint.path?, hw, bind, Except.bind, pure,
      Except.pure]

/-- The first document of an environment is read as what was written. -/
theorem loadDocument_written (hw : w.workingDir.lost = 0)
    (h : w.writeNew path (w.starterText environment appName appPath) = (files, none)) :
    { w with files }.loadDocument path =
      .ok (starter environment (w.starterName appName) appPath) := by
  obtain ⟨-, tree, -, hwrite⟩ := write_of_writeNew h
  obtain ⟨hthere, hread⟩ := FileTree.readText_write hw hwrite
  have htext : Document.ofText (w.starterText environment appName appPath) =
      .ok (starter environment (w.starterName appName) appPath) :=
    Document.ofText_starterDocument environment (w.starterName appName) appPath
  simp [loadDocument, hthere, hread, htext]

theorem starter_orEnvironment (environment appName appPath : String) :
    (starter environment appName appPath).orEnvironment (some environment) =
      starter environment appName appPath := by
  by_cases h : environment = "" <;> simp [Document.orEnvironment, starter, h]

theorem loadConfig_written (hw : w.workingDir.lost = 0)
    (h : w.writeNew path (w.starterText environment appName appPath) = (files, none)) :
    { w with files }.loadConfig path (some environment) =
      (starter environment (w.starterName appName) appPath).compile
        ((Path.parent? path).getD ".") w.surroundings := by
  simp only [loadConfig, loadDocument_written hw h, bind, Except.bind, starter_orEnvironment]
  rfl

/-! ### All that an `init` can do -/

/-- How an `init` can end, with the files that it leaves. -/
inductive Inits (w : Workspace) (environment text : String) : Option CommandError → FileTree → Prop
  | placeless {cause : ConfigError} (hpath : w.documentPath environment = .error cause) :
    Inits w environment text (some (.config cause)) w.files
  | unwritten {path : String} {e : CommandError} {files : FileTree}
    (hpath : w.documentPath environment = .ok path)
    (hwrite : w.writeNew path text = (files, some e)) :
    Inits w environment text (some e) files
  | unnamed {path : String} {files : FileTree} (hunnamed : environment = "")
    (hpath : w.documentPath environment = .ok path)
    (hwrite : w.writeNew path text = (files, none)) :
    Inits w environment text (some (.doesNotCompile path .missingEnvironment)) files
  | done {path : String} {files : FileTree} (hnamed : environment ≠ "")
    (hpath : w.documentPath environment = .ok path)
    (hwrite : w.writeNew path text = (files, none)) :
    Inits w environment text none files

theorem inits_init (w : Workspace) (options : Options) (environment : String)
    (appName : Option String) (appPath : String) :
    w.Inits environment (w.starterText environment appName appPath)
      (w.init options environment appName appPath).1.failure
      (w.init options environment appName appPath).2 := by
  unfold init
  cases hpath : w.documentPath environment with
  | error cause => exact .placeless hpath
  | ok path =>
    cases hwrite : w.writeNew path (w.starterText environment appName appPath) with
    | mk files problem =>
    rw [starterText] at hwrite
    simp only [hwrite]
    rw [← starterText] at hwrite
    cases problem with
    | some e => exact .unwritten hpath hwrite
    | none =>
      -- what was written is read back, and then the name of the environment decides
      obtain ⟨normal, hnormal⟩ :=
        exists_absolute (lost_of_documentPath hpath) ((Path.parent? path).getD ".")
      simp only [loadConfig_written (lost_of_documentPath hpath) hwrite]
      by_cases henv : environment = ""
      · subst henv
        rw [Document.compile_starter_eq_error hnormal]
        exact .unnamed rfl hpath hwrite
      · obtain ⟨c, hcompile⟩ := (Document.exists_compile_starter_iff hnormal).mpr henv
        rw [hcompile]
        exact .done henv hpath hwrite

/-- An `init` succeeds once its document is written, if the environment has a name. -/
theorem init_succeeds {options : Options} (hnamed : environment ≠ "")
    (hpath : w.documentPath environment = .ok path)
    (hwrite : (w.writeNew path (w.starterText environment appName appPath)).2 = none) :
    (w.init options environment appName appPath).1.failure = none := by
  have hend := w.inits_init options environment appName appPath
  generalize (w.init options environment appName appPath).1.failure = problem,
    (w.init options environment appName appPath).2 = files at hend ⊢
  cases hend with
  | placeless herror =>
    rw [hpath] at herror
    cases herror
  | unwritten hpath' hproblem =>
    rw [hpath] at hpath'
    cases hpath'
    rw [hproblem] at hwrite
    exact hwrite
  | unnamed hunnamed => exact absurd hunnamed hnamed
  | done => rfl

end Workspace

end Rollout
