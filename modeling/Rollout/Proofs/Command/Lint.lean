import Rollout.Command.Lint
import Rollout.Proofs.Config.Lookup

/-!
# What a check finds

A configuration works at a deployment if it names the environment it is stored under, has a host
and a service on each host, and if all that it refers to is there: the application a directory, the
keys, settings and scripts files. A check finds just what keeps a configuration from that, each
once, in one order.

## Main definitions

* `Workspace.HasFile`, `Workspace.HasDirectory` — what a path leads to
* `Config.Works` — configurations that work
* `Problem.Arises`, `Problem.place` — what is wrong with a configuration, and where it comes in
  the order
* `Problem.Lists` — the problems of a configuration, in order
* `Problem.subjects` — what a problem is about
* `Outcome.Reports` — what a check comes to for some problems

## Main results

* `Problem.Lists.unique`, `Problem.Lists.nodup` — there is one such list, without repetitions
* `Config.lists_problems` — a check finds it
* `Problem.infix_message` — the message of a problem names what the problem is about
* `Workspace.lint_reports`, `Workspace.exists_line_of_arises` — a check reports what it finds, each
  problem on a line of its own
* `Workspace.lint_exact` — a check succeeds exactly if there is a configuration that works
-/

namespace Rollout

/-- A path leads to a file. -/
def Workspace.HasFile (w : Workspace) (path : String) : Prop :=
  ∃ content, w.files.at? w.workingDir path = some (.file content)

/-- A path leads to a directory. -/
def Workspace.HasDirectory (w : Workspace) (path : String) : Prop :=
  ∃ entries, w.files.at? w.workingDir path = some (.directory entries)

/-- A configuration that is stored under the name of an environment works at a deployment. -/
structure Config.Works (w : Workspace) (stored : String) (c : Config) : Prop where
  environment : c.environment = stored
  app : w.HasDirectory c.app.path
  hosts : c.hosts.toList ≠ []
  services : ∀ h ∈ c.hosts.toList, h.services.toList ≠ []
  keys : ∀ h ∈ c.hosts.toList, ∀ path, h.credentials.pem = some path → w.HasFile path
  settings : ∀ h ∈ c.hosts.toList, ∀ s ∈ h.services.toList, ∀ path,
    s.settingsPath = some path → w.HasFile path
  scripts : ∀ event path, c.hooks.get? event = some path → w.HasFile path

namespace Problem

/-- Something is wrong with a configuration that is stored under the name of an environment. -/
def Arises (w : Workspace) (stored : String) (c : Config) : Problem → Prop
  | otherEnvironment named stored' =>
    named = c.environment ∧ stored' = stored ∧ c.environment ≠ stored
  | noApp path => path = c.app.path ∧ ¬ w.HasDirectory c.app.path
  | noHosts => c.hosts.toList = []
  | noServices host => ∃ h ∈ c.hosts.toList, host = h.name ∧ h.services.toList = []
  | noKey host path =>
    ∃ h ∈ c.hosts.toList, host = h.name ∧ h.credentials.pem = some path ∧ ¬ w.HasFile path
  | noSettings service host path =>
    ∃ h ∈ c.hosts.toList, ∃ s ∈ h.services.toList, service = s.name ∧ host = h.name ∧
      s.settingsPath = some path ∧ ¬ w.HasFile path
  | noScript event path => c.hooks.get? event = some path ∧ ¬ w.HasFile path

/-- Where a problem comes among those of a configuration: first the environment, the application
and that there are no hosts; then host by host the lack of services, the key, and the settings of
one service after the other; then the scripts, event by event. -/
def place (c : Config) : Problem → List Nat
  | otherEnvironment _ _ => [0]
  | noApp _ => [1]
  | noHosts => [2]
  | noServices host => [3, c.hosts.names.idxOf host, 0]
  | noKey host _ => [3, c.hosts.names.idxOf host, 1]
  | noSettings service host _ =>
    [3, c.hosts.names.idxOf host, 2, ((c.services host).map Service.name).idxOf service]
  | noScript event _ => [4, c.hooks.keys.idxOf event]

/-- All that is wrong with a configuration, in order, each once. -/
structure Lists (w : Workspace) (stored : String) (c : Config) (problems : List Problem) :
    Prop where
  mem_iff : ∀ p, p ∈ problems ↔ p.Arises w stored c
  ascending : problems.Pairwise fun p q => p.place c < q.place c

variable {w : Workspace} {stored : String} {c : Config} {problems problems' : List Problem}
  {p q : Problem}

theorem Lists.nodup (h : Lists w stored c problems) : problems.Nodup := by
  refine h.ascending.imp ?_
  rintro p q lt rfl
  exact List.lt_irrefl _ lt

/-- What is wrong with a configuration determines the list. -/
theorem Lists.unique (h : Lists w stored c problems) (h' : Lists w stored c problems') :
    problems = problems' := by
  have perm : problems.Perm problems' := by
    rw [List.perm_ext_iff_of_nodup h.nodup h'.nodup]
    exact fun p => (h.mem_iff p).trans (h'.mem_iff p).symm
  refine perm.eq_of_pairwise (fun p q _ _ lt gt => ?_) h.ascending h'.ascending
  exact absurd (List.lt_trans lt gt) (List.lt_irrefl _)

end Problem

/-! ### Single checks -/

namespace Workspace

variable {w : Workspace} {path : String}

theorem isFile_iff : w.isFile path = true ↔ w.HasFile path := by
  rw [isFile, FileTree.isFile, HasFile]
  rcases w.files.at? w.workingDir path with _ | (content | entries) <;> simp

theorem isDirectory_iff : w.isDirectory path = true ↔ w.HasDirectory path := by
  rw [isDirectory, FileTree.isDirectory, HasDirectory]
  rcases w.files.at? w.workingDir path with _ | (content | entries) <;> simp

end Workspace

namespace Problem

variable {w : Workspace} {stored : String} {c : Config} {p q : Problem} {b : Bool}

@[simp] theorem mem_when : q ∈ p.when b ↔ q = p ∧ b = true := by
  cases b <;> simp [when]

theorem pairwise_when {R : Problem → Problem → Prop} : (p.when b).Pairwise R := by
  cases b <;> simp [when]

@[simp] theorem mem_unlessFile {problem : String → Problem} {o : Option String} :
    q ∈ unlessFile w problem o ↔ ∃ path, q = problem path ∧ o = some path ∧ ¬ w.HasFile path := by
  cases o with
  | none => simp [unlessFile]
  | some path => simp [unlessFile, ← Workspace.isFile_iff]

theorem pairwise_unlessFile {R : Problem → Problem → Prop} {problem : String → Problem}
    {o : Option String} : (unlessFile w problem o).Pairwise R := by
  cases o with
  | none => exact .nil
  | some path => exact pairwise_when

end Problem

/-! ### What a check finds is wrong -/

section Finding

variable {w : Workspace} {stored : String} {c : Config} {p : Problem}

theorem Host.mem_problems_iff {h : Host} :
    p ∈ h.problems w ↔
      (p = .noServices h.name ∧ h.services.toList = []) ∨
      (∃ path, p = .noKey h.name path ∧ h.credentials.pem = some path ∧ ¬ w.HasFile path) ∨
      ∃ s ∈ h.services.toList, ∃ path, p = .noSettings s.name h.name path ∧
        s.settingsPath = some path ∧ ¬ w.HasFile path := by
  simp [Host.problems, Service.problems, Roster.isEmpty]

/-- A check finds a problem exactly if it arises. -/
theorem Config.mem_problems_iff : p ∈ c.problems w stored ↔ p.Arises w stored c := by
  simp only [Config.problems, List.mem_append, List.mem_flatMap, Problem.mem_when,
    Host.mem_problems_iff, Bool.not_eq_true', ← Bool.not_eq_true, Workspace.isFile_iff,
    Workspace.isDirectory_iff, Roster.isEmpty, List.isEmpty_iff, bne_iff_ne, Prod.exists,
    ← Dict.get?_eq_some_iff]
  -- of the parts of the list, the one for its kind is where a problem can be
  cases p <;> simp [Problem.Arises, and_assoc]

/-- A configuration works if nothing is wrong with it. -/
theorem Config.works_iff : c.Works w stored ↔ ∀ p, ¬ Problem.Arises w stored c p := by
  -- each condition rules out one kind of problem
  constructor
  · intro h p hp
    cases p with
    | otherEnvironment named stored' => exact hp.2.2 h.environment
    | noApp path => exact hp.2 h.app
    | noHosts => exact h.hosts hp
    | noServices host =>
      obtain ⟨g, hg, -, hnone⟩ := hp
      exact h.services g hg hnone
    | noKey host path =>
      obtain ⟨g, hg, -, hpem, hgone⟩ := hp
      exact hgone (h.keys g hg path hpem)
    | noSettings service host path =>
      obtain ⟨g, hg, s, hs, -, -, hpath, hgone⟩ := hp
      exact hgone (h.settings g hg s hs path hpath)
    | noScript event path => exact hp.2 (h.scripts event path hp.1)
  · intro h
    constructor
    case environment =>
      by_contra hother
      exact h (.otherEnvironment c.environment stored) ⟨rfl, rfl, hother⟩
    case app =>
      by_contra hgone
      exact h (.noApp c.app.path) ⟨rfl, hgone⟩
    case hosts => exact h .noHosts
    case services => exact fun g hg hnone => h (.noServices g.name) ⟨g, hg, rfl, hnone⟩
    case keys =>
      intro g hg path hpem
      by_contra hgone
      exact h (.noKey g.name path) ⟨g, hg, rfl, hpem, hgone⟩
    case settings =>
      intro g hg s hs path hpath
      by_contra hgone
      exact h (.noSettings s.name g.name path) ⟨g, hg, s, hs, rfl, rfl, hpath, hgone⟩
    case scripts =>
      intro event path hscript
      by_contra hgone
      exact h (.noScript event path) ⟨hscript, hgone⟩

/-! ### The order in which a check finds it -/

/-- Distinct names come in the order of their places. -/
theorem pairwise_idxOf_map {α : Type} {f : α → String} {l : List α} (h : (l.map f).Nodup) :
    l.Pairwise fun a b => (l.map f).idxOf (f a) < (l.map f).idxOf (f b) := by
  have hidx : ∀ (i : Nat) (hi : i < l.length), (l.map f).idxOf (f l[i]) = i := by
    intro i hi
    have hi' : i < (l.map f).length := by rwa [List.length_map]
    have hname := h.idxOf_getElem i hi'
    rwa [List.getElem_map] at hname
  rw [List.pairwise_iff_getElem]
  intro i j hi hj hij
  rwa [hidx i hi, hidx j hj]

/-- The part of the order that a kind of problem belongs to. -/
def Problem.rank : Problem → Nat
  | .otherEnvironment _ _ => 0
  | .noApp _ => 1
  | .noHosts => 2
  | .noServices _ | .noKey _ _ | .noSettings _ _ _ => 3
  | .noScript _ _ => 4

theorem Problem.place_lt_of_rank_lt {q : Problem} (h : p.rank < q.rank) :
    p.place c < q.place c := by
  -- the first number of a place is the rank, and it decides
  have hplace : ∀ p : Problem, ∃ rest, p.place c = p.rank :: rest := by
    intro p
    cases p <;> exact ⟨_, rfl⟩
  obtain ⟨rest, hp⟩ := hplace p
  obtain ⟨rest', hq⟩ := hplace q
  rw [hp, hq, List.cons_lt_cons_iff]
  exact .inl h

/-- Problems come in order, and all in the first so many parts of it. -/
structure Problem.AscendBelow (c : Config) (n : Nat) (problems : List Problem) : Prop where
  ascending : problems.Pairwise fun p q => p.place c < q.place c
  rank_lt : ∀ p ∈ problems, p.rank < n

theorem Problem.AscendBelow.append {n : Nat} {problems next : List Problem}
    (h : AscendBelow c n problems) (ascending : next.Pairwise fun p q => p.place c < q.place c)
    (rank_eq : ∀ p ∈ next, p.rank = n) : AscendBelow c (n + 1) (problems ++ next) where
  ascending := List.pairwise_append.mpr ⟨h.ascending, ascending, fun p hp q hq =>
    place_lt_of_rank_lt ((h.rank_lt p hp).trans_eq (rank_eq q hq).symm)⟩
  rank_lt := List.forall_mem_append.mpr
    ⟨fun p hp => Nat.lt_succ_of_lt (h.rank_lt p hp),
      fun p hp => Nat.lt_succ_of_le (rank_eq p hp).le⟩

theorem Problem.AscendBelow.append_when {n : Nat} {problems : List Problem}
    (h : AscendBelow c n problems) (p : Problem) (b : Bool) (hp : p.rank = n) :
    AscendBelow c (n + 1) (problems ++ p.when b) :=
  h.append pairwise_when fun _ hq => (congrArg rank (mem_when.mp hq).1).trans hp

/-- The problems of one host come in order. -/
theorem Host.ascending_problems {h : Host} (hh : h ∈ c.hosts.toList) :
    (h.problems w).Pairwise fun p q => p.place c < q.place c := by
  have hnodup : (h.services.toList.map Service.name).Nodup := h.services.nodup
  rw [Host.problems, List.append_assoc, List.pairwise_append, List.pairwise_append,
    List.pairwise_flatMap]
  -- each of the three parts is in order, the key comes before the settings, and the lack of
  -- services before both; within the settings the services decide
  refine ⟨Problem.pairwise_when, ⟨Problem.pairwise_unlessFile, ⟨?_, ?_⟩, ?_⟩, ?_⟩
  · exact fun s _ => Problem.pairwise_unlessFile
  · refine (pairwise_idxOf_map hnodup).imp fun {s t} hst => ?_
    simp only [Service.problems, Problem.mem_unlessFile]
    rintro _ ⟨path, rfl, -⟩ _ ⟨path', rfl, -⟩
    simpa [Problem.place, List.cons_lt_cons_iff, Config.services_of_mem hh] using hst
  · simp only [Service.problems, Problem.mem_unlessFile, List.mem_flatMap]
    rintro _ ⟨path, rfl, -⟩ _ ⟨s, -, path', rfl, -⟩
    simp [Problem.place, List.cons_lt_cons_iff]
  · simp only [Service.problems, Problem.mem_when, List.mem_append, Problem.mem_unlessFile,
      List.mem_flatMap]
    rintro _ ⟨rfl, -⟩ _ (⟨path, rfl, -⟩ | ⟨s, -, path, rfl, -⟩)
    · simp [Problem.place, List.cons_lt_cons_iff]
    · simp [Problem.place, List.cons_lt_cons_iff]

theorem Host.rank_problems {h : Host} (hp : p ∈ h.problems w) : p.rank = 3 := by
  rcases Host.mem_problems_iff.mp hp with ⟨rfl, -⟩ | ⟨path, rfl, -⟩ | ⟨s, -, path, rfl, -⟩ <;> rfl

/-- The problems of one host after the other come in order. -/
theorem Config.ascending_flatMap_problems :
    (c.hosts.toList.flatMap (Host.problems w)).Pairwise fun p q => p.place c < q.place c := by
  have hhosts := pairwise_idxOf_map c.hosts.nodup
  -- what comes first for a problem of a host is the place of the host
  have hplace : ∀ h : Host, ∀ p ∈ h.problems w,
      ∃ rest, p.place c = 3 :: c.hosts.names.idxOf h.name :: rest := by
    intro h p hp
    rcases Host.mem_problems_iff.mp hp with ⟨rfl, -⟩ | ⟨path, rfl, -⟩ | ⟨s, -, path, rfl, -⟩ <;>
      exact ⟨_, rfl⟩
  rw [List.pairwise_flatMap]
  refine ⟨fun h hh => Host.ascending_problems hh, hhosts.imp fun {h g} hlt p hp q hq => ?_⟩
  obtain ⟨rest, hp⟩ := hplace h p hp
  obtain ⟨rest', hq⟩ := hplace g q hq
  rw [hp, hq, List.cons_lt_cons_iff, List.cons_lt_cons_iff]
  exact .inr ⟨rfl, .inl hlt⟩

/-- The problems of one hook after the other come in order. -/
theorem Config.ascending_scripts :
    (c.hooks.entries.flatMap fun (event, path) =>
      Problem.when (.noScript event path) (!w.isFile path)).Pairwise
        fun p q => p.place c < q.place c := by
  have hevents : c.hooks.entries.Pairwise fun a b =>
      c.hooks.keys.idxOf a.1 < c.hooks.keys.idxOf b.1 := pairwise_idxOf_map c.hooks.nodup_keys
  rw [List.pairwise_flatMap]
  refine ⟨fun e _ => Problem.pairwise_when, hevents.imp ?_⟩
  simp only [Problem.mem_when]
  rintro ⟨event, path⟩ ⟨event', path'⟩ hlt _ ⟨rfl, -⟩ _ ⟨rfl, -⟩
  simpa [Problem.place, List.cons_lt_cons_iff] using hlt

/-- What a check finds comes in order. -/
theorem Config.ascending_problems :
    (c.problems w stored).Pairwise fun p q => p.place c < q.place c := by
  have hhost : ∀ p ∈ c.hosts.toList.flatMap (Host.problems w), p.rank = 3 := by
    rw [List.forall_mem_flatMap]
    exact fun h _ p hp => Host.rank_problems hp
  have hscript : ∀ p ∈ (c.hooks.entries.flatMap fun (event, path) =>
      Problem.when (.noScript event path) (!w.isFile path)), p.rank = 4 := by
    simp only [List.forall_mem_flatMap, Problem.mem_when]
    rintro ⟨event, path⟩ - _ ⟨rfl, -⟩
    rfl
  -- the parts of the list are those of the order
  have hnone : Problem.AscendBelow c 0 [] := ⟨.nil, nofun⟩
  have hfront := ((hnone.append_when (.otherEnvironment c.environment stored)
    (c.environment != stored) rfl).append_when (.noApp c.app.path)
      (!w.isDirectory c.app.path) rfl).append_when .noHosts c.hosts.isEmpty rfl
  have hhosts := hfront.append Config.ascending_flatMap_problems hhost
  exact (hhosts.append Config.ascending_scripts hscript).ascending

/-- A check finds all that is wrong, in order. -/
theorem Config.lists_problems (w : Workspace) (stored : String) (c : Config) :
    Problem.Lists w stored c (c.problems w stored) :=
  ⟨fun _ => Config.mem_problems_iff, Config.ascending_problems⟩

end Finding

/-! ### What a problem is called -/

namespace Problem

/-- What a problem is about: environments, hosts, services, events and paths. -/
def subjects : Problem → List String
  | otherEnvironment named stored => [named, stored]
  | noApp path => [path]
  | noHosts => []
  | noServices host => [host]
  | noKey host path => [host, path]
  | noSettings service host path => [service, host, path]
  | noScript event path => [event, path]

/-- A text that goes on still has in it what it had. -/
theorem infix_append {s front : String} (h : s.toList <:+: front.toList) (rest : String) :
    s.toList <:+: (front ++ rest).toList := by
  rw [String.toList_append]
  exact h.trans (List.prefix_append ..).isInfix

theorem infix_append_self (front s : String) : s.toList <:+: (front ++ s).toList := by
  rw [String.toList_append]
  exact (List.suffix_append ..).isInfix

/-- The message of a problem names all that the problem is about. -/
theorem infix_message (p : Problem) : ∀ s ∈ p.subjects, s.toList <:+: p.message.toList := by
  rw [message.eq_def]
  -- a message is put together from left to right, so the first subject has most behind it
  cases p with
  | noHosts => exact List.forall_mem_nil _
  | noApp | noServices =>
    rw [subjects, List.forall_mem_singleton]
    exact infix_append (infix_append_self ..) _
  | otherEnvironment | noKey | noScript =>
    rw [subjects, List.forall_mem_cons, List.forall_mem_singleton]
    exact ⟨infix_append (infix_append (infix_append (infix_append_self ..) _) _) _,
      infix_append (infix_append_self ..) _⟩
  | noSettings =>
    rw [subjects, List.forall_mem_cons, List.forall_mem_cons, List.forall_mem_singleton]
    exact ⟨infix_append (infix_append (infix_append (infix_append (infix_append
        (infix_append_self ..) _) _) _) _) _,
      infix_append (infix_append (infix_append (infix_append_self ..) _) _) _,
      infix_append (infix_append_self ..) _⟩

end Problem

/-! ### What a check reports -/

/-- The lines of a check about the problems that there are. -/
def Problem.verdict (colours : Bool) (problems : List Problem) : List String :=
  if problems = [] then [Terminal.success colours "Configuration is valid"]
  else problems.map fun p => Terminal.warning colours p.message

/-- A check of an environment reports problems: they are what it prints last, after an empty line,
and it succeeds only if there are none. -/
structure Outcome.Reports (o : Outcome) (colours : Bool) (environment : String)
    (problems : List Problem) : Prop where
  failure : o.failure =
    if problems = [] then none else some (.problems problems.length environment)
  stdout : "" :: Problem.verdict colours problems <:+ o.stdout

namespace Workspace

variable {w : Workspace} {options : Options} {environment : String} {c : Config}

/-- A check reports the problems of the configuration. -/
theorem lint_reports {c : Config} (h : w.environmentConfig environment = .ok c)
    (options : Options) :
    (w.lint options environment).Reports w.colours environment (c.problems w environment) := by
  unfold lint
  rw [h]
  constructor
  · simp only [List.isEmpty_iff]
  · simp only [Problem.verdict, List.isEmpty_iff]
    exact List.suffix_append _ _

/-- All that a problem of the configuration is about is named on one line that is printed. -/
theorem exists_line_of_arises {c : Config} (h : w.environmentConfig environment = .ok c)
    (options : Options) {p : Problem} (hp : p.Arises w environment c) :
    ∃ line ∈ (w.lint options environment).stdout, ∀ s ∈ p.subjects, s.toList <:+: line.toList := by
  have hmem : p ∈ c.problems w environment := ((c.lists_problems w environment).mem_iff p).mpr hp
  have hprinted := (lint_reports h options).stdout
  rw [Problem.verdict, if_neg (List.ne_nil_of_mem hmem)] at hprinted
  refine ⟨Terminal.warning w.colours p.message, ?_, fun s hs => ?_⟩
  · exact hprinted.subset (List.mem_cons_of_mem _ (List.mem_map_of_mem hmem))
  · exact (p.infix_message s hs).trans (Problem.infix_append_self ..)

/-- A check succeeds exactly if the environment has a configuration, and that works. -/
theorem lint_succeeds_iff :
    (w.lint options environment).failure = none ↔
      ∃ c, w.environmentConfig environment = .ok c ∧ c.Works w environment := by
  cases hconfig : w.environmentConfig environment with
  | error e => simp [lint, hconfig, Outcome.failed]
  | ok c =>
    rw [(lint_reports hconfig options).failure]
    have hnone : c.problems w environment = [] ↔ c.Works w environment := by
      rw [Config.works_iff, List.eq_nil_iff_forall_not_mem]
      simp only [Config.mem_problems_iff]
    simp [hnone]

/-- A check succeeds exactly if the environment has a configuration, and that works. Without a
configuration it says why there is none. Otherwise it reports all that is wrong with it and how much
that is: each problem once, first those of the whole, then those of one host after the other, then
the scripts. -/
theorem lint_exact (w : Workspace) (options : Options) (environment : String) :
    ((w.lint options environment).failure = none ↔
      ∃ c, w.environmentConfig environment = .ok c ∧ c.Works w environment) ∧
    (∀ e, w.environmentConfig environment = .error e →
      (w.lint options environment).failure = some (.config e)) ∧
    ∀ c, w.environmentConfig environment = .ok c →
      ∃ problems, (∀ l, Problem.Lists w environment c l ↔ l = problems) ∧ problems.Nodup ∧
        (w.lint options environment).Reports w.colours environment problems := by
  refine ⟨lint_succeeds_iff, fun e he => ?_, fun c hc => ?_⟩
  · rw [lint, he]
    rfl
  · have hlists := c.lists_problems w environment
    refine ⟨c.problems w environment, fun l => ⟨fun hl => hl.unique hlists, ?_⟩, hlists.nodup,
      lint_reports hc options⟩
    rintro rfl
    exact hlists

end Workspace

end Rollout
