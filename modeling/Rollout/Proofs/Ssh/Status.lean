import Rollout.Proofs.Dict
import Rollout.Ssh.Answer

/-!
# The status of a host

A host is asked for the states of its services, and prints one a line, in the order of the services.
The services of a host have different names, so each state goes to one service, and the condition of
the host can be read off the states that its services then have.

## Main definitions

* `Ssh.IsStatusOf` — a status is that of services with some states
* `Ssh.listedStates` — the states that an output lists
* `Ssh.IsAnswer` — what the question for its status comes to for a host

## Main results

* `Ssh.summarize_eq_some_iff` — an output tells a status if it has a state for each service, and
  then it tells the status of the services with these states
* `Ssh.status_exact` — what the question comes to, for any host and whatever comes of `ssh`
-/

namespace Rollout.Ssh

open Text (filledLines)

variable {services states : List String} {s t : HostStatus}

/-- The states of services, as their names are looked up in a status, are the ones given. The host
runs if all of them are active, is stopped if none is, and is neither otherwise. -/
structure IsStatusOf (services states : List String) (s : HostStatus) : Prop where
  names : ∀ name, (∃ state, s.services.get? name = some state) ↔ name ∈ services
  states : ∀ (i : Nat) (hi : i < services.length) (hi' : i < states.length),
    s.services.get? services[i] = some states[i]
  running : s.condition = .running ↔ ∀ name ∈ services, s.services.get? name = some "active"
  stopped : s.condition = .stopped ↔ ∀ name ∈ services, s.services.get? name ≠ some "active"
  partly : s.condition = .other "partial" ↔
    (∃ name ∈ services, s.services.get? name = some "active") ∧
      ∃ name ∈ services, s.services.get? name ≠ some "active"

/-! ### What an output tells -/

/-- The condition of a host, by the states of its services. -/
theorem condition_eq (states : List String) :
    condition states =
      if ∀ state ∈ states, state = "active" then .running
      else if ∀ state ∈ states, state ≠ "active" then .stopped
      else .other "partial" := by
  simp only [condition, List.length_filter_eq_length_iff, List.length_eq_zero_iff,
    List.filter_eq_nil_iff, beq_iff_eq, ne_eq]

/-- In a dict that pairs names with states, the names have the states, in their order. -/
theorem map_get?_ofList_zip (hnodup : services.Nodup) (hlength : states.length = services.length) :
    services.map (Dict.ofList (services.zip states)).get? = states.map some := by
  have hkeys : ((services.zip states).map Prod.fst).Nodup := by
    rwa [List.map_fst_zip hlength.ge]
  apply List.ext_getElem
  · rw [List.length_map, List.length_map, hlength]
  · intro i hi hi'
    rw [List.length_map] at hi hi'
    have hpair : (services[i], states[i]) ∈ services.zip states := by
      have hzip : i < (services.zip states).length := by
        rw [List.length_zip, hlength, Nat.min_self]
        exact hi
      have hmem := List.getElem_mem hzip
      rwa [List.getElem_zip] at hmem
    rw [List.getElem_map, List.getElem_map]
    exact (Dict.get?_ofList_eq_some_iff hkeys).mpr hpair

/-- A host runs if all its services are active. -/
theorem condition_eq_running_iff :
    condition states = .running ↔ ∀ state ∈ states, state = "active" := by
  rw [condition_eq]
  split
  case isTrue hall => exact iff_of_true rfl hall
  case isFalse hall =>
    refine iff_of_false ?_ hall
    split
    case isTrue hnone => exact nofun
    case isFalse hnone => exact nofun

/-- A host with services is stopped if none of them is active. -/
theorem condition_eq_stopped_iff (hstates : states ≠ []) :
    condition states = .stopped ↔ ∀ state ∈ states, state ≠ "active" := by
  rw [condition_eq]
  split
  case isTrue hall =>
    obtain ⟨state, hstate⟩ := List.exists_mem_of_ne_nil states hstates
    exact iff_of_false nofun fun hnone => hnone state hstate (hall state hstate)
  case isFalse hall =>
    split
    case isTrue hnone => exact iff_of_true rfl hnone
    case isFalse hnone => exact iff_of_false nofun hnone

/-- A host is neither if some of its services are active and some are not. -/
theorem condition_eq_partial_iff :
    condition states = .other "partial" ↔
      (∃ state ∈ states, state = "active") ∧ ∃ state ∈ states, state ≠ "active" := by
  rw [condition_eq]
  split
  case isTrue hall =>
    exact iff_of_false nofun fun ⟨_, state, hstate, hne⟩ => hne (hall state hstate)
  case isFalse hall =>
    split
    case isTrue hnone =>
      exact iff_of_false nofun fun ⟨⟨state, hstate, heq⟩, _⟩ => hnone state hstate heq
    case isFalse hnone =>
      push Not at hall hnone
      exact iff_of_true rfl ⟨hnone, hall⟩

/-- Names that are paired with states make up the status of the services with these states. -/
theorem isStatusOf_zip (hnodup : services.Nodup) (hlength : states.length = services.length)
    (hservices : services ≠ []) :
    IsStatusOf services states ⟨condition states, .ofList (services.zip states)⟩ := by
  have hmap := map_get?_ofList_zip hnodup hlength
  have hkeys : (services.zip states).map Prod.fst = services := List.map_fst_zip hlength.ge
  have hstates : states ≠ [] := by
    rwa [← List.length_pos_iff, hlength, List.length_pos_iff]
  generalize hd : Dict.ofList (services.zip states) = d at hmap ⊢
  -- what holds of the values of all names holds of all states, as both lists are the same
  have hforall (P : Option String → Prop) :
      (∀ name ∈ services, P (d.get? name)) ↔ ∀ state ∈ states, P (some state) := by
    rw [← List.forall_mem_map, hmap, List.forall_mem_map]
  have hexists (P : Option String → Prop) :
      (∃ name ∈ services, P (d.get? name)) ↔ ∃ state ∈ states, P (some state) := by
    rw [← not_iff_not]
    push Not
    exact hforall fun o => ¬ P o
  constructor
  case names =>
    -- this is about the keys alone, so it does not follow from the list of values
    intro name
    have hdistinct : ((services.zip states).map Prod.fst).Nodup := hkeys.symm ▸ hnodup
    have hpairs : (∃ state, (name, state) ∈ services.zip states) ↔
        name ∈ (services.zip states).map Prod.fst := by
      rw [List.mem_map]
      constructor
      · rintro ⟨state, hpair⟩
        exact ⟨_, hpair, rfl⟩
      · rintro ⟨⟨_, state⟩, hpair, rfl⟩
        exact ⟨state, hpair⟩
    simp only [← hd, Dict.get?_ofList_eq_some_iff hdistinct]
    rw [hpairs, hkeys]
  case states =>
    intro i hi hi'
    simpa [hi, hi'] using congrArg (·[i]?) hmap
  case running =>
    rw [hforall (· = some "active"), condition_eq_running_iff]
    simp only [Option.some_inj]
  case stopped =>
    rw [hforall (· ≠ some "active"), condition_eq_stopped_iff hstates]
    simp only [ne_eq, Option.some_inj]
  case partly =>
    rw [hexists (· = some "active"), hexists (· ≠ some "active"), condition_eq_partial_iff]
    simp only [ne_eq, Option.some_inj]

/-- What is no service has no state. -/
theorem IsStatusOf.get?_eq_none (h : IsStatusOf services states s) {name : String}
    (hname : name ∉ services) : s.services.get? name = none := by
  rw [Option.eq_none_iff_forall_ne_some]
  exact fun state hstate => hname ((h.names name).mp ⟨state, hstate⟩)

/-- There is one status of services with some states. -/
theorem IsStatusOf.unique (hlength : states.length = services.length)
    (h : IsStatusOf services states s) (h' : IsStatusOf services states t) : s = t := by
  have hget : ∀ name, s.services.get? name = t.services.get? name := by
    intro name
    by_cases hname : name ∈ services
    · obtain ⟨i, hi, rfl⟩ := List.getElem_of_mem hname
      rw [h.states i hi (hlength ▸ hi), h'.states i hi (hlength ▸ hi)]
    · rw [h.get?_eq_none hname, h'.get?_eq_none hname]
  obtain ⟨c, d⟩ := s
  obtain ⟨c', d'⟩ := t
  obtain rfl : d = d' := Dict.ext_get? hget
  -- of the three conditions, the states of the services leave one
  have hcondition : c = c' := by
    by_cases hall : ∀ name ∈ services, d.get? name = some "active"
    · exact (h.running.mpr hall).trans (h'.running.mpr hall).symm
    · by_cases hnone : ∀ name ∈ services, d.get? name ≠ some "active"
      · exact (h.stopped.mpr hnone).trans (h'.stopped.mpr hnone).symm
      · push Not at hall hnone
        exact (h.partly.mpr ⟨hnone, hall⟩).trans (h'.partly.mpr ⟨hnone, hall⟩).symm
  rw [hcondition]

/-- The states that an output lists: its lines, trimmed, without blank ones. -/
def listedStates (stdout : String) : List String := (filledLines stdout.toList).map String.ofList

theorem summarize_eq (services : List String) (stdout : String) :
    summarize services stdout =
      if (listedStates stdout).length = services.length then
        some ⟨condition (listedStates stdout), .ofList (services.zip (listedStates stdout))⟩
      else none :=
  rfl

/-- An output tells a status if it lists as many states as there are services. -/
theorem summarize_eq_some_iff (hnodup : services.Nodup) (hservices : services ≠ [])
    {stdout : String} :
    summarize services stdout = some s ↔
      (listedStates stdout).length = services.length ∧
        IsStatusOf services (listedStates stdout) s := by
  rw [summarize_eq]
  split
  case isTrue hlength =>
    have htold := isStatusOf_zip hnodup hlength hservices
    rw [Option.some_inj]
    exact ⟨fun h => ⟨hlength, h ▸ htold⟩, fun h => htold.unique hlength h.2⟩
  case isFalse hlength =>
    exact iff_of_false nofun fun h => hlength h.1

/-- Blank lines are no states, and a line may end in a carriage return. -/
example : summarize ["web", "worker"] "active\r\n\n  failed\n" =
    some ⟨.other "partial", .ofList [("web", "active"), ("worker", "failed")]⟩ := by
  decide

theorem summarize_eq_none_iff {stdout : String} :
    summarize services stdout = none ↔ (listedStates stdout).length ≠ services.length := by
  rw [summarize_eq]
  split
  case isTrue hlength => exact iff_of_false nofun (not_not_intro hlength)
  case isFalse hlength => exact iff_of_true rfl hlength

/-! ### What the question comes to -/

/-- The words for `ssh` that ask a host for the states of its services. -/
def statusWords (host : Host) : List String := arguments host (statusCommand host.services.names)

/-- What the question for its status comes to for a host, by what comes of `ssh`. -/
inductive IsAnswer (client : Client) (host : Host) : Except HostError HostStatus → Prop where
  /-- A host without services is stopped. -/
  | noServices (hnone : host.services.names = []) : IsAnswer client host (.ok ⟨.stopped, ∅⟩)
  /-- `ssh` does not start. -/
  | notStarted {reason : String} (hsome : host.services.names ≠ [])
      (hrun : client (statusWords host) = .notStarted reason) :
      IsAnswer client host (.error ⟨host.name, .unreachable
        ("Failed to execute: ssh " ++ " ".intercalate (statusWords host) ++ ": " ++ reason)⟩)
  /-- `ssh` does not get through to the host. -/
  | noConnection {stdout stderr : String} (hsome : host.services.names ≠ [])
      (hrun : client (statusWords host) = .ended (some 255) stdout stderr) :
      IsAnswer client host (.error ⟨host.name, .unreachable stderr⟩)
  /-- There is a state for each service, whatever the exit code says. -/
  | told {code : Option Nat} {stdout stderr : String} {s : HostStatus}
      (hsome : host.services.names ≠ [])
      (hrun : client (statusWords host) = .ended code stdout stderr) (hcode : code ≠ some 255)
      (hlength : (listedStates stdout).length = host.services.names.length)
      (hstatus : IsStatusOf host.services.names (listedStates stdout) s) :
      IsAnswer client host (.ok s)
  /-- The command succeeds with too many or too few states. -/
  | malformed {stdout stderr : String} (hsome : host.services.names ≠ [])
      (hrun : client (statusWords host) = .ended (some 0) stdout stderr)
      (hlength : (listedStates stdout).length ≠ host.services.names.length) :
      IsAnswer client host (.error ⟨host.name, .malformed "one state per service expected"⟩)
  /-- The command fails, or is killed, with too many or too few states. -/
  | commandFailed {code : Option Nat} {stdout stderr : String} (hsome : host.services.names ≠ [])
      (hrun : client (statusWords host) = .ended code stdout stderr) (hcode : code ≠ some 255)
      (hfailed : code ≠ some 0)
      (hlength : (listedStates stdout).length ≠ host.services.names.length) :
      IsAnswer client host
        (.error ⟨host.name, .commandFailed (statusCommand host.services.names) stderr⟩)

variable {client client' : Client} {host : Host} {r : Except HostError HostStatus}

theorem status_of_noServices (h : host.services.names = []) :
    status client host = .ok ⟨.stopped, ∅⟩ := by
  simp [status, h]

/-- For a host with services, the output tells the status, or else the exit code tells what went
wrong. -/
theorem status_of_ended (hsome : host.services.names ≠ []) {code : Option Nat}
    {stdout stderr : String} (hrun : client (statusWords host) = .ended code stdout stderr)
    (hcode : code ≠ some 255) :
    status client host =
      match summarize host.services.names stdout with
      | some s => .ok s
      | none =>
        if code = some 0 then .error ⟨host.name, .malformed "one state per service expected"⟩
        else .error ⟨host.name, .commandFailed (statusCommand host.services.names) stderr⟩ := by
  rw [statusWords] at hrun
  simp only [status, List.isEmpty_iff, hsome, if_false, execute, hrun, connectionFailed, hcode]
  rfl

theorem status_of_notStarted (hsome : host.services.names ≠ []) {reason : String}
    (hrun : client (statusWords host) = .notStarted reason) :
    status client host = .error ⟨host.name, .unreachable
      ("Failed to execute: ssh " ++ " ".intercalate (statusWords host) ++ ": " ++ reason)⟩ := by
  rw [statusWords] at hrun ⊢
  simp only [status, List.isEmpty_iff, hsome, if_false, execute, hrun]
  rfl

theorem status_of_noConnection (hsome : host.services.names ≠ []) {stdout stderr : String}
    (hrun : client (statusWords host) = .ended (some 255) stdout stderr) :
    status client host = .error ⟨host.name, .unreachable stderr⟩ := by
  rw [statusWords] at hrun
  simp only [status, List.isEmpty_iff, hsome, if_false, execute, hrun, connectionFailed, if_true]
  rfl

theorem nodup_services (host : Host) : host.services.names.Nodup := host.services.nodup

/-- What is said to be the answer is what the question comes to. -/
theorem IsAnswer.status_eq (h : IsAnswer client host r) : status client host = r := by
  cases h with
  | noServices hnone => exact status_of_noServices hnone
  | notStarted hsome hrun => exact status_of_notStarted hsome hrun
  | noConnection hsome hrun => exact status_of_noConnection hsome hrun
  | told hsome hrun hcode hlength hstatus =>
    have htold := (summarize_eq_some_iff (nodup_services host) hsome).mpr ⟨hlength, hstatus⟩
    rw [status_of_ended hsome hrun hcode, htold]
  | malformed hsome hrun hlength =>
    rw [status_of_ended hsome hrun (by decide), summarize_eq_none_iff.mpr hlength]
    rfl
  | commandFailed hsome hrun hcode hfailed hlength =>
    rw [status_of_ended hsome hrun hcode, summarize_eq_none_iff.mpr hlength]
    exact if_neg hfailed

/-- Whatever comes of `ssh`, there is an answer. -/
theorem exists_isAnswer (client : Client) (host : Host) : ∃ r, IsAnswer client host r := by
  -- the guards of the constructors, one after the other, leave no case out
  by_cases hsome : host.services.names = []
  · exact ⟨_, .noServices hsome⟩
  · cases hrun : client (statusWords host) with
    | notStarted reason => exact ⟨_, .notStarted hsome hrun⟩
    | ended code stdout stderr =>
      by_cases hcode : code = some 255
      · exact ⟨_, .noConnection hsome (hcode ▸ hrun)⟩
      · by_cases hlength : (listedStates stdout).length = host.services.names.length
        · exact ⟨_, .told hsome hrun hcode hlength
            (isStatusOf_zip (nodup_services host) hlength hsome)⟩
        · by_cases hfailed : code = some 0
          · exact ⟨_, .malformed hsome (hfailed ▸ hrun) hlength⟩
          · exact ⟨_, .commandFailed hsome hrun hcode hfailed hlength⟩

theorem status_eq_iff : status client host = r ↔ IsAnswer client host r := by
  refine ⟨?_, IsAnswer.status_eq⟩
  rintro rfl
  obtain ⟨r, hr⟩ := exists_isAnswer client host
  rwa [hr.status_eq]

/-- `ssh` is executed once, unless there are no services; then it is not executed. -/
theorem statusCalls_eq (host : Host) :
    statusCalls host = if host.services.names = [] then [] else [statusWords host] := by
  simp [statusCalls, statusWords, Roster.isEmpty, Roster.names]

/-- The answer depends on the executions that the question needs, and on no other. -/
theorem status_congr (h : ∀ words ∈ statusCalls host, client words = client' words) :
    status client host = status client' host := by
  by_cases hsome : host.services.names = []
  · rw [status_of_noServices hsome, status_of_noServices hsome]
  · have hrun : client (statusWords host) = client' (statusWords host) := by
      apply h
      rw [statusCalls_eq, if_neg hsome]
      exact List.mem_singleton_self _
    rw [statusWords] at hrun
    simp only [status, execute, hrun]

/-- What the question for its status comes to for a host, whatever comes of `ssh`: it is answered or
fails as in `IsAnswer`, and in no other way. `ssh` is executed for a host with services, once, and
nothing else of it matters; without services a host never counts as running. -/
theorem status_exact (client : Client) (host : Host) :
    (∀ r, status client host = r ↔ IsAnswer client host r) ∧
    statusCalls host = (if host.services.names = [] then [] else [statusWords host]) ∧
    (∀ client' : Client, (∀ words ∈ statusCalls host, client words = client' words) →
      status client host = status client' host) ∧
    ∀ s, status client host = .ok s → s.condition = .running → host.services.names ≠ [] := by
  refine ⟨fun r => status_eq_iff, statusCalls_eq host, fun client' h => status_congr h, ?_⟩
  intro s hs hrunning hnone
  rw [status_of_noServices hnone, Except.ok.injEq] at hs
  rw [← hs] at hrunning
  cases hrunning

end Rollout.Ssh
