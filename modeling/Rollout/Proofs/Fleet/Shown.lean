import Rollout.Proofs.Fleet.History

/-!
# What a history shows

The release that an environment runs, and the one before it, are found by position in the list of
the shown releases: the first that some host runs, and the next one. Names descend strictly in that
list, also when incomplete releases have been left out of it, so that positions mean order: of the
releases that some host runs the newest is the current one, and of all that are older than it the
newest is the previous one, whether or not some host still runs that.

## Main definitions

* `History.shown` — the releases of the entries
* `Release.IsNewest` — of the releases with a property, the one with the greatest name

## Main results

* `Release.find?_eq_some_iff` — the first of descending releases with a property is the newest
* `Release.getElem?_dropWhile` — the one behind it is the first of those that are older
* `Config.current_previous_exact` — the current and the previous release of a history
-/

namespace Rollout

namespace Release

/-- Of the releases with a property, one has the greatest name. -/
structure IsNewest (releases : List Release) (p : Release → Prop) (r : Release) : Prop where
  mem : r ∈ releases
  holds : p r
  greatest : ∀ r' ∈ releases, p r' → r'.name ≤ r.name

variable {releases : List Release} {r r' : Release}

/-! ### Releases in descending order -/

/-- Among descending releases a name tells which one is meant. -/
theorem eq_of_name_eq (descending : releases.Pairwise fun a b => b.name < a.name)
    (hr : r ∈ releases) (hr' : r' ∈ releases) (same : r.name = r'.name) : r = r' :=
  List.inj_on_of_nodup_map (nodup_names descending) hr hr' same

/-- Only one release is the newest. -/
theorem IsNewest.unique {p : Release → Prop}
    (descending : releases.Pairwise fun a b => b.name < a.name) (h : IsNewest releases p r)
    (h' : IsNewest releases p r') : r = r' :=
  eq_of_name_eq descending h.mem h'.mem <|
    Std.le_antisymm (h'.greatest r h.mem h.holds) (h.greatest r' h'.mem h'.holds)

/-- The first of descending releases with a property is the newest of those that have it. -/
theorem find?_eq_some_iff (descending : releases.Pairwise fun a b => b.name < a.name)
    {p : Release → Bool} :
    releases.find? p = some r ↔ IsNewest releases (fun r => p r = true) r := by
  have newest (r : Release) (h : releases.find? p = some r) :
      IsNewest releases (fun r => p r = true) r := by
    obtain ⟨hp, front, back, rfl, hfront⟩ := List.find?_eq_some_iff_append.mp h
    have behind := (List.pairwise_cons.mp (List.pairwise_append.mp descending).2.1).1
    refine ⟨by simp, hp, fun r' hr' hp' => ?_⟩
    rcases List.mem_append.mp hr' with hr' | hr'
    · -- no release in front of it has the property
      have hnot := hfront r' hr'
      simp [hp'] at hnot
    · rcases List.mem_cons.mp hr' with rfl | hr'
      · exact Std.le_refl _
      · exact Std.le_of_lt (behind r' hr')
  constructor
  · exact newest r
  · intro h
    cases hfound : releases.find? p with
    | none => exact absurd h.holds (List.find?_eq_none.mp hfound r h.mem)
    | some r' => rw [h.unique descending (newest r' hfound)]

/-- Behind the first of descending releases with a property stands the first of all that are older
than it, whether they have the property or not. -/
theorem getElem?_dropWhile (descending : releases.Pairwise fun a b => b.name < a.name)
    (p : Release → Bool) :
    (releases.dropWhile fun r => !p r)[1]? =
      (releases.find? p).bind fun r => releases.find? fun q => q.name < r.name := by
  induction releases with
  | nil => rfl
  | cons a rest ih =>
    obtain ⟨older, descendingRest⟩ := List.pairwise_cons.mp descending
    by_cases ha : p a = true
    · -- all that stand behind `a` are older
      have next : (rest.find? fun q => q.name < a.name) = rest.head? := by
        cases rest with
        | nil => rfl
        | cons b rest => exact List.find?_cons_of_pos (by simpa using older b List.mem_cons_self)
      rw [List.dropWhile_cons_of_neg (by simp [ha]), List.find?_cons_of_pos ha, Option.bind_some,
        List.find?_cons_of_neg (by simp), next, List.getElem?_cons_succ, List.head?_eq_getElem?]
    · rw [List.dropWhile_cons_of_pos (by simp [ha]), List.find?_cons_of_neg ha, ih descendingRest]
      -- what is found behind `a` is older than `a`, so `a` is not older than that
      refine Option.bind_congr fun r hr => ?_
      have lt : r.name < a.name := older r (List.mem_of_find?_eq_some hr)
      have notOlder : ¬ a.name < r.name := fun gt => String.lt_irrefl _ (String.lt_trans lt gt)
      rw [List.find?_cons_of_neg (by simpa using notOlder)]

end Release

/-! ### Current and previous releases -/

/-- The releases that a history shows. -/
def History.shown (h : History) : List Release := h.entries.map HistoryEntry.release

theorem History.current?_eq (h : History) : h.current? = h.shown.find? (·.current) := by
  rw [History.current?, History.shown, List.find?_map]
  rfl

theorem History.previous?_eq (h : History) :
    h.previous? = (h.shown.dropWhile fun r => !r.current)[1]? := by
  rw [History.previous?, History.shown, List.dropWhile_map, List.getElem?_map]
  rfl

theorem History.shown_eq (h : History) :
    h.shown =
      if h.onlyComplete then h.releases.filter fun r => h.coverage r == .complete
      else h.releases := by
  rw [History.shown, History.entries_eq, List.map_map]
  exact List.map_id _

variable {c : Config} {probe : Probe} {query : HistoryQuery} {how : Sweep}
  {report : Batch.Reported History} {r : Release} {supply : Batch.Supply} {jobs : Nat}
  {events : List Batch.Event}

/-- The shown releases are all releases or, if that is wanted, those that every host that answers
lists. -/
theorem Config.mem_shown_iff (h : c.history probe query how = .ok report) :
    r ∈ report.value.shown ↔ r ∈ report.value.releases ∧
      (query.onlyComplete = true → ∀ host ∈ c.answering probe query, r.name ∈ probe.listed host) := by
  rw [History.shown_eq, (Config.history_spec h).2.2.2]
  cases query.onlyComplete with
  | false => simp
  | true =>
    rw [if_pos rfl, List.mem_filter, beq_iff_eq]
    refine and_congr_right fun hr => ?_
    rw [Config.coverage_eq_complete_iff h hr]
    simp

/-- The shown releases descend. -/
theorem Config.descending_shown (h : c.history probe query how = .ok report) :
    report.value.shown.Pairwise fun a b => b.name < a.name := by
  have descending := (Config.gathered_history h).descending
  rw [History.shown_eq]
  split
  · exact descending.filter _
  · exact descending

/-- The current release of a history is the newest of the shown ones that some host runs, and the
previous one is the newest of the shown ones that are older than the current one; shown are all
releases, or those that every host that answers lists. No release is current if no host runs one
that is shown, and none is previous if there is no current one or no shown release is older. -/
theorem Config.current_previous_exact {report : History}
    (h : c.collectHistory probe query supply jobs = .ok ⟨.ok report, events⟩) :
    (∀ r, r ∈ report.shown ↔ r ∈ report.releases ∧
        (query.onlyComplete = true →
          ∀ host ∈ c.answering probe query, r.name ∈ probe.listed host)) ∧
      (∀ r, report.current? = some r ↔
        Release.IsNewest report.shown (fun r => r.current = true) r) ∧
      (report.current? = none ↔ ∀ r ∈ report.shown, r.current = false) ∧
      (∀ q, report.previous? = some q ↔ ∃ r, report.current? = some r ∧
        Release.IsNewest report.shown (fun q => q.name < r.name) q) ∧
      (report.previous? = none ↔ report.current? = none ∨
        ∃ r, report.current? = some r ∧ ∀ q ∈ report.shown, r.name ≤ q.name) ∧
      ∀ q, report.previous? = some q → report.current? ≠ some q := by
  obtain ⟨how, h⟩ := Config.history_of_collectHistory h
  have descending : report.shown.Pairwise fun a b => b.name < a.name := Config.descending_shown h
  have previous : report.previous? =
      report.current?.bind fun r => report.shown.find? fun q => q.name < r.name := by
    rw [History.previous?_eq, Release.getElem?_dropWhile descending, History.current?_eq]
  have older (r q : Release) : (report.shown.find? fun q => q.name < r.name) = some q ↔
      Release.IsNewest report.shown (fun q => q.name < r.name) q := by
    simpa using Release.find?_eq_some_iff descending (p := fun q => decide (q.name < r.name))
  refine ⟨fun r => Config.mem_shown_iff h, fun r => ?_, ?_, fun q => ?_, ?_, fun q hq hr => ?_⟩
  · rw [History.current?_eq]
    exact Release.find?_eq_some_iff descending
  · rw [History.current?_eq, List.find?_eq_none]
    simp
  · simp only [previous, Option.bind_eq_some_iff, older]
  · rw [previous]
    cases report.current? with
    | none => simp
    | some r =>
      simp only [Option.bind_some, List.find?_eq_none, decide_eq_true_eq, Std.not_lt, reduceCtorEq,
        Option.some.injEq, exists_eq_left', false_or]
  · -- the previous release is older than the current one, so it is not older than itself
    rw [previous, hr, Option.bind_some, older] at hq
    exact String.lt_irrefl _ hq.holds

/-- What the hosts of the environment in which two share an alias answer while a release is being
rolled out: the newest release runs on one of them and is not yet on the other, which still runs the
one before. -/
def midwayProbe : Probe where
  releases host :=
    if host.name = "web.us" then .ok ⟨some "r3", ["r1", "r3", "r2"]⟩
    else if host.name = "web.eu" then .ok ⟨some "r2", ["r2", "r1"]⟩
    else .error ⟨host.name, .unreachable "no answer"⟩
  status host := .error ⟨host.name, .unreachable "no answer"⟩

/-- What the hosts that answer say, in the order of the hosts. -/
def midwaySightings : List Sighting :=
  [⟨"r1", "web.us", false⟩, ⟨"r3", "web.us", true⟩, ⟨"r2", "web.us", false⟩,
    ⟨"r2", "web.eu", true⟩, ⟨"r1", "web.eu", false⟩]

/-- The same, the greater releases first. -/
def midwayRows : List Sighting :=
  [⟨"r3", "web.us", true⟩, ⟨"r2", "web.us", false⟩, ⟨"r2", "web.eu", true⟩,
    ⟨"r1", "web.us", false⟩, ⟨"r1", "web.eu", false⟩]

theorem gather_midwaySightings (shortName : String → String) :
    Release.gather shortName midwaySightings = Release.gatherRows shortName none midwayRows := by
  rw [← Release.gather_of_pairwise (by decide)]
  refine Release.gather_eq_of_mem_iff fun s => ?_
  simp only [midwaySightings, midwayRows, List.mem_cons, List.not_mem_nil, or_false]
  tauto

/-- Asked for the current release, the history leaves the newest one out, since it is on one host
only; the release before it is current then, and the oldest one is the previous one. -/
theorem midwayProbe_current_previous :
    ∃ report events, aliasedConfig.collectHistory midwayProbe ⟨none, false, true, true⟩ .plenty 4 =
        .ok ⟨.ok report, events⟩ ∧
      report.releases.map Release.name = ["r3", "r2", "r1"] ∧
      (∃ r, report.current? = some r ∧ r.name = "r2" ∧
        Release.IsNewest report.shown (fun r => r.current = true) r) ∧
      ∃ q, report.previous? = some q ∧ q.name = "r1" ∧ report.current? ≠ some q := by
  obtain ⟨report, events, h, hreport⟩ :
      ∃ report events, aliasedConfig.collectHistory midwayProbe ⟨none, false, true, true⟩
          .plenty 4 = .ok ⟨.ok report, events⟩ ∧
        report = ⟨"production", Release.gather aliasedConfig.shortName midwaySightings,
          ["web.us", "web.eu", "db"], [⟨"db", .unreachable "no answer"⟩], true⟩ :=
    ⟨_, _, rfl, rfl⟩
  rw [gather_midwaySightings] at hreport
  have currentName : report.current?.map Release.name = some "r2" := by
    rw [hreport]
    rfl
  have previousName : report.previous?.map Release.name = some "r1" := by
    rw [hreport]
    rfl
  obtain ⟨r, hr, hrName⟩ := Option.map_eq_some_iff.mp currentName
  obtain ⟨q, hq, hqName⟩ := Option.map_eq_some_iff.mp previousName
  obtain ⟨-, current, -, -, -, differ⟩ := Config.current_previous_exact h
  exact ⟨report, events, h, by rw [hreport]; rfl, ⟨r, hr, hrName, (current r).mp hr⟩, q, hq, hqName,
    differ q hq⟩

end Rollout
