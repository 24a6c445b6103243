import Rollout.Fleet.History
import Rollout.Proofs.Dict

/-!
# Sightings put together by release

`Release.gatherRows` looks at the row of sightings that is open and at nothing before it. That is
enough because the rows come sorted: once a row is closed, no sighting of its release follows.

## Main definitions

* `Release.Gathers` — a release says of its name exactly what some sightings say of it
* `Release.Gathered` — releases in descending order that gather some sightings, none left out

## Main results

* `Release.Gathers.add` — a release with one more sighting of it gathers that one too
* `Release.gathered_gatherRows` — an open row and the rows after it are gathered
* `Release.gathered_gather` — sightings in any order are gathered by `Release.gather`
* `Release.Gathered.unique` — only one list of releases gathers given sightings
* `Release.gather_exact` — what is gathered, and that only the sightings as a set count
-/

namespace Rollout.Release

variable {shortName shortName' : String → String} {sightings others rows : List Sighting}
  {r r' : Release} {releases releases' : List Release} {s : Sighting}

/-- A release was seen, and says exactly what the sightings of its name say: on which hosts it
was seen, under which aliases, and whether one of them runs it. -/
structure Gathers (shortName : String → String) (sightings : List Sighting) (r : Release) :
    Prop where
  seen : ∃ s ∈ sightings, s.release = r.name
  hostNames : ∀ x, x ∈ r.hostNames ↔ ∃ s ∈ sightings, s.release = r.name ∧ s.host = x
  hosts : ∀ x, x ∈ r.hosts ↔ ∃ s ∈ sightings, s.release = r.name ∧ shortName s.host = x
  current : r.current = true ↔ ∃ s ∈ sightings, s.release = r.name ∧ s.current = true

/-- Only the sightings of its own name count for a release. -/
theorem Gathers.of_agree (h : r.Gathers shortName sightings)
    (agree : ∀ s, s.release = r.name → (s ∈ sightings ↔ s ∈ others)) :
    r.Gathers shortName others := by
  have transfer (p : Sighting → Prop) :
      (∃ s ∈ sightings, s.release = r.name ∧ p s) ↔ ∃ s ∈ others, s.release = r.name ∧ p s :=
    exists_congr fun s => ⟨fun ⟨hs, hn, hp⟩ => ⟨(agree s hn).mp hs, hn, hp⟩,
      fun ⟨hs, hn, hp⟩ => ⟨(agree s hn).mpr hs, hn, hp⟩⟩
  obtain ⟨s, hs, hn⟩ := h.seen
  exact {
    seen := ⟨s, (agree s hn).mp hs, hn⟩
    hostNames := fun x => (h.hostNames x).trans (transfer _)
    hosts := fun x => (h.hosts x).trans (transfer _)
    current := h.current.trans (transfer _) }

/-- Only the aliases of hosts on which something was seen count for a release. -/
theorem Gathers.of_aliases (h : r.Gathers shortName sightings)
    (agree : ∀ s ∈ sightings, shortName s.host = shortName' s.host) :
    r.Gathers shortName' sightings where
  seen := h.seen
  hostNames := h.hostNames
  hosts x := (h.hosts x).trans <| exists_congr fun s => and_congr_right fun hs => by
    rw [agree s hs]
  current := h.current

/-- The aliases of a release are those of the hosts on which it was seen. -/
theorem Gathers.mem_hosts_iff (h : r.Gathers shortName sightings) (x : String) :
    x ∈ r.hosts ↔ ∃ host ∈ r.hostNames, shortName host = x := by
  rw [h.hosts]
  constructor
  · rintro ⟨s, hs, hn, hx⟩
    exact ⟨s.host, (h.hostNames s.host).mpr ⟨s, hs, hn, rfl⟩, hx⟩
  · rintro ⟨host, hhost, hx⟩
    obtain ⟨s, hs, hn, rfl⟩ := (h.hostNames host).mp hhost
    exact ⟨s, hs, hn, hx⟩

/-- What sightings say of a name leaves no choice for the release. -/
theorem Gathers.unique (h : r.Gathers shortName sightings) (h' : r'.Gathers shortName sightings)
    (name : r.name = r'.name) : r = r' := by
  have hosts : r.hosts = r'.hosts := NameSet.ext_mem fun x => by rw [h.hosts, h'.hosts, name]
  have hostNames : r.hostNames = r'.hostNames := NameSet.ext_mem fun x => by
    rw [h.hostNames, h'.hostNames, name]
  have current : r.current = r'.current := by
    rw [← Bool.coe_iff_coe, h.current, h'.current, name]
  cases r
  cases r'
  simp only [mk.injEq]
  exact ⟨name, hosts, hostNames, current⟩

/-- A release that was seen once gathers that sighting. -/
theorem gathers_ofSighting (shortName : String → String) (s : Sighting) :
    (ofSighting shortName s).Gathers shortName [s] where
  seen := ⟨s, List.mem_singleton_self s, rfl⟩
  hostNames x := by simp [ofSighting, eq_comm]
  hosts x := by simp [ofSighting, eq_comm]
  current := by simp [ofSighting]

/-- One more sighting of a release is gathered by adding it. -/
theorem Gathers.add (h : r.Gathers shortName rows) (same : s.release = r.name) :
    (r.add shortName s).Gathers shortName (rows ++ [s]) where
  seen := ⟨s, by simp, same⟩
  hostNames x := by
    simp only [Release.add, NameSet.mem_insert, h.hostNames, List.mem_append,
      List.mem_singleton, or_and_right, exists_or, exists_eq_left, same, true_and]
    rw [or_comm, eq_comm]
  hosts x := by
    simp only [Release.add, NameSet.mem_insert, h.hosts, List.mem_append,
      List.mem_singleton, or_and_right, exists_or, exists_eq_left, same, true_and]
    rw [or_comm, eq_comm]
  current := by
    simp only [Release.add, Bool.or_eq_true, h.current, List.mem_append,
      List.mem_singleton, or_and_right, exists_or, exists_eq_left, same, true_and]

/-- Releases gather sightings: greater names first and no name twice, each of them exactly what
was seen of it, and nothing that was seen is left out. -/
structure Gathered (shortName : String → String) (sightings : List Sighting)
    (releases : List Release) : Prop where
  descending : releases.Pairwise fun a b => b.name < a.name
  gathers : ∀ r ∈ releases, r.Gathers shortName sightings
  complete : ∀ s ∈ sightings, ∃ r ∈ releases, r.name = s.release

/-- Neither the order of sightings counts nor how often one is listed, and of the aliases only those
of hosts on which something was seen. -/
theorem Gathered.of_agree (h : Gathered shortName sightings releases)
    (same : ∀ s, s ∈ sightings ↔ s ∈ others)
    (aliases : ∀ s ∈ sightings, shortName s.host = shortName' s.host) :
    Gathered shortName' others releases where
  descending := h.descending
  gathers r hr := ((h.gathers r hr).of_aliases aliases).of_agree fun s _ => same s
  complete s hs := h.complete s ((same s).mpr hs)

/-- Names that descend are distinct. -/
theorem nodup_names (descending : releases.Pairwise fun a b => b.name < a.name) :
    (releases.map Release.name).Nodup := by
  rw [List.Nodup, List.pairwise_map]
  exact descending.imp fun {a b} (lt : b.name < a.name) (eq : a.name = b.name) =>
    String.lt_irrefl b.name (eq ▸ lt)

/-- No release is listed twice. -/
theorem Gathered.nodup (h : Gathered shortName sightings releases) : releases.Nodup :=
  (nodup_names h.descending).of_map

/-- Only one list of releases gathers given sightings. -/
theorem Gathered.unique (h : Gathered shortName sightings releases)
    (h' : Gathered shortName sightings releases') : releases = releases' := by
  have subset {l l' : List Release} (h : Gathered shortName sightings l)
      (h' : Gathered shortName sightings l') : ∀ r ∈ l, r ∈ l' := fun r hr => by
    -- what was seen of `r` is in the other list under the same name
    obtain ⟨s, hs, hn⟩ := (h.gathers r hr).seen
    obtain ⟨r', hr', hn'⟩ := h'.complete s hs
    exact (h.gathers r hr).unique (h'.gathers r' hr') (hn'.trans hn).symm ▸ hr'
  have perm : releases.Perm releases' :=
    (List.perm_ext_iff_of_nodup h.nodup h'.nodup).mpr fun r => ⟨subset h h' r, subset h' h r⟩
  -- the same releases, and only one order in which they descend
  refine perm.eq_of_pairwise (fun a b _ _ lt gt => ?_) h.descending h'.descending
  exact absurd (String.lt_trans lt gt) (String.lt_irrefl _)

/-- The release of an open row gathers its row, and greater names come first in what follows. A
sighting of another name closes the row for good. -/
theorem Gathered.close {rest : List Sighting}
    (h : r.Gathers shortName rows) (same : ∀ s ∈ rows, s.release = r.name)
    (less : ∀ s ∈ rest, s.release < r.name) (tail : Gathered shortName rest releases) :
    Gathered shortName (rows ++ rest) (r :: releases) := by
  have lessName : ∀ r' ∈ releases, r'.name < r.name := fun r' hr' => by
    obtain ⟨s, hs, hn⟩ := (tail.gathers r' hr').seen
    exact hn ▸ less s hs
  constructor
  · exact List.pairwise_cons.mpr ⟨lessName, tail.descending⟩
  · intro r' hr'
    rcases List.mem_cons.mp hr' with rfl | hr'
    · -- the release of the row: no later sighting has its name
      refine h.of_agree fun s hn => ⟨List.mem_append_left _, fun hs => ?_⟩
      rcases List.mem_append.mp hs with hs | hs
      · exact hs
      · exact absurd (hn ▸ less s hs) (String.lt_irrefl _)
    · -- a later release: no sighting of the row has its name
      refine (tail.gathers r' hr').of_agree fun s hn => ⟨List.mem_append_right _, fun hs => ?_⟩
      rcases List.mem_append.mp hs with hs | hs
      · exact absurd ((hn.symm.trans (same s hs)) ▸ lessName r' hr') (String.lt_irrefl _)
      · exact hs
  · intro s hs
    rcases List.mem_append.mp hs with hs | hs
    · exact ⟨r, List.mem_cons_self, (same s hs).symm⟩
    · obtain ⟨r', hr', hn⟩ := tail.complete s hs
      exact ⟨r', List.mem_cons_of_mem _ hr', hn⟩

/-- An open row and the sorted sightings after it are gathered. -/
theorem gathered_gatherRows {rest : List Sighting} (h : r.Gathers shortName rows)
    (same : ∀ s ∈ rows, s.release = r.name)
    (sorted : (rows ++ rest).Pairwise fun a b => b.release ≤ a.release) :
    Gathered shortName (rows ++ rest) (gatherRows shortName (some r) rest) := by
  -- `rows` are the sightings that `r` has taken up so far
  induction rest generalizing r rows with
  | nil => exact Gathered.close h same (by simp) ⟨.nil, by simp, by simp⟩
  | cons s rest ih =>
    simp only [gatherRows]
    split
    case isTrue hname =>
      have same' : ∀ t ∈ rows ++ [s], t.release = (r.add shortName s).name := fun t ht => by
        rcases List.mem_append.mp ht with ht | ht
        · exact same t ht
        · exact (List.mem_singleton.mp ht) ▸ hname.symm
      rw [List.append_cons] at sorted ⊢
      exact ih (h.add hname.symm) same' sorted
    case isFalse hname =>
      obtain ⟨-, sortedTail, across⟩ := List.pairwise_append.mp sorted
      -- The row is closed: sightings from here on are below `s`, and `s` is below the row.
      have less : ∀ t ∈ s :: rest, t.release < r.name := by
        obtain ⟨s₀, hs₀, hn₀⟩ := h.seen
        have ls : s.release < r.name :=
          Std.lt_of_le_of_ne (hn₀ ▸ across s₀ hs₀ s List.mem_cons_self) (Ne.symm hname)
        intro t ht
        rcases List.mem_cons.mp ht with rfl | ht
        · exact ls
        · exact Std.lt_of_le_of_lt ((List.pairwise_cons.mp sortedTail).1 t ht) ls
      have tail := ih (gathers_ofSighting shortName s)
        (fun t ht => List.mem_singleton.mp ht ▸ rfl) sortedTail
      exact Gathered.close h same less tail

/-- Sorting puts the sightings of greater releases first. -/
theorem pairwise_sorted (sightings : List Sighting) :
    (sightings.mergeSort fun a b => decide (b.release ≤ a.release)).Pairwise
      fun a b => b.release ≤ a.release := by
  have sorted : (sightings.mergeSort fun a b => decide (b.release ≤ a.release)).Pairwise
      fun a b => decide (b.release ≤ a.release) = true := by
    apply List.pairwise_mergeSort
    · intro a b c hab hbc
      simp only [decide_eq_true_eq] at *
      exact Std.le_trans hbc hab
    · intro a b
      simpa using Std.le_total
  exact sorted.imp of_decide_eq_true

/-- Sightings in any order are gathered: sorting loses none and adds none. -/
theorem gathered_gather (shortName : String → String) (sightings : List Sighting) :
    Gathered shortName sightings (gather shortName sightings) := by
  have sorted := pairwise_sorted sightings
  have perm := List.mergeSort_perm sightings fun a b => decide (b.release ≤ a.release)
  unfold gather
  generalize sightings.mergeSort (fun a b => decide (b.release ≤ a.release)) = rows at sorted perm
  -- the first sighting opens the first row; from there on the rows are as in the lemma
  have rowsGathered : Gathered shortName rows (gatherRows shortName none rows) := by
    cases rows with
    | nil => exact ⟨.nil, by simp [gatherRows], by simp⟩
    | cons s rest =>
      exact gathered_gatherRows (gathers_ofSighting shortName s)
        (fun t ht => List.mem_singleton.mp ht ▸ rfl) sorted
  constructor
  · exact rowsGathered.descending
  · intro r hr
    exact (rowsGathered.gathers r hr).of_agree fun s _ => perm.mem_iff
  · intro s hs
    exact rowsGathered.complete s (perm.mem_iff.mpr hs)

/-- The same sightings, in any order and any number of times, make the same releases. -/
theorem gather_eq_of_mem_iff {shortName : String → String} {sightings others : List Sighting}
    (same : ∀ s, s ∈ others ↔ s ∈ sightings) :
    gather shortName others = gather shortName sightings :=
  (gathered_gather shortName others).unique
    ((gathered_gather shortName sightings).of_agree (fun s => (same s).symm) fun _ _ => rfl)

/-- Sightings of which those of greater releases come first are put together as they are. -/
theorem gather_of_pairwise {shortName : String → String} {sightings : List Sighting}
    (sorted : sightings.Pairwise fun a b => b.release ≤ a.release) :
    gather shortName sightings = gatherRows shortName none sightings := by
  rw [gather, List.mergeSort_of_pairwise (sorted.imp decide_eq_true)]

/-- Sightings in any order are put together by release. The names of the releases strictly descend
and are those that were seen. Each release has the hosts on which it was seen, the aliases of these
hosts, and is current exactly if one of its sightings is. Another list with the same sightings,
however arranged and however often repeated, gives the same releases. -/
theorem gather_exact (shortName : String → String) (sightings : List Sighting) :
    (gather shortName sightings).Pairwise (fun a b => b.name < a.name) ∧
      (∀ n, (∃ r ∈ gather shortName sightings, r.name = n) ↔ ∃ s ∈ sightings, s.release = n) ∧
      (∀ r ∈ gather shortName sightings,
        (∀ x, x ∈ r.hostNames ↔ ∃ s ∈ sightings, s.release = r.name ∧ s.host = x) ∧
        (∀ x, x ∈ r.hosts ↔ ∃ host ∈ r.hostNames, shortName host = x) ∧
        (r.current = true ↔ ∃ s ∈ sightings, s.release = r.name ∧ s.current = true)) ∧
      ∀ others, (∀ s, s ∈ others ↔ s ∈ sightings) →
        gather shortName others = gather shortName sightings := by
  have gathered := gathered_gather shortName sightings
  refine ⟨gathered.descending, fun n => ⟨?_, ?_⟩, fun r hr => ?_,
    fun others => gather_eq_of_mem_iff⟩
  · rintro ⟨r, hr, rfl⟩
    exact (gathered.gathers r hr).seen
  · rintro ⟨s, hs, rfl⟩
    exact gathered.complete s hs
  · have gathers := gathered.gathers r hr
    exact ⟨gathers.hostNames, gathers.mem_hosts_iff, gathers.current⟩

end Rollout.Release

namespace Rollout

open Release (gather)

/-! Sightings out of order, one of them listed twice, and the same without either. -/

/-- The sightings as they come in. -/
def scatteredSightings : List Sighting :=
  [⟨"r1", "web.eu", false⟩, ⟨"r2", "db", true⟩, ⟨"r1", "web.us", true⟩, ⟨"r1", "web.eu", false⟩]

/-- The same sightings, sorted and each listed once. -/
def tidiedSightings : List Sighting :=
  [⟨"r2", "db", true⟩, ⟨"r1", "web.eu", false⟩, ⟨"r1", "web.us", true⟩]

/-- All hosts have one alias here; the release that two of them share has both their names. -/
theorem scatteredSightings_gathered :
    (∀ s, s ∈ scatteredSightings ↔ s ∈ tidiedSightings) ∧
      gather (fun _ => "web") scatteredSightings = gather (fun _ => "web") tidiedSightings ∧
      ∃ r ∈ gather (fun _ => "web") scatteredSightings, r.name = "r1" ∧ r.current = true ∧
        "web.eu" ∈ r.hostNames ∧ "web.us" ∈ r.hostNames ∧ "db" ∉ r.hostNames ∧
        ∀ x, x ∈ r.hosts ↔ x = "web" := by
  have same : ∀ s, s ∈ scatteredSightings ↔ s ∈ tidiedSightings := by
    intro s
    simp only [scatteredSightings, tidiedSightings, List.mem_cons, List.not_mem_nil, or_false]
    tauto
  obtain ⟨-, -, -, agree⟩ := Release.gather_exact (fun _ => "web") tidiedSightings
  obtain ⟨-, names, each, -⟩ := Release.gather_exact (fun _ => "web") scatteredSightings
  obtain ⟨r, hr, hname⟩ := (names "r1").mpr (by decide)
  obtain ⟨hostNames, hosts, current⟩ := each r hr
  rw [hname] at hostNames current
  have seen : "web.eu" ∈ r.hostNames := (hostNames _).mpr (by decide)
  refine ⟨same, agree scatteredSightings same, r, hr, hname, current.mpr (by decide), seen,
    (hostNames _).mpr (by decide), fun h => absurd ((hostNames _).mp h) (by decide), fun x => ?_⟩
  rw [hosts]
  constructor
  · rintro ⟨-, -, hx⟩
    exact hx.symm
  · rintro rfl
    exact ⟨"web.eu", seen, rfl⟩

end Rollout
