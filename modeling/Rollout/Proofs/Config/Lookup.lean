import Rollout.Proofs.Document.Problems

/-!
# Look-up in configurations

A list makes up a roster exactly if its names are distinct, and the roster is then the list itself,
in which a name finds the one item that has it. The hosts of a configuration are a roster, and so
are the services of each host, so the names that a document declares are found in what it means, and
no others.

## Main definitions

* `Roster.IsOf` — a roster keeps the items that it is made of, and finds them by their names
* `Document.Declares` — a document declares a host and the names of its services
* `Config.Finds` — look-up in a configuration finds what a document declares

## Main results

* `Roster.isOf_of_ofList` — what a roster has to do with the items that it is made of
* `Document.declares_iff` — the hosts that are declared are those of the configuration
* `Roster.lookup_exact` — which lists make up rosters, and what look-up finds in them
-/

namespace Rollout

/-! ### Rosters and their items -/

namespace Roster

variable {α : Type} [Named α] {items : List α} {r : Roster α} {a : α} {n : String}

/-- A roster keeps some items as they are and in their order. A name finds an item exactly if that
is the only one with the name. -/
structure IsOf (r : Roster α) (items : List α) : Prop where
  toList : r.toList = items
  names : r.names = items.map name
  size : r.size = items.length
  isEmpty : r.isEmpty = items.isEmpty
  first? : r.first? = items.head?
  map : ∀ {β : Type} (f : α → β), r.map f = items.map f
  get?_eq_some_iff : ∀ n a, r.get? n = some a ↔ (items.filter fun b => name b == n) = [a]
  get?_eq_none_iff : ∀ n, r.get? n = none ↔ ∀ a ∈ items, name a ≠ n
  contains_iff : ∀ n, r.contains n = true ↔ ∃ a, (items.filter fun b => name b == n) = [a]

/-- A name finds an item exactly if no other item has the name. -/
theorem get?_eq_some_iff_filter :
    r.get? n = some a ↔ (r.toList.filter fun b => name b == n) = [a] := by
  rw [filter_name_eq]
  cases r.get? n <;> simp

theorem get?_eq_none_iff : r.get? n = none ↔ ∀ a ∈ r.toList, name a ≠ n := by
  simp [get?]

theorem contains_eq_true_iff : r.contains n = true ↔ ∃ a, r.get? n = some a :=
  Option.isSome_iff_exists

theorem isOf_of_ofList (h : ofList items = .ok r) : r.IsOf items := by
  obtain rfl := ofList_eq_ok_iff.mp h
  constructor
  case map =>
    intro β f
    rfl
  case get?_eq_some_iff => exact fun n a => get?_eq_some_iff_filter
  case get?_eq_none_iff => exact fun n => get?_eq_none_iff
  case contains_iff =>
    intro n
    rw [contains_eq_true_iff]
    exact exists_congr fun a => get?_eq_some_iff_filter
  all_goals rfl

theorem exists_ofList_eq_ok_iff : (∃ r, ofList items = .ok r) ↔ (items.map name).Nodup := by
  simp only [ofList_eq_ok_iff]
  constructor
  · rintro ⟨r, rfl⟩
    exact r.nodup
  · exact fun h => ⟨⟨items, h⟩, rfl⟩

end Roster

/-! ### What a document declares -/

namespace Document

variable {doc : Document} {dir : String} {around : Surroundings} {c : Config} {host : String}
  {services : List String}

/-- A document declares a host with services: it has an entry for which the name of the host
counts, and for which entries count whose names are those of the services, in order. -/
def Declares (doc : Document) (host : String) (services : List String) : Prop :=
  ∃ entry ∈ doc.hosts, effective doc.defaults.hosts entry "name" = some (.string host) ∧
    ∃ entries, ListsServices doc.defaults entry entries ∧
      entryNames doc.defaults.services entries = services.map fun n => some (.string n)

/-- The entry of a host lists the services of the host. -/
theorem entryNames_of_compileHost {common : Common} {entry : Fields} {h : Host}
    (hentry : compileHost common entry = .ok h) :
    ∃ entries, ListsServices common.defaults entry entries ∧
      entryNames common.defaults.services entries =
        h.services.names.map fun n => some (.string n) := by
  obtain ⟨parts, hparts, hservices, -⟩ := compileHost_eq_ok_iff.mp hentry
  have hread := HostEntry.ofFields_withDefaults_eq_ok_iff.mp hparts
  exact ⟨parts.services, hread.services, entryNames_services hservices⟩

/-- The hosts that a document declares are those of the configuration that it means, with the same
services. -/
theorem declares_iff (h : doc.compile dir around = .ok c) :
    doc.Declares host services ↔
      ∃ h ∈ c.hosts.toList, h.name = host ∧ h.services.names = services := by
  obtain ⟨base, -, -, -, -, hhosts⟩ := compile_eq_ok_iff.mp h
  constructor
  · rintro ⟨entry, hmem, hname, entries, hlists, hnames⟩
    obtain ⟨h, hh, hentry⟩ := exists_mem_of_mapM hhosts hmem
    obtain ⟨entries', hlists', hnames'⟩ := entryNames_of_compileHost hentry
    obtain rfl := hlists.unique hlists'
    -- the entry says one name and lists its services in one way, so these are the host's
    have hfound := (compileHost_comesFrom hentry rfl).name
    rw [hname] at hfound
    refine ⟨h, hh, (string_injective hfound).symm, ?_⟩
    exact string_injective.list_map (hnames'.symm.trans hnames)
  · rintro ⟨h, hh, rfl, rfl⟩
    obtain ⟨entry, hmem, hentry⟩ := exists_of_mem_of_mapM hhosts hh
    exact ⟨entry, hmem, (compileHost_comesFrom hentry rfl).name, entryNames_of_compileHost hentry⟩

end Document

/-! ### What is found -/

namespace Config

variable {c : Config} {host service : String} {s : Service}

/-- What a document declares is what look-up in a configuration finds: each host, with the services
that it is declared with in their order, and each service of a host by its name. -/
structure Finds (c : Config) (doc : Document) : Prop where
  host : ∀ host, c.hosts.contains host = true ↔ ∃ names, doc.Declares host names
  services : ∀ host names, doc.Declares host names →
    (c.services host).map Service.name = names
  noServices : ∀ host, (∀ names, ¬ doc.Declares host names) → c.services host = []
  service : ∀ host service s,
    c.service? host service = some s ↔ s ∈ c.services host ∧ s.name = service
  noService : ∀ host service,
    c.service? host service = none ↔ ∀ names, doc.Declares host names → service ∉ names

/-- The services that the name of a host finds are those of the host. -/
theorem services_of_mem {h : Host} (hh : h ∈ c.hosts.toList) :
    c.services h.name = h.services.toList := by
  have hget : c.hosts.get? h.name = some h := Roster.get?_eq_some_iff.mpr ⟨hh, rfl⟩
  rw [Config.services, hget]

theorem services_of_forall_ne (h : ∀ h ∈ c.hosts.toList, h.name ≠ host) :
    c.services host = [] := by
  rw [Config.services, Roster.get?_eq_none_iff.mpr h]

theorem service?_eq_some_iff :
    c.service? host service = some s ↔ s ∈ c.services host ∧ s.name = service := by
  rw [service?, Config.services]
  cases c.hosts.get? host with
  | none => simp
  | some h => exact Roster.get?_eq_some_iff

/-- Look-up in the configuration that a document means finds what the document declares. -/
theorem finds_of_compile {doc : Document} {dir : String} {around : Surroundings}
    (h : doc.compile dir around = .ok c) : c.Finds doc := by
  have hdeclares {host : String} {names : List String} : doc.Declares host names ↔
      ∃ h ∈ c.hosts.toList, h.name = host ∧ h.services.names = names :=
    Document.declares_iff h
  constructor
  case host =>
    intro host
    rw [Roster.contains_eq_true_iff]
    simp only [hdeclares, Roster.get?_eq_some_iff]
    constructor
    · rintro ⟨h, hh, rfl⟩
      exact ⟨_, h, hh, rfl, rfl⟩
    · rintro ⟨-, h, hh, rfl, -⟩
      exact ⟨h, hh, rfl⟩
  case services =>
    intro host names hhost
    obtain ⟨h, hh, rfl, rfl⟩ := hdeclares.mp hhost
    rw [services_of_mem hh]
    rfl
  case noServices =>
    intro host hnone
    apply services_of_forall_ne
    rintro h hh rfl
    exact hnone _ (hdeclares.mpr ⟨h, hh, rfl, rfl⟩)
  case service => exact fun host service s => service?_eq_some_iff
  case noService =>
    intro host service
    rw [Option.eq_none_iff_forall_ne_some]
    simp only [ne_eq, service?_eq_some_iff, not_and]
    constructor
    · intro hnone names hhost hmem
      obtain ⟨h, hh, rfl, rfl⟩ := hdeclares.mp hhost
      obtain ⟨s, hs, rfl⟩ := List.mem_map.mp hmem
      rw [services_of_mem hh] at hnone
      exact hnone s hs rfl
    · -- a service that is found belongs to a host, and that host is declared with it
      rintro hnone s hs rfl
      by_cases hhost : ∃ h ∈ c.hosts.toList, h.name = host
      · obtain ⟨h, hh, rfl⟩ := hhost
        rw [services_of_mem hh] at hs
        exact hnone _ (hdeclares.mpr ⟨h, hh, rfl, rfl⟩) (List.mem_map_of_mem hs)
      · rw [services_of_forall_ne (by simpa using hhost)] at hs
        cases hs

end Config

/-- Some items make up a roster exactly if their names are distinct, and otherwise the first name
that occurs a second time is told. A roster is the list that it is made of, and a name finds an item
in it exactly if the item is the only one with that name. So look-up in the configuration that a
document means finds the hosts and services that the document declares, and nothing else. -/
theorem Roster.lookup_exact :
    (∀ {α : Type} [Named α] (items : List α),
      ((∃ r, ofList items = .ok r) ↔ (items.map name).Nodup) ∧
      (∀ n, ofList items = .error n ↔ RepeatsFirst (items.map name) n) ∧
      ∀ r, ofList items = .ok r → r.IsOf items) ∧
    ∀ (doc : Document) dir around c, doc.compile dir around = .ok c →
      (∀ h ∈ c.hosts.toList, c.services h.name = h.services.toList) ∧ c.Finds doc := by
  constructor
  · intro α _ items
    exact ⟨exists_ofList_eq_ok_iff, fun n => ofList_eq_error_iff, fun r => isOf_of_ofList⟩
  · intro doc dir around c h
    exact ⟨fun h => Config.services_of_mem, Config.finds_of_compile h⟩

theorem pairDocument_declares :
    pairDocument.Declares "a.example.com" ["web"] ∧
      pairDocument.Declares "b.example.com" ["api", "worker"] := by
  constructor
  · exact ⟨_, List.mem_cons_self, rfl, _, ⟨_, rfl, .cons ⟨_, rfl, rfl⟩ .nil⟩, rfl⟩
  · exact ⟨_, List.mem_cons_of_mem _ List.mem_cons_self, rfl, _,
      ⟨_, rfl, .cons ⟨_, rfl, rfl⟩ (.cons ⟨_, rfl, rfl⟩ .nil)⟩, rfl⟩

theorem pairDocument_not_declares (names : List String) :
    ¬ pairDocument.Declares "web" names := by
  rintro ⟨entry, hentry, hname, -⟩
  rcases List.mem_pair.mp hentry with rfl | rfl
  · exact absurd (Json.string.inj (Option.some.inj hname)) (by decide)
  · exact absurd (Json.string.inj (Option.some.inj hname)) (by decide)

/-- The services of the pair are found at the hosts that they are declared for, be they shared or
not, and not by the name of a service. Listed twice they make up no roster. -/
theorem pairDocument_lookup :
    ∃ c, pairDocument.compile "/srv/./deploy" ⟨some "/", "/home/me"⟩ = .ok c ∧
      (c.services "a.example.com").map Service.name = ["web"] ∧
      (c.services "b.example.com").map Service.name = ["api", "worker"] ∧
      c.services "web" = [] ∧
      Roster.ofList (c.services "b.example.com" ++ c.services "b.example.com") = .error "api" := by
  obtain ⟨hrosters, hconfigs⟩ := Roster.lookup_exact
  obtain ⟨c, hcompiles⟩ : ∃ c,
      pairDocument.compile "/srv/./deploy" ⟨some "/", "/home/me"⟩ = .ok c := ⟨_, rfl⟩
  obtain ⟨-, hfinds⟩ := hconfigs _ _ _ _ hcompiles
  have hsecond := hfinds.services _ _ pairDocument_declares.2
  refine ⟨c, hcompiles, hfinds.services _ _ pairDocument_declares.1, hsecond,
    hfinds.noServices _ pairDocument_not_declares, ((hrosters _).2.1 _).mpr ?_⟩
  refine ⟨["api", "worker"], ["worker"], ?_, by decide, by decide⟩
  calc
    (c.services "b.example.com" ++ c.services "b.example.com").map Service.name =
        (c.services "b.example.com").map Service.name ++
          (c.services "b.example.com").map Service.name := List.map_append
    _ = ["api", "worker"] ++ "api" :: ["worker"] := by rw [hsecond]

end Rollout
