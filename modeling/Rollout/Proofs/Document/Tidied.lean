import Rollout.Proofs.Document.Problems

/-!
# Variables that are no object

The variables of a service are taken out of its entry before the other fields are read, and of what
is there in their place only an object counts. Text, a number, a boolean or an array is passed over,
in the entry of a service as well as among the shared fields, and is no problem. So a document means
what it means without them, and that it compiles says nothing about whether it has any.

## Main definitions

* `Document.IsOptionalObject` — a field is such that it can hold variables
* `Document.VariablesFit` — the variables of all services of a document are such fields
* `Document.tidied` — a document without what is passed over

## Main results

* `Document.compile_tidied` — a document means what it means without what is passed over
* `Document.tidied_exact` — which documents compile, whether or not their variables fit
-/

namespace Rollout.Document

/-! ### What fits -/

/-- A field is left out, `null` or an object. -/
def IsOptionalObject (field : Option Json) : Prop :=
  field = none ∨ field = some .null ∨ ∃ members, field = some (.object members)

instance : DecidablePred IsOptionalObject
  | none => isTrue (.inl rfl)
  | some .null => isTrue (.inr (.inl rfl))
  | some (.object members) => isTrue (.inr (.inr ⟨members, rfl⟩))
  | some (.bool _) | some (.number _) | some (.string _) | some (.array _) =>
    isFalse (by simp [IsOptionalObject])

/-- What counts as the variables of a service is left out, `null` or an object, for each service of
each host of a document. -/
def VariablesFit (doc : Document) : Prop :=
  ∀ entry ∈ doc.hosts, ∀ services, ListsServices doc.defaults entry services →
    ∀ service ∈ services, IsOptionalObject (effective doc.defaults.services service "env")

/-- The fields of a service, or those that services share, without variables that do not fit. -/
def tidiedService (fields : Fields) : Fields :=
  if IsOptionalObject (fields.get? "env") then fields else fields.erase "env"

/-- The fields of a host, or those that hosts share, with the entries of services tidied. -/
def tidiedHost (fields : Fields) : Fields :=
  match fields.get? "services" with
  | some services => fields.insert "services" (services.mapItems tidiedService)
  | none => fields

/-- A document without variables that do not fit. -/
def tidied (doc : Document) : Document :=
  { doc with
    defaults := ⟨tidiedHost doc.defaults.hosts, tidiedService doc.defaults.services⟩
    hosts := doc.hosts.map tidiedHost }

variable {fields shared entry : Fields} {base key : String}

/-! ### Services -/

theorem get?_tidiedService (h : key ≠ "env") :
    (tidiedService fields).get? key = fields.get? key := by
  unfold tidiedService
  split
  · rfl
  · rw [Dict.get?_erase, if_neg h.symm]

theorem isOptionalObject_tidiedService :
    IsOptionalObject ((tidiedService fields).get? "env") := by
  unfold tidiedService
  split
  · assumption
  · rw [Dict.get?_erase, if_pos rfl]
    exact .inl rfl

/-- What does not fit holds no variables. -/
theorem membersOf_of_not_isOptionalObject {field : Option Json} (h : ¬ IsOptionalObject field) :
    membersOf field = ∅ := by
  unfold membersOf
  split
  · rename_i members
    exact absurd (.inr (.inr ⟨members, rfl⟩)) h
  · rfl

theorem membersOf_tidiedService :
    membersOf ((tidiedService fields).get? "env") = membersOf (fields.get? "env") := by
  unfold tidiedService
  split
  · rfl
  · rename_i hmisfit
    rw [Dict.get?_erase, if_pos rfl, membersOf_of_not_isOptionalObject hmisfit]
    rfl

/-- A tidied service means with tidied shared fields what it meant before. -/
theorem compileService_tidiedService (base : String) (shared entry : Fields) :
    compileService base (tidiedService shared) (tidiedService entry) =
      compileService base shared entry := by
  have hfields : (withDefaults (tidiedService entry) (tidiedService shared)).erase "env" =
      (withDefaults entry shared).erase "env" := by
    apply Dict.ext_get?
    intro key
    rw [Dict.get?_erase, Dict.get?_erase]
    by_cases hkey : "env" = key
    · rw [if_pos hkey, if_pos hkey]
    · rw [if_neg hkey, if_neg hkey, get?_withDefaults, get?_withDefaults, effective, effective,
        get?_tidiedService (Ne.symm hkey), get?_tidiedService (Ne.symm hkey)]
  have hvariables (service : String) :
      mergedVariables service ((tidiedService entry).get? "env")
          ((tidiedService shared).get? "env") =
        mergedVariables service (entry.get? "env") (shared.get? "env") := by
    rw [mergedVariables, membersOf_tidiedService, membersOf_tidiedService, mergedVariables]
  -- filled in or not, shared variables count in the same way, so the two facts suffice
  simp only [compileService, hfields, mergedVariables_withDefaults, hvariables]

theorem isOptionalObject_effective :
    IsOptionalObject (effective (tidiedService shared) (tidiedService entry) "env") := by
  unfold effective
  split
  · rename_i own hown
    exact hown ▸ isOptionalObject_tidiedService
  · exact isOptionalObject_tidiedService

/-! ### Hosts -/

theorem get?_tidiedHost (fields : Fields) (key : String) :
    (tidiedHost fields).get? key =
      if key = "services" then (fields.get? key).map (Json.mapItems tidiedService)
      else fields.get? key := by
  refine Dict.get?_rewritten (fun v hv => ?_) (fun hnone => ?_) key
  · simp only [tidiedHost, hv]
  · simp only [tidiedHost, hnone]

theorem effective_tidiedHost (shared entry : Fields) (key : String) :
    effective (tidiedHost shared) (tidiedHost entry) key =
      if key = "services" then (effective shared entry key).map (Json.mapItems tidiedService)
      else effective shared entry key := by
  simp only [← get?_withDefaults, withDefaults, Dict.get?_orElse, get?_tidiedHost]
  split <;> cases entry.get? key <;> rfl

/-- A tidied host lists tidied services. -/
theorem exists_of_listsServices_tidied {defaults : Defaults} {services : List Fields}
    (h : ListsServices ⟨tidiedHost defaults.hosts, tidiedService defaults.services⟩
      (tidiedHost entry) services) {service : Fields} (hservice : service ∈ services) :
    ∃ fields, service = tidiedService fields := by
  have hitems : ((effective (tidiedHost defaults.hosts) (tidiedHost entry) "services").getD
      (.array [])) = Json.mapItems tidiedService
        ((effective defaults.hosts entry "services").getD (.array [])) := by
    rw [effective_tidiedHost, if_pos rfl]
    cases effective defaults.hosts entry "services" <;> rfl
  -- of a tidied array nothing is read that is not read of the array and tidied then
  rw [ListsServices, hitems, ← Json.asFieldsList_eq_ok_iff, Json.asFieldsList_mapItems] at h
  cases hlisted : ((effective defaults.hosts entry "services").getD (.array [])).asFieldsList with
  | error cause => simp [hlisted] at h
  | ok listed =>
    rw [hlisted] at h
    cases h
    obtain ⟨fields, -, hfields⟩ := List.mem_map.mp hservice
    exact ⟨fields, hfields.symm⟩

/-- A tidied host means with tidied shared fields what it meant before. -/
theorem compileHost_tidiedHost (common : Common) (entry : Fields) :
    compileHost { common with
        defaults := ⟨tidiedHost common.defaults.hosts, tidiedService common.defaults.services⟩ }
        (tidiedHost entry) =
      compileHost common entry := by
  have hget (key : String) :
      (withDefaults (tidiedHost entry) (tidiedHost common.defaults.hosts)).get? key =
        if key = "services" then
          ((withDefaults entry common.defaults.hosts).get? key).map (Json.mapItems tidiedService)
        else (withDefaults entry common.defaults.hosts).get? key := by
    simp only [get?_withDefaults, effective_tidiedHost]
  simp only [compileHost, HostEntry.ofFields_of_get? hget]
  -- the parts are the same but for the services, and these mean the same
  cases HostEntry.ofFields (withDefaults entry common.defaults.hosts) with
  | error e => rfl
  | ok parts =>
    have hservices : (parts.services.map tidiedService).mapM
        (compileService common.base (tidiedService common.defaults.services)) =
          parts.services.mapM (compileService common.base common.defaults.services) := by
      rw [List.mapM_map]
      exact congrArg (parts.services.mapM ·) (funext (compileService_tidiedService _ _))
    simp only [Functor.map, Except.map, Except.mapError, bind, Except.bind, hservices]

/-! ### Documents -/

variable {doc : Document} {dir : String} {around : Surroundings}

theorem variablesFit_tidied (doc : Document) : doc.tidied.VariablesFit := by
  intro entry hentry services hservices service hservice
  obtain ⟨entry, -, rfl⟩ := List.mem_map.mp hentry
  obtain ⟨fields, rfl⟩ := exists_of_listsServices_tidied hservices hservice
  exact isOptionalObject_effective

/-- A document means what it means without variables that do not fit: the same configuration, or
nothing because of the same problem. -/
theorem compile_tidied (doc : Document) (dir : String) (around : Surroundings) :
    doc.tidied.compile dir around = doc.compile dir around := by
  have hhosts (base environment : String) (app : Rollout.App) (hooks : Hooks) :
      compileHost ⟨base, around.home, doc.tidied.defaults, environment, app, hooks⟩ ∘ tidiedHost =
        compileHost ⟨base, around.home, doc.defaults, environment, app, hooks⟩ :=
    funext (compileHost_tidiedHost ⟨base, around.home, doc.defaults, environment, app, hooks⟩)
  -- only the hosts look at entries and shared fields
  simp only [compile, tidied, List.mapM_map] at hhosts ⊢
  simp only [hhosts]

/-- The services of a document that compiles fit in all that is looked at. -/
theorem serviceFits_of_compile {c : Config} (h : doc.compile dir around = .ok c)
    (hentry : entry ∈ doc.hosts) {services : List Fields}
    (hservices : ListsServices doc.defaults entry services) {service : Fields}
    (hservice : service ∈ services) : ServiceFits doc.defaults.services service := by
  obtain ⟨normal, hbase, -⟩ := compile_eq_ok_iff.mp h
  have hwell := (exists_compile_eq_ok_iff hbase).mp ⟨c, h⟩
  exact (hwell.hosts entry hentry).services services hservices service hservice

/-- A tidied document has only variables that fit, and means what the document means. The services
of a document that compiles fit in their other fields and in each variable that counts for them.
What stands in place of their variables is not checked: relative to a directory that there is, a
document compiles exactly if nothing is wrong with it once it is tidied. -/
theorem tidied_exact (doc : Document) (dir : String) (around : Surroundings) :
    doc.tidied.VariablesFit ∧
      doc.tidied.compile dir around = doc.compile dir around ∧
      (∀ c, doc.compile dir around = .ok c → ∀ entry ∈ doc.hosts,
        ∀ services, ListsServices doc.defaults entry services →
          ∀ service ∈ services, ServiceFits doc.defaults.services service) ∧
      ((∃ c, doc.compile dir around = .ok c) ↔
        (∃ normal, around.absolute dir = .ok normal) ∧ doc.tidied.IsWellFormed) := by
  refine ⟨variablesFit_tidied doc, compile_tidied doc dir around,
    fun c h entry hentry services hservices service hservice =>
      serviceFits_of_compile h hentry hservices hservice, ?_⟩
  rw [← compile_tidied]
  constructor
  · rintro ⟨c, h⟩
    obtain ⟨normal, hbase, -⟩ := compile_eq_ok_iff.mp h
    exact ⟨⟨normal, hbase⟩, (exists_compile_eq_ok_iff hbase).mp ⟨c, h⟩⟩
  · rintro ⟨⟨normal, hbase⟩, hwell⟩
    exact (exists_compile_eq_ok_iff hbase).mpr hwell

end Rollout.Document

namespace Rollout

/-- A document with a service whose variables are written as an assignment, and not as an object. -/
def assignmentDocument : Document where
  app := ⟨"shop", "/srv/shop"⟩
  environment := some "staging"
  defaults := .blank
  hosts := [.ofList [("name", .string "a.example.com"), ("services", .array
    [.object [("name", .string "web"), ("env", .string "PORT=3000")]])]]
  hooks := ∅

/-- The document compiles, although the variables of its service do not fit, and the service has
none then. -/
theorem assignmentDocument_compiles :
    (∃ c, assignmentDocument.compile "/srv/deploy" ⟨some "/", "/home/me"⟩ = .ok c ∧
        ∀ host ∈ c.hosts.toList, ∀ service ∈ host.services.toList, service.env = ∅) ∧
      ¬ assignmentDocument.VariablesFit := by
  refine ⟨⟨_, rfl, ?_⟩, fun h => ?_⟩
  · intro host hhost service hservice
    obtain rfl := List.mem_singleton.mp hhost
    obtain rfl := List.mem_singleton.mp hservice
    rfl
  · have hfit := h _ (List.mem_singleton_self _)
      [.ofList [("name", .string "web"), ("env", .string "PORT=3000")]]
      ⟨_, rfl, .cons ⟨_, rfl, rfl⟩ .nil⟩ _ (List.mem_singleton_self _)
    exact absurd hfit (by decide)

/-- Without the assignment the document fits, and it compiles to the same configuration. -/
theorem assignmentDocument_tidied :
    assignmentDocument.tidied.VariablesFit ∧
      assignmentDocument.tidied.compile "/srv/deploy" ⟨some "/", "/home/me"⟩ =
        assignmentDocument.compile "/srv/deploy" ⟨some "/", "/home/me"⟩ ∧
      ∀ entry ∈ assignmentDocument.hosts, ∀ services,
        Document.ListsServices assignmentDocument.defaults entry services →
          ∀ service ∈ services, Document.ServiceFits ∅ service := by
  obtain ⟨hfit, hsame, hservices, -⟩ :=
    Document.tidied_exact assignmentDocument "/srv/deploy" ⟨some "/", "/home/me"⟩
  exact ⟨hfit, hsame, hservices _ rfl⟩

end Rollout
