import Rollout.Document.OfText
import Rollout.Proofs.Json.Pretty

/-!
# Documents read back

A document that is written as a text is read as the same document, if its numbers are integers of at
most 64 bits, the keys of the objects inside it ascend and it is not too deep.

## Main results

* `Document.toJson_eq_object` — the members of a document as JSON, in the order of their keys
* `Document.ofText_toJson` — the text of a document is read as that document
-/

namespace Rollout.Document

open Json (Node Items Members)

variable {doc : Document}

/-! ### Documents as JSON -/

/-- The members of a document as JSON, in the order in which they are written. -/
def members (doc : Document) : List (String × Json) :=
  ("app", .object [("name", .string doc.app.name), ("path", .string doc.app.path)]) ::
  ("defaults", .object [("hosts", .ofDict doc.defaults.hosts),
    ("services", .ofDict doc.defaults.services)]) ::
  ((doc.environment.map fun name => ("environment", Json.string name)).toList ++
    [("hooks", .ofDict doc.hooks), ("hosts", .array (doc.hosts.map .ofDict))])

theorem toJson_eq_object (doc : Document) : doc.toJson = .object doc.members := by
  obtain ⟨app, environment, defaults, hosts, hooks⟩ := doc
  cases environment <;>
    simp only [toJson, members, Json.ofMembers, Json.ofDict, Dict.entries_ofList,
      Dict.insertEntry, List.foldl_cons, List.foldl_nil, List.cons_append, List.nil_append,
      Option.map_some, Option.map_none, Option.toList_some, Option.toList_none, String.reduceLT,
      String.reduceEq, ↓reduceIte]

/-! ### Parts of documents -/

theorem readString_of_shows {node : Node} {s : String} (h : node.Shows (.string s)) :
    readString node = .ok s := by
  cases h with
  | string hs => simp [readString, ofFlaws, hs.1, Except.mapError]

theorem readFields_of_shows {node : Node} {d : Fields} {depth : Nat} (h : node.Shows (.ofDict d))
    (hsorted : (Json.ofDict d).SortedKeys) (hdepth : (Json.ofDict d).depth ≤ depth) :
    readFields depth node = .ok d := by
  cases h with
  | object hmembers =>
    rw [Json.ofDict, Json.depth] at hdepth
    obtain ⟨depth, rfl⟩ : ∃ n, depth = n + 1 := ⟨depth - 1, by omega⟩
    have hvalues := hmembers.values?_eq hsorted.2 (Nat.le_of_succ_le_succ hdepth)
    simp [readFields, hvalues, ofFlaws, Except.map, Except.mapError]

theorem readFieldsItems_of_show {items : Items} {entries : List Fields} {depth : Nat}
    (h : items.Show (entries.map .ofDict))
    (hsorted : ∀ d ∈ entries, (Json.ofDict d).SortedKeys)
    (hdepth : ∀ d ∈ entries, (Json.ofDict d).depth ≤ depth) :
    readFieldsItems depth items = .ok entries := by
  induction entries generalizing items with
  | nil =>
    cases h with
    | close => rfl
  | cons d entries ih =>
    rw [List.forall_mem_cons] at hsorted hdepth
    cases h with
    | item hnode hrest =>
      have hfields := readFields_of_shows hnode hsorted.1 hdepth.1
      have hmore := ih hrest hsorted.2 hdepth.2
      simp [readFieldsItems, hfields, hmore, bind, Except.bind, pure, Except.pure]

theorem App.read_of_shows {node : Node} {app : App}
    (h : node.Shows (.object [("name", .string app.name), ("path", .string app.path)])) :
    App.read node = .ok app := by
  cases h with
  | object hmembers =>
    cases hmembers with
    | member hname hnameNode hrest =>
    cases hrest with
    | member hpath hpathNode hrest =>
    cases hrest with
    | close =>
    simp [App.read, readSection, ofFlaws, hname.1, hpath.1, readString_of_shows hnameNode,
      readString_of_shows hpathNode, requireAt, bind, Except.bind, pure, Except.pure,
      Except.mapError]

theorem Defaults.read_of_shows {node : Node} {defaults : Defaults} {depth : Nat}
    (h : node.Shows (.object
      [("hosts", .ofDict defaults.hosts), ("services", .ofDict defaults.services)]))
    (hsorted : (Json.ofDict defaults.hosts).SortedKeys ∧ (Json.ofDict defaults.services).SortedKeys)
    (hdepth : (Json.ofDict defaults.hosts).depth ≤ depth ∧
      (Json.ofDict defaults.services).depth ≤ depth) :
    Defaults.read depth node = .ok defaults := by
  cases h with
  | object hmembers =>
    cases hmembers with
    | member hhosts hhostsNode hrest =>
    cases hrest with
    | member hservices hservicesNode hrest =>
    cases hrest with
    | close =>
    simp [Defaults.read, readSection, ofFlaws, hhosts.1, hservices.1,
      readFields_of_shows hhostsNode hsorted.1 hdepth.1,
      readFields_of_shows hservicesNode hsorted.2 hdepth.2,
      bind, Except.bind, pure, Except.pure, Except.mapError]

theorem readOptionalString_of_shows {node : Node} {s : String} (h : node.Shows (.string s)) :
    readOptionalString node = .ok (some s) := by
  cases h with
  | string hs =>
    simp [readOptionalString, readString, ofFlaws, hs.1, Except.mapError, Except.map]

theorem readFieldsList_of_shows {node : Node} {entries : List Fields} {depth : Nat}
    (h : node.Shows (.array (entries.map .ofDict)))
    (hsorted : Json.SortedKeys (.array (entries.map .ofDict)))
    (hdepth : Json.depth (.array (entries.map .ofDict)) ≤ depth) :
    readFieldsList depth node = .ok entries := by
  cases h with
  | array hitems =>
    rw [Json.depth] at hdepth
    obtain ⟨depth, rfl⟩ : ∃ n, depth = n + 1 := ⟨depth - 1, by omega⟩
    rw [Nat.add_le_add_iff_right, Json.depthItems_le_iff, List.forall_mem_map] at hdepth
    rw [Json.SortedKeys, Json.sortedItems_iff, List.forall_mem_map] at hsorted
    exact readFieldsItems_of_show hitems hsorted hdepth

/-! ### Whole documents -/

theorem readSection_hooks_hosts {members : Members} {depth : Nat} {hooks : Fields}
    {hosts : List Fields} (seen : List String) (draft : Draft)
    (h : members.Show [("hooks", .ofDict hooks), ("hosts", .array (hosts.map .ofDict))])
    (hseen : "hooks" ∉ seen ∧ "hosts" ∉ seen)
    (hsorted : (Json.ofDict hooks).SortedKeys ∧ Json.SortedKeys (.array (hosts.map .ofDict)))
    (hdepth : (Json.ofDict hooks).depth ≤ depth ∧
      Json.depth (.array (hosts.map .ofDict)) ≤ depth) :
    ∃ stop, readSection (Draft.field depth) seen draft members =
      .ok ({ draft with hosts := some hosts, hooks }, stop) := by
  cases h with
  | member hhooks hhooksNode h =>
  cases h with
  | member hhosts hhostsNode h =>
  cases h with
  | close =>
  have hreadHooks := readFields_of_shows hhooksNode hsorted.1 hdepth.1
  have hreadHosts := readFieldsList_of_shows hhostsNode hsorted.2 hdepth.2
  simp [readSection, Draft.field, ofFlaws, hseen, hhooks.1, hhosts.1, hreadHooks, hreadHosts,
    bind, Except.bind, pure, Except.pure, Except.mapError]

/-- The members of a document are read into its fields. -/
theorem readSection_members {members : Members} {depth : Nat} (h : members.Show doc.members)
    (hsorted : ∀ m ∈ doc.members, m.2.SortedKeys)
    (hdepth : ∀ m ∈ doc.members, m.2.depth ≤ depth) :
    ∃ stop, readSection (Draft.field depth) [] .blank members =
      .ok (⟨some doc.app, doc.environment, doc.defaults, some doc.hosts, doc.hooks⟩, stop) := by
  simp only [Document.members, List.forall_mem_cons, List.forall_mem_append] at hsorted hdepth
  obtain ⟨-, ⟨-, hsdefaults⟩, -, hshooks, hshosts, -⟩ := hsorted
  obtain ⟨-, hddefaults, -, hdhooks, hdhosts, -⟩ := hdepth
  simp only [Json.SortedMembers] at hsdefaults
  simp only [Json.depth, Json.depthMembers] at hddefaults
  cases h with
  | member happ happNode h =>
  cases h with
  | member hdefaults hdefaultsNode h =>
  have hreadApp := App.read_of_shows happNode
  have hreadDefaults : Defaults.read (depth - 1) _ = _ :=
    Defaults.read_of_shows hdefaultsNode ⟨hsdefaults.1, hsdefaults.2.1⟩ (by omega)
  cases henv : doc.environment with
  | none =>
    rw [henv] at h
    obtain ⟨stop, hrest⟩ := readSection_hooks_hosts ["defaults", "app"]
      ⟨some doc.app, none, doc.defaults, none, ∅⟩ h (by simp) ⟨hshooks, hshosts⟩ ⟨hdhooks, hdhosts⟩
    refine ⟨stop, ?_⟩
    simp [readSection, Draft.field, Draft.blank, ofFlaws, happ.1, hdefaults.1, hreadApp,
      hreadDefaults, hrest, bind, Except.bind, pure, Except.pure, Except.mapError]
  | some name =>
    rw [henv] at h
    cases h with
    | member henvironment hnameNode h =>
    have hreadName := readOptionalString_of_shows hnameNode
    obtain ⟨stop, hrest⟩ := readSection_hooks_hosts ["environment", "defaults", "app"]
      ⟨some doc.app, some name, doc.defaults, none, ∅⟩ h (by simp) ⟨hshooks, hshosts⟩
      ⟨hdhooks, hdhosts⟩
    refine ⟨stop, ?_⟩
    simp [readSection, Draft.field, Draft.blank, ofFlaws, happ.1, hdefaults.1, henvironment.1,
      hreadApp, hreadDefaults, hreadName, hrest, bind, Except.bind, pure, Except.pure,
      Except.mapError]

/-- The text of a document is read as that document. -/
theorem ofText_toJson (hnumbers : doc.toJson.Integral) (hsorted : doc.toJson.SortedKeys)
    (hdepth : doc.toJson.depth ≤ Json.maxDepth) :
    Document.ofText (doc.toJson.pretty ++ "\n") = .ok doc := by
  obtain ⟨root, htext, hroot⟩ := Json.ofText_pretty hnumbers
  rw [toJson_eq_object] at hsorted hdepth hroot
  cases hroot with
  | object hmembers =>
  have hinner := Json.depthMembers_le_iff.mp (Nat.le_of_succ_le_succ hdepth)
  obtain ⟨stop, hsection⟩ :=
    readSection_members hmembers (Json.sortedMembers_iff.mp hsorted.2) hinner
  rw [ofText, htext, ofSource, Document.read]
  simp [Json.maxDepth, hsection, requireAt, bind, Except.bind, pure, Except.pure]

end Rollout.Document
