import Rollout.Document.OfText
import Rollout.Proofs.Dict
import Rollout.Proofs.Document.Entries
import Rollout.Proofs.Json.Tree

/-!
# Two ways to read a document

A document is read from a text in the order of the text, or from a value field by field in the order
of the keys. The first problem that is met differs, but whether there is one does not, nor does the
document if there is none, as long as the text has a value and none of its objects repeats a key. A
section may be an object with its members in any order and with keys that are no fields, or an array
of its fields; what is left out is filled in alike.

## Main definitions

* `Document.given` — what the members of an object give for a field

## Main results

* `Document.toOption_readSection` — a section as an object, member by member
* `Document.toOption_read` — both ways to read a document give the same, or nothing
* `Document.ofText_eq_ok_iff_ofJson` — a text is a document if its value is one
-/

namespace Rollout.Document

open Json (Node Items Members Mismatch)

variable {node : Node} {items : Items} {members : Members} {depth : Nat} {v : Json}
  {vs : List Json} {ms : List (String × Json)}

/-! ### Values without sections -/

theorem toOption_ofFlaws {α : Type} (step : Except Json.Flaw α) :
    (ofFlaws step).toOption = step.toOption := by
  cases step with
  | error flaw => rfl
  | ok a => rfl

theorem toOption_readString (h : node.Means depth v) :
    (readString node).toOption = v.asString.toOption := by
  cases h <;> rfl

theorem toOption_readOptionalString (h : node.Means depth v) :
    (readOptionalString node).toOption = v.asOptionalString.toOption := by
  cases h <;> rfl

theorem toOption_readFields (h : node.Means depth v) :
    (readFields depth node).toOption = v.asFields.toOption := by
  cases h with
  | object hmembers hkeys =>
    rw [readFields, toOption_ofFlaws, hmembers.values?_eq, Json.ofMembers, Json.ofDict,
      Json.asFields, Dict.ofList_entries]
    rfl
  | _ => rfl

theorem toOption_readFieldsItems (h : items.Mean depth vs) :
    (readFieldsItems depth items).toOption = (vs.mapM Json.asFields).toOption := by
  induction vs generalizing items with
  | nil =>
    cases h with
    | close => rfl
  | cons v vs ih =>
    cases h with
    | item hnode hrest =>
      simp only [readFieldsItems, List.mapM_cons, toOption_bind, toOption_readFields hnode,
        ih hrest]
      rfl

theorem toOption_readFieldsList (h : node.Means depth v) :
    (readFieldsList depth node).toOption = v.asFieldsList.toOption := by
  cases h with
  | array hitems => exact toOption_readFieldsItems hitems
  | _ => rfl

/-! ### Sections as objects -/

/-- What the members of an object give for a field, if it can be read: nothing where it is left
out. -/
def given {α : Type} (ms : List (String × Json)) (key : String)
    (read : Json → Except Mismatch α) : Option (Option α) :=
  match Dict.lookup key ms with
  | none => some none
  | some v => (read v).toOption.map some

section given

variable {α : Type} {key : String} {read : Json → Except Mismatch α}

@[simp] theorem given_nil : given [] key read = some none := rfl

@[simp] theorem given_cons_self :
    given ((key, v) :: ms) key read = (read v).toOption.map some := by
  simp [given, Dict.lookup]

theorem given_cons_ne {k : String} (h : k ≠ key) :
    given ((k, v) :: ms) key read = given ms key read := by
  simp [given, Dict.lookup, h]

theorem given_of_notMem (h : key ∉ ms.map Prod.fst) (read : Json → Except Mismatch α) :
    given ms key read = some none := by
  rw [given, Dict.lookup_eq_none_iff.mpr h]

theorem toOption_readField? (h : (ms.map Prod.fst).Nodup) :
    (Json.readField? (.ofList ms) key read).toOption = given ms key read := by
  rw [Json.readField?, Dict.get?_ofList, Dict.lookup_reverse_of_nodup h, given]
  cases Dict.lookup key ms with
  | none => rfl
  | some v => exact toOption_map some (read v)

theorem toOption_require (name : String) (o : Option α) : (Json.require name o).toOption = o := by
  cases o <;> rfl

theorem toOption_requireAt (stop : Nat) (name : String) (o : Option α) :
    (requireAt stop name o).toOption = o := by
  cases o <;> rfl

end given

section members

variable {σ : Type} {field : String → Node → σ → Option (Reads σ)} {seen : List String} {values : σ}
  {k : String} {close : Except Json.Flaw Nat} {resume : Nat} {rest : Members}

theorem readSection_of_noField (hfield : field k node values = none)
    (hclean : node.skipFlaw? = none) :
    readSection field seen values (.member ⟨.ok k, close⟩ resume node rest) =
      readSection field seen values rest := by
  simp only [readSection, ofFlaws, Except.mapError, bind, Except.bind, hfield, hclean]

theorem readSection_of_field {read : Reads σ} (hfield : field k node values = some read)
    (hseen : k ∉ seen) :
    readSection field seen values (.member ⟨.ok k, close⟩ resume node rest) =
      read >>= fun values => readSection field (k :: seen) values rest := by
  simp only [readSection, ofFlaws, Except.mapError, bind, Except.bind, hfield, hseen, if_false]

/-- A value that both readers read alike is taken alike into the fields so far. -/
theorem elim_toOption_of_read {α : Type} {read : Reads α} {readJson : Except Mismatch α}
    (h : read.toOption = readJson.toOption) (set : α → σ) :
    (some (do return set (← read) : Reads σ)).elim (some values) Except.toOption =
      readJson.toOption.map set := by
  rw [Option.elim_some, toOption_bind, h]
  exact Option.map_eq_bind.symm

/-- A section is read member by member: each step takes what is read for a key into the values so
far, or leaves them alone if the key is no field. -/
theorem toOption_readSection {step : String → Json → σ → Option σ}
    (hstep : ∀ key node v values, node.Means depth v →
      (field key node values).elim (some values) Except.toOption = step key v values)
    (h : members.Mean depth ms) (hkeys : (ms.map Prod.fst).Nodup)
    (hseen : ∀ m ∈ ms, m.1 ∉ seen) :
    (readSection field seen values members).toOption.map Prod.fst =
      ms.foldlM (fun values m => step m.1 m.2 values) values := by
  induction ms generalizing members seen values with
  | nil =>
    cases h with
    | close => rfl
  | cons m ms ih =>
    cases h with
    | member hnode hrest =>
      rename_i k stop resume node rest v
      obtain ⟨hk, hkeys⟩ := List.nodup_cons.mp hkeys
      obtain ⟨hkseen, hseen⟩ := List.forall_mem_cons.mp hseen
      rw [List.foldlM_cons, ← hstep k node v values hnode]
      cases hfield : field k node values with
      | none =>
        rw [readSection_of_noField hfield hnode.skipFlaw?_eq]
        exact ih hrest hkeys hseen
      | some read =>
        rw [readSection_of_field hfield hkseen, toOption_bind]
        -- the key counts as seen from here on, and no later member has it
        cases read with
        | error problem => rfl
        | ok values =>
          apply ih hrest hkeys
          intro m hm
          have hne : m.1 ≠ k := fun heq => hk (heq ▸ List.mem_map_of_mem hm : k ∈ ms.map Prod.fst)
          exact List.not_mem_cons_of_ne_of_not_mem hne (hseen m hm)

/-- What is made of a section in the end depends on its members only. -/
theorem toOption_readSection_bind {β : Type} {step : String → Json → σ → Option σ}
    {finish : σ × Nat → Reads β} {result : σ → Option β}
    (hstep : ∀ key node v values, node.Means depth v →
      (field key node values).elim (some values) Except.toOption = step key v values)
    (hfinish : ∀ values stop, (finish (values, stop)).toOption = result values)
    (h : members.Mean depth ms) (hkeys : (ms.map Prod.fst).Nodup) :
    (readSection field [] values members >>= finish).toOption =
      (ms.foldlM (fun values m => step m.1 m.2 values) values).bind result := by
  rw [← toOption_readSection hstep h hkeys (fun _ _ => List.not_mem_nil), toOption_bind]
  cases (readSection field [] values members).toOption with
  | none => rfl
  | some read => exact hfinish read.1 read.2

end members

/-! ### Sections as arrays -/

/-- What follows an item of an array. -/
def behind : Items → Items
  | .item _ rest => rest
  | items => items

theorem mean_behind {index : Nat} (h : items.Mean depth (vs.drop index)) :
    (behind items).Mean depth (vs.drop (index + 1)) := by
  rw [← List.tail_drop]
  -- what stands before the items that are left does not matter
  generalize vs.drop index = rest at h
  cases h with
  | close => exact .close
  | item hnode hrest => exact hrest

section items

variable {α : Type} {read : Node → Reads α} {readJson : Json → Except Mismatch α} {index : Nat}

theorem toOption_mandatory
    (hread : ∀ node v, node.Means depth v → (read node).toOption = (readJson v).toOption)
    (h : items.Mean depth (vs.drop index)) (name : String) (fields : Nat) :
    (mandatory index name fields read items).toOption =
      (mandatoryItem vs index name fields readJson).toOption.map fun a => (a, behind items) := by
  rw [mandatoryItem, ← List.head?_drop]
  generalize vs.drop index = rest at h
  cases h with
  | close => rfl
  | item hnode hrest =>
    rw [mandatory, toOption_bind, hread _ _ hnode]
    exact Option.map_eq_bind.symm

theorem toOption_optional (absent : α)
    (hread : ∀ node v, node.Means depth v → (read node).toOption = (readJson v).toOption)
    (h : items.Mean depth (vs.drop index)) :
    (optional absent read items).toOption =
      (optionalItem vs index absent readJson).toOption.map fun a => (a, behind items) := by
  rw [optionalItem, ← List.head?_drop]
  generalize vs.drop index = rest at h
  cases h with
  | close => rfl
  | item hnode hrest =>
    rw [optional, toOption_bind, hread _ _ hnode]
    exact Option.map_eq_bind.symm

/-- What is made of the fields stands, unless there are more items than fields. -/
theorem toOption_endOfSection_bind {fields : Nat} (h : items.Mean depth (vs.drop fields))
    (result : Option α) :
    ((endOfSection items).toOption.bind fun _ => result) =
      result.bind fun a => if fields < vs.length then none else some a := by
  by_cases hlong : fields < vs.length
  · have hleft : vs.drop fields ≠ [] := by simpa using hlong
    generalize vs.drop fields = rest at h hleft
    cases h with
    | close => exact absurd rfl hleft
    | item hnode hrest => simp [hlong, endOfSection, Except.toOption]
  · rw [List.drop_eq_nil_of_le (Nat.not_lt.mp hlong)] at h
    cases h with
    | close => simp [hlong, endOfSection, Except.toOption]

theorem toOption_positional (items : List Json) (read : Except Mismatch α) (fields : Nat) :
    (positional items read fields).toOption =
      read.toOption.bind fun a => if fields < items.length then none else some a := by
  rw [positional, toOption_bind]
  congr 1
  funext a
  split
  · rfl
  · rfl

end items

/-! ### The section about the application -/

/-- Takes a member of the section about the application into the fields so far. -/
def App.take (key : String) (v : Json) (values : Option String × Option String) :
    Option (Option String × Option String) :=
  if key = "name" then v.asString.toOption.map fun s => (some s, values.2)
  else if key = "path" then v.asString.toOption.map fun s => (values.1, some s)
  else some values

/-- The members may come in any order: each field is what its own key gives. -/
theorem App.foldlM_take (hkeys : (ms.map Prod.fst).Nodup) (values : Option String × Option String) :
    ms.foldlM (fun values m => App.take m.1 m.2 values) values =
      (given ms "name" Json.asString).bind fun name =>
        (given ms "path" Json.asString).bind fun path =>
          some (name.or values.1, path.or values.2) := by
  induction ms generalizing values with
  | nil => rfl
  | cons m ms ih =>
    obtain ⟨k, v⟩ := m
    obtain ⟨hk, hkeys⟩ := List.nodup_cons.mp hkeys
    rw [List.foldlM_cons]
    simp only [ih hkeys]
    -- the first member is one of the fields, which no later member is then, or none of them
    by_cases hname : k = "name"
    · subst hname
      have hleft := given_of_notMem hk Json.asString
      cases hv : v.asString.toOption with
      | none => simp [App.take, hv]
      | some s => simp [App.take, hv, hleft, given_cons_ne]
    by_cases hpath : k = "path"
    · subst hpath
      have hleft := given_of_notMem hk Json.asString
      cases hv : v.asString.toOption with
      | none => simp [App.take, hv]
      | some s => simp [App.take, hv, hleft, given_cons_ne]
    simp [App.take, hname, hpath, given_cons_ne]

theorem App.toOption_read (h : node.Means depth v) :
    (App.read node).toOption = (App.ofJson v).toOption := by
  cases h with
  | object hmembers hkeys =>
    rename_i members ms
    calc
      (App.read (.object _ members)).toOption =
          (ms.foldlM (fun values m => App.take m.1 m.2 values) (none, none)).bind fun values =>
            values.1.bind fun name => values.2.bind fun path => some ⟨name, path⟩ := by
        refine toOption_readSection_bind ?_ ?_ hmembers hkeys
        · intro key node v values hnode
          have hread := toOption_readString hnode
          by_cases hname : key = "name"
          · simp only [App.take, if_pos hname]
            exact elim_toOption_of_read hread _
          by_cases hpath : key = "path"
          · simp only [App.take, if_neg hname, if_pos hpath]
            exact elim_toOption_of_read hread _
          simp only [App.take, if_neg hname, if_neg hpath, Option.elim_none]
        · intro values stop
          simp only [toOption_bind, toOption_requireAt]
          rfl
      _ = (App.ofJson (.ofMembers ms)).toOption := by
        simp only [App.ofJson, Json.ofMembers, Json.ofDict, Dict.ofList_entries, toOption_bind,
          toOption_readField? hkeys, toOption_require, App.foldlM_take hkeys, Option.or_none,
          Option.bind_assoc, Option.bind_some]
        rfl
  | array hitems =>
    rename_i items vs
    have hstart : items.Mean _ (vs.drop 0) := hitems
    have hpath := mean_behind hstart
    have hend := mean_behind hpath
    simp only [App.read, App.ofJson, toOption_bind, toOption_positional,
      toOption_mandatory (fun _ _ => toOption_readString) hstart,
      toOption_mandatory (fun _ _ => toOption_readString) hpath,
      toOption_endOfSection_bind hend, Option.bind_map, Function.comp_def, Option.bind_assoc]
    rfl
  | _ => rfl

/-! ### The section of shared fields -/

/-- Takes a member of the section of shared fields into the fields so far. -/
def Defaults.take (key : String) (v : Json) (values : Defaults) : Option Defaults :=
  if key = "hosts" then v.asFields.toOption.map fun hosts => { values with hosts }
  else if key = "services" then v.asFields.toOption.map fun services => { values with services }
  else some values

/-- Here, too, the order of the members does not matter. -/
theorem Defaults.foldlM_take (hkeys : (ms.map Prod.fst).Nodup) (values : Defaults) :
    ms.foldlM (fun values m => Defaults.take m.1 m.2 values) values =
      (given ms "hosts" Json.asFields).bind fun hosts =>
        (given ms "services" Json.asFields).bind fun services =>
          some ⟨hosts.getD values.hosts, services.getD values.services⟩ := by
  induction ms generalizing values with
  | nil => rfl
  | cons m ms ih =>
    obtain ⟨k, v⟩ := m
    obtain ⟨hk, hkeys⟩ := List.nodup_cons.mp hkeys
    rw [List.foldlM_cons]
    simp only [ih hkeys]
    have hleft := given_of_notMem hk Json.asFields
    by_cases hhosts : k = "hosts"
    · subst hhosts
      cases hv : v.asFields.toOption with
      | none => simp [Defaults.take, hv]
      | some fields => simp [Defaults.take, hv, hleft, given_cons_ne]
    by_cases hservices : k = "services"
    · subst hservices
      cases hv : v.asFields.toOption with
      | none => simp [Defaults.take, hv]
      | some fields => simp [Defaults.take, hv, hleft, given_cons_ne]
    simp [Defaults.take, hhosts, hservices, given_cons_ne]

/-- The fields inside a section of shared fields are one level deeper than the section. -/
theorem Defaults.toOption_read (h : node.Means depth v) :
    (Defaults.read (depth - 1) node).toOption = (Defaults.ofJson v).toOption := by
  cases h with
  | object hmembers hkeys =>
    rename_i inner members ms
    calc
      (Defaults.read inner (.object _ members)).toOption =
          (ms.foldlM (fun values m => Defaults.take m.1 m.2 values) .blank).bind some := by
        refine toOption_readSection_bind ?_ (fun _ _ => rfl) hmembers hkeys
        intro key node v values hnode
        have hread := toOption_readFields hnode
        by_cases hhosts : key = "hosts"
        · simp only [Defaults.take, if_pos hhosts]
          exact elim_toOption_of_read hread _
        by_cases hservices : key = "services"
        · simp only [Defaults.take, if_neg hhosts, if_pos hservices]
          exact elim_toOption_of_read hread _
        simp only [Defaults.take, if_neg hhosts, if_neg hservices, Option.elim_none]
      _ = (Defaults.ofJson (.ofMembers ms)).toOption := by
        simp only [Defaults.ofJson, Json.ofMembers, Json.ofDict, Dict.ofList_entries,
          toOption_bind, toOption_readField? hkeys, Defaults.foldlM_take hkeys, Option.bind_assoc,
          Option.bind_some]
        rfl
  | array hitems =>
    rename_i inner items vs
    have hstart : items.Mean _ (vs.drop 0) := hitems
    have hservices := mean_behind hstart
    have hend := mean_behind hservices
    simp only [Defaults.read, Defaults.ofJson, toOption_bind, toOption_positional,
      Nat.add_sub_cancel, toOption_optional ∅ (fun _ _ => toOption_readFields) hstart,
      toOption_optional ∅ (fun _ _ => toOption_readFields) hservices,
      toOption_endOfSection_bind hend, Option.bind_map, Function.comp_def, Option.bind_assoc]
    rfl
  | _ => rfl

/-! ### Whole documents -/

/-- Takes a member of a document into the fields so far. -/
def Draft.take (key : String) (v : Json) (draft : Draft) : Option Draft :=
  if key = "app" then (App.ofJson v).toOption.map fun app => { draft with app := some app }
  else if key = "environment" then
    v.asOptionalString.toOption.map fun environment => { draft with environment }
  else if key = "defaults" then
    (Defaults.ofJson v).toOption.map fun defaults => { draft with defaults }
  else if key = "hosts" then
    v.asFieldsList.toOption.map fun hosts => { draft with hosts := some hosts }
  else if key = "hooks" then v.asFields.toOption.map fun hooks => { draft with hooks }
  else some draft

/-- The members of a document may come in any order as well. On the right the fields are read in the
order of their keys. -/
theorem Draft.foldlM_take (hkeys : (ms.map Prod.fst).Nodup) (draft : Draft) :
    ms.foldlM (fun draft m => Draft.take m.1 m.2 draft) draft =
      (given ms "app" App.ofJson).bind fun app =>
        (given ms "defaults" Defaults.ofJson).bind fun defaults =>
          (given ms "environment" Json.asOptionalString).bind fun environment =>
            (given ms "hooks" Json.asFields).bind fun hooks =>
              (given ms "hosts" Json.asFieldsList).bind fun hosts =>
                some {
                  app := app.or draft.app
                  environment := environment.getD draft.environment
                  defaults := defaults.getD draft.defaults
                  hosts := hosts.or draft.hosts
                  hooks := hooks.getD draft.hooks } := by
  induction ms generalizing draft with
  | nil => simp
  | cons m ms ih =>
    obtain ⟨k, v⟩ := m
    obtain ⟨hk, hkeys⟩ := List.nodup_cons.mp hkeys
    rw [List.foldlM_cons]
    simp only [ih hkeys]
    -- a value that cannot be read makes both sides fail, wherever its turn comes
    by_cases happ : k = "app"
    · subst happ
      cases hv : (App.ofJson v).toOption with
      | none => simp [Draft.take, hv]
      | some app => simp [Draft.take, hv, given_of_notMem hk, given_cons_ne]
    by_cases henvironment : k = "environment"
    · subst henvironment
      cases hv : v.asOptionalString.toOption with
      | none => simp [Draft.take, hv]
      | some environment => simp [Draft.take, hv, given_of_notMem hk, given_cons_ne]
    by_cases hdefaults : k = "defaults"
    · subst hdefaults
      cases hv : (Defaults.ofJson v).toOption with
      | none => simp [Draft.take, hv]
      | some defaults => simp [Draft.take, hv, given_of_notMem hk, given_cons_ne]
    by_cases hhosts : k = "hosts"
    · subst hhosts
      cases hv : v.asFieldsList.toOption with
      | none => simp [Draft.take, hv]
      | some hosts => simp [Draft.take, hv, given_of_notMem hk, given_cons_ne]
    by_cases hhooks : k = "hooks"
    · subst hhooks
      cases hv : v.asFields.toOption with
      | none => simp [Draft.take, hv]
      | some hooks => simp [Draft.take, hv, given_of_notMem hk, given_cons_ne]
    simp [Draft.take, happ, henvironment, hdefaults, hhosts, hhooks, given_cons_ne]

theorem Draft.toOption_field {key : String} (h : node.Means depth v) (draft : Draft) :
    (Draft.field depth key node draft).elim (some draft) Except.toOption =
      Draft.take key v draft := by
  by_cases happ : key = "app"
  · simp only [Draft.field, Draft.take, if_pos happ]
    exact elim_toOption_of_read (App.toOption_read h) _
  by_cases henvironment : key = "environment"
  · simp only [Draft.field, Draft.take, if_neg happ, if_pos henvironment]
    exact elim_toOption_of_read (toOption_readOptionalString h) _
  by_cases hdefaults : key = "defaults"
  · simp only [Draft.field, Draft.take, if_neg happ, if_neg henvironment, if_pos hdefaults]
    exact elim_toOption_of_read (Defaults.toOption_read h) _
  by_cases hhosts : key = "hosts"
  · simp only [Draft.field, Draft.take, if_neg happ, if_neg henvironment, if_neg hdefaults,
      if_pos hhosts]
    exact elim_toOption_of_read (toOption_readFieldsList h) _
  by_cases hhooks : key = "hooks"
  · simp only [Draft.field, Draft.take, if_neg happ, if_neg henvironment, if_neg hdefaults,
      if_neg hhosts, if_pos hhooks]
    exact elim_toOption_of_read (toOption_readFields h) _
  simp only [Draft.field, Draft.take, if_neg happ, if_neg henvironment, if_neg hdefaults,
    if_neg hhosts, if_neg hhooks, Option.elim_none]

/-- Both ways to read a document give the same document, or both give none. -/
theorem toOption_read (h : node.Means (depth + 1) v) :
    (Document.read depth node).toOption = (Document.ofJson v).toOption := by
  cases h with
  | object hmembers hkeys =>
    rename_i members ms
    calc
      (Document.read depth (.object _ members)).toOption =
          (ms.foldlM (fun draft m => Draft.take m.1 m.2 draft) .blank).bind fun draft =>
            draft.app.bind fun app => draft.hosts.bind fun hosts =>
              some ⟨app, draft.environment, draft.defaults, hosts, draft.hooks⟩ := by
        refine toOption_readSection_bind (fun _ _ _ draft hnode => ?_) ?_ hmembers hkeys
        · exact Draft.toOption_field hnode draft
        · intro draft stop
          simp only [toOption_bind, toOption_requireAt]
          rfl
      _ = (Document.ofJson (.ofMembers ms)).toOption := by
        simp only [Document.ofJson, Json.ofMembers, Json.ofDict, Dict.ofList_entries,
          toOption_bind, toOption_readField? hkeys, toOption_require, Draft.foldlM_take hkeys,
          Draft.blank, Option.or_none, Option.bind_assoc, Option.bind_some, join_eq_getD]
        rfl
  | array hitems =>
    rename_i items vs
    have hstart : items.Mean _ (vs.drop 0) := hitems
    have henvironment := mean_behind hstart
    have hdefaults := mean_behind henvironment
    have hhosts := mean_behind hdefaults
    have hhooks := mean_behind hhosts
    have hend := mean_behind hhooks
    simp only [Document.read, Document.ofJson, toOption_bind, toOption_positional,
      toOption_mandatory (fun _ _ => App.toOption_read) hstart,
      toOption_optional none (fun _ _ => toOption_readOptionalString) henvironment,
      toOption_optional .blank (fun _ _ => Defaults.toOption_read) hdefaults,
      toOption_mandatory (fun _ _ => toOption_readFieldsList) hhosts,
      toOption_optional ∅ (fun _ _ => toOption_readFields) hhooks,
      toOption_endOfSection_bind hend, Option.bind_map, Function.comp_def, Option.bind_assoc]
    rfl
  | _ => rfl

/-- A text whose value repeats no key is the text of a document exactly if its value stands for that
document. -/
theorem ofText_eq_ok_iff_ofJson {text : String} (h : Json.parse text = .ok v)
    (hkeys : (Json.Source.ofText text).KeysDistinct) {doc : Document} :
    Document.ofText text = .ok doc ↔ Document.ofJson v = .ok doc := by
  obtain ⟨-, htrailing⟩ := Json.Source.value?_eq_ok_iff.mp h
  have hroot : (Json.Source.ofText text).root.Means (Json.maxDepth - 1 + 1) v :=
    Json.root_means h hkeys
  rw [← toOption_eq_some_iff, ← toOption_eq_some_iff, ← toOption_read hroot, ofText, ofSource,
    toOption_bind, htrailing]
  change Option.bind _ some = some doc ↔ _
  rw [Option.bind_fun_some]

end Rollout.Document
