import Mathlib.Data.List.Sort
import Rollout.Dict

/-!
# Dicts and name sets made from lists

## Main results

* `Dict.get?_ofList` — of entries with one key the last counts
* `Dict.get?_ofList_eq_some_iff` — with distinct keys all entries count
* `Dict.ofList_entries` — a dict is made from its own entries
* `Dict.get?_filterMap`, `Dict.filterMap_map` — new values, also such that are taken back
* `Dict.find?_entries_eq_some_iff` — the first entry with a property has the least key
* `Dict.get?_rewritten` — a value rewritten in its place
* `NameSet.mem_ofList`, `NameSet.nodup` — what a set made from a list holds, each name once
* `NameSet.ext_mem` — sets with the same members are equal
-/

namespace Rollout

namespace Dict

variable {α β : Type}

theorem lookup_append (k : String) (l l' : List (String × α)) :
    lookup k (l ++ l') = (lookup k l).or (lookup k l') := by
  induction l with
  | nil => simp [lookup]
  | cons e l ih =>
    simp only [List.cons_append, lookup]
    split
    · rfl
    · exact ih

theorem get?_foldl_insert (l : List (String × α)) (d : Dict α) (k : String) :
    (l.foldl (fun d e => d.insert e.1 e.2) d).get? k = (lookup k l.reverse).or (d.get? k) := by
  induction l generalizing d with
  | nil => simp [lookup]
  | cons e l ih =>
    rw [List.foldl_cons, ih, List.reverse_cons, lookup_append, get?_insert, Option.or_assoc]
    -- the entry counts where no later one has the key, and hides what the dict had before
    congr 1
    simp only [lookup]
    split <;> rfl

/-- A dict made from a list gives for a key the value of the last entry with that key. -/
theorem get?_ofList (l : List (String × α)) (k : String) :
    (ofList l).get? k = lookup k l.reverse := by
  rw [ofList, get?_foldl_insert, get?_empty, Option.or_none]

theorem lookup_eq_none_iff {l : List (String × α)} {k : String} :
    lookup k l = none ↔ k ∉ l.map Prod.fst := by
  induction l with
  | nil => simp [lookup]
  | cons e l ih =>
    by_cases hk : e.1 = k
    · simp [lookup, hk]
    · simp [lookup, hk, ih, Ne.symm hk]

/-- With distinct keys, the first entry with a key is the last one. -/
theorem lookup_reverse_of_nodup {l : List (String × α)} (h : (l.map Prod.fst).Nodup) {k : String} :
    lookup k l.reverse = lookup k l := by
  induction l with
  | nil => rfl
  | cons e l ih =>
    obtain ⟨he, hl⟩ := List.nodup_cons.mp h
    rw [List.reverse_cons, lookup_append, ih hl]
    by_cases hk : e.1 = k
    · have hnone : lookup k l = none := lookup_eq_none_iff.mpr (hk ▸ he)
      simp [lookup, hk, hnone]
    · simp [lookup, hk]

/-- With distinct keys, a list gives for a key the value that it lists with the key. -/
theorem lookup_eq_some_iff_of_nodup {l : List (String × α)} (h : (l.map Prod.fst).Nodup)
    {k : String} {v : α} : lookup k l = some v ↔ (k, v) ∈ l := by
  refine ⟨mem_of_lookup, fun hmem => ?_⟩
  induction l with
  | nil => cases hmem
  | cons e l ih =>
    obtain ⟨he, hl⟩ := List.nodup_cons.mp h
    rw [lookup]
    split
    · rename_i hk
      rcases List.mem_cons.mp hmem with rfl | hmem
      · rfl
      · exact absurd (hk ▸ List.mem_map_of_mem hmem) he
    · rename_i hk
      rcases List.mem_cons.mp hmem with rfl | hmem
      · exact absurd rfl hk
      · exact ih hl hmem

/-- A dict that is made from a list with distinct keys has just the entries of the list. -/
theorem get?_ofList_eq_some_iff {l : List (String × α)} (h : (l.map Prod.fst).Nodup) {k : String}
    {v : α} : (ofList l).get? k = some v ↔ (k, v) ∈ l := by
  rw [get?_ofList, lookup_reverse_of_nodup h, lookup_eq_some_iff_of_nodup h]

/-- With ascending keys, the first entry with a key is the last one. -/
theorem lookup_reverse {l : List (String × α)} (h : l.Pairwise fun a b => a.1 < b.1) (k : String) :
    lookup k l.reverse = lookup k l := by
  apply lookup_reverse_of_nodup
  rw [List.Nodup, List.pairwise_map]
  refine h.imp fun {a b} lt heq => ?_
  rw [heq] at lt
  exact String.lt_irrefl _ lt

/-- A dict has each key once. -/
theorem nodup_keys (d : Dict α) : d.keys.Nodup := by
  rw [keys, List.Nodup, List.pairwise_map]
  refine d.ascending.imp fun {a b} lt heq => ?_
  rw [heq] at lt
  exact String.lt_irrefl _ lt

theorem entries_foldl_insert (l : List (String × α)) (d : Dict α) :
    (l.foldl (fun d e => d.insert e.1 e.2) d).entries =
      l.foldl (fun entries e => insertEntry e.1 e.2 entries) d.entries := by
  induction l generalizing d with
  | nil => rfl
  | cons e l ih => exact ih _

/-- The entries of a dict that is made from a list are put in their places one after the other. -/
theorem entries_ofList (l : List (String × α)) :
    (ofList l).entries = l.foldl (fun entries e => insertEntry e.1 e.2 entries) [] :=
  entries_foldl_insert l ∅

/-- A dict is made from its own entries. -/
@[simp] theorem ofList_entries (d : Dict α) : ofList d.entries = d := by
  apply ext_get?
  intro k
  rw [get?_ofList, lookup_reverse d.ascending]
  rfl

/-- A dict to which nothing is added stays as it is. -/
@[simp] theorem orElse_empty (d : Dict α) : d.orElse ∅ = d := rfl

theorem erase_eq_self {d : Dict α} {key : String} (h : d.get? key = none) : d.erase key = d := by
  apply ext_get?
  intro k
  rw [get?_erase]
  split
  · rename_i hk
    rw [← hk, h]
  · rfl

theorem entries_map (f : α → β) (d : Dict α) :
    (d.map f).entries = d.entries.map fun e => (e.1, f e.2) := by
  simp [map, filterMap]

theorem mem_entries_filterMap {f : String → α → Option β} {d : Dict α} {k : String} {b : β} :
    (k, b) ∈ (d.filterMap f).entries ↔ ∃ a, (k, a) ∈ d.entries ∧ f k a = some b := by
  simp only [filterMap, List.mem_filterMap, Option.map_eq_some_iff]
  constructor
  · rintro ⟨⟨_, a⟩, hmem, _, hf, heq⟩
    cases heq
    exact ⟨a, hmem, hf⟩
  · rintro ⟨a, hmem, hf⟩
    exact ⟨(k, a), hmem, b, hf, rfl⟩

/-- Of the new values, a key has the one that comes from its own. -/
theorem get?_filterMap (f : String → α → Option β) (d : Dict α) (k : String) :
    (d.filterMap f).get? k = (d.get? k).bind (f k) := by
  ext b
  rw [get?_eq_some_iff, mem_entries_filterMap, Option.bind_eq_some_iff]
  simp only [get?_eq_some_iff]

theorem get?_map (f : α → β) (d : Dict α) (k : String) : (d.map f).get? k = (d.get? k).map f := by
  rw [map, get?_filterMap]
  cases d.get? k <;> rfl

/-- New values that are taken back leave the dict as it was. -/
theorem filterMap_map {f : α → β} {g : String → β → Option α} {d : Dict α}
    (h : ∀ e ∈ d.entries, g e.1 (f e.2) = some e.2) : (d.map f).filterMap g = d := by
  apply ext_entries
  calc
    ((d.map f).filterMap g).entries =
        d.entries.filterMap fun e => (g e.1 (f e.2)).map fun v => (e.1, v) := by
      simp [filterMap, entries_map, List.filterMap_map]
    _ = d.entries.filterMap some := by
      apply List.filterMap_congr
      intro e he
      rw [h e he]
      rfl
    _ = d.entries := by simp

/-- The first entry with a property is the one with the least key. -/
theorem find?_entries_eq_some_iff {p : α → Bool} {d : Dict α} {k : String} {v : α} :
    (d.entries.find? fun e => p e.2) = some (k, v) ↔
      d.get? k = some v ∧ p v = true ∧
        ∀ k' v', k' < k → d.get? k' = some v' → p v' = false := by
  simp only [List.find?_eq_some_iff_append, Bool.not_eq_true', get?_eq_some_iff]
  constructor
  · rintro ⟨hv, front, back, hsplit, hfront⟩
    have hsorted := d.ascending
    rw [hsplit, List.pairwise_append, List.pairwise_cons] at hsorted
    refine ⟨by simp [hsplit], hv, fun k' v' hlt hmem => ?_⟩
    rw [hsplit, List.mem_append, List.mem_cons] at hmem
    rcases hmem with hmem | heq | hmem
    · exact hfront _ hmem
    · cases heq
      exact absurd hlt (String.lt_irrefl _)
    · -- what comes behind the entry has a greater key
      exact absurd (String.lt_trans hlt (hsorted.2.1.1 _ hmem)) (String.lt_irrefl _)
  · rintro ⟨hmem, hv, hleast⟩
    obtain ⟨front, back, hsplit⟩ := List.append_of_mem hmem
    have hsorted := d.ascending
    rw [hsplit, List.pairwise_append] at hsorted
    refine ⟨hv, front, back, hsplit, fun e he => ?_⟩
    exact hleast e.1 e.2 (hsorted.2.2 e he _ List.mem_cons_self) (by simp [hsplit, he])

/-- Where the value of one key is rewritten, if it has one, the other look-ups stay as they are. -/
theorem get?_rewritten {d rewritten : Dict α} {key : String} {f : α → α}
    (hsome : ∀ v, d.get? key = some v → rewritten = d.insert key (f v))
    (hnone : d.get? key = none → rewritten = d) (k : String) :
    rewritten.get? k = if k = key then (d.get? k).map f else d.get? k := by
  cases hvalue : d.get? key with
  | some v =>
    rw [hsome v hvalue, get?_insert]
    by_cases hkey : k = key
    · simp [hkey, hvalue]
    · simp [hkey, Ne.symm hkey]
  | none =>
    rw [hnone hvalue]
    split
    · rename_i hkey
      rw [hkey, hvalue, Option.map_none]
    · rfl

end Dict

namespace NameSet

@[simp] theorem not_mem_empty (x : String) : x ∉ (∅ : NameSet) := List.not_mem_nil

theorem mem_foldl_insert {x : String} (l : List String) (s : NameSet) :
    x ∈ l.foldl insert s ↔ x ∈ l ∨ x ∈ s := by
  induction l generalizing s with
  | nil => simp
  | cons y l ih => simp [ih, or_left_comm, or_assoc]

/-- The set of the names in a list holds just these. -/
@[simp] theorem mem_ofList {x : String} {l : List String} : x ∈ ofList l ↔ x ∈ l := by
  simp [ofList, mem_foldl_insert]

/-- A set lists no name twice. -/
theorem nodup (s : NameSet) : s.toList.Nodup :=
  List.Pairwise.imp (fun {a b} (lt : a < b) (eq : a = b) => String.lt_irrefl b (eq ▸ lt)) s.ascending

/-- Sets with the same members are equal. -/
theorem ext_mem {s t : NameSet} (h : ∀ x, x ∈ s ↔ x ∈ t) : s = t := by
  have perm : s.toList.Perm t.toList := (List.perm_ext_iff_of_nodup s.nodup t.nodup).mpr h
  have asymm : ∀ a b : String, a ∈ s.toList → b ∈ t.toList → a < b → b < a → a = b :=
    fun a b _ _ lt gt => absurd (String.lt_trans lt gt) (String.lt_irrefl a)
  exact ext_toList (perm.eq_of_pairwise asymm s.ascending t.ascending)

end NameSet

end Rollout
