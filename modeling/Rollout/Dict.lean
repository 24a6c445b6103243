/-!
# Finite maps in key order

A `Dict` is a finite map from strings, kept as a list of entries whose keys strictly ascend. The
order is part of the type, so a dict has one representation, and whatever walks over it meets
the keys in ascending order. `NameSet` is the set of strings kept in the same way.

## Main definitions

* `Dict.get?`, `Dict.insert`, `Dict.erase`, `Dict.ofList` — the usual operations
* `Dict.orElse` — a dict completed with the entries of another whose keys it lacks
* `Dict.filterMap` — new values for the entries, some of which are dropped
* `NameSet.insert`, `NameSet.ofList`

## Main results

* `Dict.get?_insert`, `Dict.get?_orElse` — the operations seen through look-up
* `Dict.ext_get?` — dicts with equal look-ups are equal
-/

namespace Rollout

/-- A finite map from strings to `α`, its keys strictly ascending. -/
structure Dict (α : Type) where
  entries : List (String × α)
  ascending : entries.Pairwise fun a b => a.1 < b.1

namespace Dict

variable {α β : Type}

/-- The value that a list of entries, in any order, gives for a key: that of its first entry
with the key. -/
def lookup (key : String) : List (String × α) → Option α
  | [] => none
  | (k, v) :: rest => if k = key then some v else lookup key rest

/-- The entry for a key is put in the place that the order of the keys gives it. -/
def insertEntry (key : String) (value : α) : List (String × α) → List (String × α)
  | [] => [(key, value)]
  | (k, v) :: rest =>
    if key < k then (key, value) :: (k, v) :: rest
    else if key = k then (key, value) :: rest
    else (k, v) :: insertEntry key value rest

theorem mem_insertEntry {key : String} {value : α} {e : String × α} {l : List (String × α)}
    (h : e ∈ insertEntry key value l) : e = (key, value) ∨ e ∈ l := by
  induction l with
  | nil => simpa [insertEntry] using h
  | cons d l ih =>
    simp only [insertEntry] at h
    split at h
    · simpa using h
    · split at h
      · rcases List.mem_cons.1 h with h | h
        · exact .inl h
        · exact .inr (List.mem_cons_of_mem _ h)
      · rcases List.mem_cons.1 h with h | h
        · exact .inr (h ▸ List.mem_cons_self)
        · exact (ih h).imp_right (List.mem_cons_of_mem _)

theorem pairwise_insertEntry {key : String} {value : α} {l : List (String × α)}
    (h : l.Pairwise fun a b => a.1 < b.1) :
    (insertEntry key value l).Pairwise fun a b => a.1 < b.1 := by
  induction l with
  | nil => simp [insertEntry]
  | cons d l ih =>
    obtain ⟨hd, hl⟩ := List.pairwise_cons.1 h
    simp only [insertEntry]
    split
    · rename_i lt
      refine List.pairwise_cons.2 ⟨fun e he => ?_, h⟩
      rcases List.mem_cons.1 he with rfl | he
      · exact lt
      · exact String.lt_trans lt (hd e he)
    · split
      · rename_i eq
        exact List.pairwise_cons.2 ⟨fun e he => eq ▸ hd e he, hl⟩
      · rename_i nlt ne
        refine List.pairwise_cons.2 ⟨fun e he => ?_, ih hl⟩
        rcases mem_insertEntry he with rfl | he
        · rcases Std.lt_trichotomy key d.1 with h | h | h
          · exact absurd h nlt
          · exact absurd h ne
          · exact h
        · exact hd e he

/-- The dict without entries. -/
def empty : Dict α := ⟨[], .nil⟩

instance : EmptyCollection (Dict α) := ⟨empty⟩
instance : Inhabited (Dict α) := ⟨empty⟩

/-- The value of a key. -/
def get? (d : Dict α) (key : String) : Option α := lookup key d.entries

/-- Whether a key has a value. -/
def contains (d : Dict α) (key : String) : Bool := (d.get? key).isSome

/-- The dict in which `key` has the given value and every other key the value it had. -/
def insert (d : Dict α) (key : String) (value : α) : Dict α :=
  ⟨insertEntry key value d.entries, pairwise_insertEntry d.ascending⟩

/-- The dict of a list of entries; of entries with one key the last counts. -/
def ofList (l : List (String × α)) : Dict α :=
  l.foldl (fun d e => d.insert e.1 e.2) ∅

/-- The dict without the entry of `key`. -/
def erase (d : Dict α) (key : String) : Dict α :=
  ⟨d.entries.filter fun e => e.1 != key, d.ascending.filter _⟩

/-- A dict completed with the entries of `other` whose keys it lacks. -/
def orElse (d other : Dict α) : Dict α :=
  other.entries.foldl (fun d e => if d.contains e.1 then d else d.insert e.1 e.2) d

/-- New values for the entries; an entry for which `f` gives none is dropped. -/
def filterMap (f : String → α → Option β) (d : Dict α) : Dict β :=
  ⟨d.entries.filterMap fun e => (f e.1 e.2).map fun v => (e.1, v),
    d.ascending.filterMap _ fun a a' h b hb b' hb' => by
      obtain ⟨_, -, rfl⟩ := Option.map_eq_some_iff.1 hb
      obtain ⟨_, -, rfl⟩ := Option.map_eq_some_iff.1 hb'
      exact h⟩

/-- New values for all entries. -/
def map (f : α → β) (d : Dict α) : Dict β := d.filterMap fun _ v => some (f v)

/-- The keys, in ascending order. -/
def keys (d : Dict α) : List String := d.entries.map Prod.fst

/-- Whether there are no entries. -/
def isEmpty (d : Dict α) : Bool := d.entries.isEmpty

/-! ### Look-up -/

theorem lookup_eq_none_of_lt {key : String} {l : List (String × α)}
    (h : ∀ e ∈ l, key < e.1) : lookup key l = none := by
  induction l with
  | nil => rfl
  | cons d l ih =>
    have hd := h d List.mem_cons_self
    have hne : d.1 ≠ key := fun he => String.lt_irrefl _ (he ▸ hd)
    simp [lookup, hne, ih fun e he => h e (List.mem_cons_of_mem _ he)]

theorem lookup_insertEntry {key k : String} {value : α} {l : List (String × α)} :
    lookup k (insertEntry key value l) = if key = k then some value else lookup k l := by
  induction l with
  | nil => simp [insertEntry, lookup]
  | cons d l ih =>
    simp only [insertEntry]
    split
    · simp [lookup]
    · split
      · rename_i h
        simp only [lookup, h]
        split <;> rfl
      · rename_i ne
        simp only [lookup, ih]
        split
        · rename_i h
          simp [h] at ne
          simp [ne]
        · rfl

@[simp] theorem get?_empty (k : String) : (∅ : Dict α).get? k = none := rfl

@[simp] theorem get?_insert (d : Dict α) (key k : String) (value : α) :
    (d.insert key value).get? k = if key = k then some value else d.get? k :=
  lookup_insertEntry

theorem lookup_filter_ne {key k : String} {l : List (String × α)} :
    lookup k (l.filter fun e => e.1 != key) = if key = k then none else lookup k l := by
  induction l with
  | nil => simp [lookup]
  | cons d l ih =>
    by_cases h : d.1 = key
    · simp only [h, bne_self_eq_false, Bool.false_eq_true, not_false_eq_true,
        List.filter_cons_of_neg, ih, lookup]
      split <;> simp_all
    · simp only [bne_iff_ne, ne_eq, h, not_false_eq_true, List.filter_cons_of_pos, lookup, ih]
      split
      · rename_i he
        simp [← he, Ne.symm h]
      · rfl

@[simp] theorem get?_erase (d : Dict α) (key k : String) :
    (d.erase key).get? k = if key = k then none else d.get? k :=
  lookup_filter_ne

theorem get?_foldl_orElse (l : List (String × α)) (d : Dict α) (k : String) :
    (l.foldl (fun d e => if d.contains e.1 then d else d.insert e.1 e.2) d).get? k =
      (d.get? k).or (lookup k l) := by
  induction l generalizing d with
  | nil => simp [lookup]
  | cons e l ih =>
    rw [List.foldl_cons, ih]
    by_cases hc : d.contains e.1
    · simp only [hc, ↓reduceIte, lookup]
      split
      · rename_i h
        obtain ⟨v, hv⟩ := Option.isSome_iff_exists.1 (h ▸ hc : (d.get? k).isSome)
        simp [hv]
      · rfl
    · simp only [hc, Bool.false_eq_true, ↓reduceIte, get?_insert, lookup]
      split
      · rename_i h
        have : d.get? k = none := by simpa [contains, h] using hc
        simp [this]
      · rfl

/-- An entry of the completing dict counts only where the completed dict has none. -/
@[simp] theorem get?_orElse (d other : Dict α) (k : String) :
    (d.orElse other).get? k = (d.get? k).or (other.get? k) :=
  get?_foldl_orElse ..

theorem mem_of_lookup {k : String} {v : α} {l : List (String × α)} (h : lookup k l = some v) :
    (k, v) ∈ l := by
  induction l with
  | nil => simp [lookup] at h
  | cons e l ih =>
    simp only [lookup] at h
    split at h
    · rename_i he
      simp only [Option.some.injEq] at h
      exact List.mem_cons.2 (.inl (by rw [← he, ← h]))
    · exact List.mem_cons_of_mem _ (ih h)

/-- In a dict, the value found for a key is that of its entry. -/
theorem get?_eq_some_iff {d : Dict α} {k : String} {v : α} :
    d.get? k = some v ↔ (k, v) ∈ d.entries := by
  refine ⟨mem_of_lookup, fun h => ?_⟩
  obtain ⟨l, hl⟩ := d
  simp only [get?] at *
  induction l with
  | nil => simp at h
  | cons e l ih =>
    obtain ⟨he, hl⟩ := List.pairwise_cons.1 hl
    rcases List.mem_cons.1 h with rfl | h
    · simp [lookup]
    · have hne : e.1 ≠ k := fun hk => String.lt_irrefl _ (hk ▸ he _ h)
      simp [lookup, hne, ih hl h]

theorem entries_eq_of_lookup {l₁ l₂ : List (String × α)}
    (h₁ : l₁.Pairwise fun a b => a.1 < b.1) (h₂ : l₂.Pairwise fun a b => a.1 < b.1)
    (h : ∀ k, lookup k l₁ = lookup k l₂) : l₁ = l₂ := by
  induction l₁ generalizing l₂ with
  | nil =>
    cases l₂ with
    | nil => rfl
    | cons e l₂ => simpa [lookup] using h e.1
  | cons d l₁ ih =>
    cases l₂ with
    | nil => simpa [lookup] using h d.1
    | cons e l₂ =>
      obtain ⟨hd, hl₁⟩ := List.pairwise_cons.1 h₁
      obtain ⟨he, hl₂⟩ := List.pairwise_cons.1 h₂
      have hk : d.1 = e.1 := by
        rcases Std.lt_trichotomy d.1 e.1 with lt | eq | lt
        · have := h d.1
          rw [lookup_eq_none_of_lt (l := e :: l₂) fun f hf => by
            rcases List.mem_cons.1 hf with rfl | hf
            · exact lt
            · exact String.lt_trans lt (he f hf)] at this
          simp [lookup] at this
        · exact eq
        · have := h e.1
          rw [lookup_eq_none_of_lt (l := d :: l₁) fun f hf => by
            rcases List.mem_cons.1 hf with rfl | hf
            · exact lt
            · exact String.lt_trans lt (hd f hf)] at this
          simp [lookup] at this
      have hv : d.2 = e.2 := by simpa [lookup, hk] using h d.1
      have hr : ∀ k, lookup k l₁ = lookup k l₂ := by
        intro k
        by_cases hk' : d.1 = k
        · rw [lookup_eq_none_of_lt fun f hf => hk' ▸ hd f hf,
            lookup_eq_none_of_lt fun f hf => (hk' ▸ hk ▸ he f hf)]
        · have := h k
          simpa [lookup, hk', ← hk] using this
      rw [Prod.ext hk hv, ih hl₁ hl₂ hr]

/-- A dict is determined by its look-ups. -/
theorem ext_get? {d e : Dict α} (h : ∀ k, d.get? k = e.get? k) : d = e := by
  obtain ⟨l₁, h₁⟩ := d
  obtain ⟨l₂, h₂⟩ := e
  simp only [mk.injEq]
  exact entries_eq_of_lookup h₁ h₂ h

theorem ext_entries {d e : Dict α} (h : d.entries = e.entries) : d = e := by
  obtain ⟨l₁, h₁⟩ := d
  obtain ⟨l₂, h₂⟩ := e
  simpa using h

instance [DecidableEq α] : DecidableEq (Dict α) := fun d e =>
  decidable_of_iff (d.entries = e.entries) ⟨ext_entries, congrArg entries⟩

end Dict

/-- A finite set of strings, listed in ascending order. -/
structure NameSet where
  toList : List String
  ascending : toList.Pairwise (· < ·)

namespace NameSet

/-- A name is put in its place in the order, unless it is there already. -/
def insertName (name : String) : List String → List String
  | [] => [name]
  | x :: xs =>
    if name < x then name :: x :: xs
    else if name = x then x :: xs
    else x :: insertName name xs

@[simp] theorem mem_insertName {name x : String} {xs : List String} :
    x ∈ insertName name xs ↔ x = name ∨ x ∈ xs := by
  induction xs with
  | nil => simp [insertName]
  | cons y ys ih =>
    simp only [insertName]
    split
    · simp
    · split
      · rename_i h
        simp [h]
      · simp [ih, or_left_comm]

theorem pairwise_insertName {name : String} {xs : List String} (h : xs.Pairwise (· < ·)) :
    (insertName name xs).Pairwise (· < ·) := by
  induction xs with
  | nil => simp [insertName]
  | cons y ys ih =>
    obtain ⟨hy, hys⟩ := List.pairwise_cons.1 h
    simp only [insertName]
    split
    · rename_i lt
      refine List.pairwise_cons.2 ⟨fun e he => ?_, h⟩
      rcases List.mem_cons.1 he with rfl | he
      · exact lt
      · exact String.lt_trans lt (hy e he)
    · split
      · exact h
      · rename_i nlt ne
        refine List.pairwise_cons.2 ⟨fun e he => ?_, ih hys⟩
        rcases mem_insertName.1 he with rfl | he
        · rcases Std.lt_trichotomy e y with h | h | h
          · exact absurd h nlt
          · exact absurd h ne
          · exact h
        · exact hy e he

/-- The set without members. -/
def empty : NameSet := ⟨[], .nil⟩

instance : EmptyCollection NameSet := ⟨empty⟩
instance : Inhabited NameSet := ⟨empty⟩

/-- The set with one more member. -/
def insert (s : NameSet) (name : String) : NameSet :=
  ⟨insertName name s.toList, pairwise_insertName s.ascending⟩

/-- The set of the names in a list. -/
def ofList (l : List String) : NameSet := l.foldl insert ∅

/-- The number of members. -/
def size (s : NameSet) : Nat := s.toList.length

instance : Membership String NameSet := ⟨fun s name => name ∈ s.toList⟩

theorem mem_def {s : NameSet} {x : String} : x ∈ s ↔ x ∈ s.toList := Iff.rfl

@[simp] theorem mem_insert {s : NameSet} {name x : String} :
    x ∈ s.insert name ↔ x = name ∨ x ∈ s :=
  mem_insertName

theorem ext_toList {s t : NameSet} (h : s.toList = t.toList) : s = t := by
  obtain ⟨l₁, h₁⟩ := s
  obtain ⟨l₂, h₂⟩ := t
  simpa using h

instance : DecidableEq NameSet := fun s t =>
  decidable_of_iff (s.toList = t.toList) ⟨ext_toList, congrArg toList⟩

end NameSet

end Rollout
