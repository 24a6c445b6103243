/-!
# Rosters

A roster is a list of items with distinct names: the hosts of an environment, or the services of
a host. It keeps the order in which the items were given.

## Main definitions

* `Named` — items with a name
* `firstRepeat?` — the first name of a list that occurred before
* `Roster`, `Roster.ofList` — rosters, and how one is made
* `Roster.get?`, `Roster.contains`, `Roster.names` — look-up by name, and the names in order

## Main results

* `firstRepeat?_eq_none_iff` — no name is a repeated one exactly if all are distinct
-/

namespace Rollout

/-- Items that have a name. -/
class Named (α : Type) where
  name : α → String

export Named (name)

/-- The first name that has occurred before, `seen` being the names so far. -/
def firstRepeatAfter? (seen : List String) : List String → Option String
  | [] => none
  | x :: xs => if x ∈ seen then some x else firstRepeatAfter? (x :: seen) xs

/-- The first name of a list that has occurred before in it. -/
def firstRepeat? (names : List String) : Option String := firstRepeatAfter? [] names

theorem firstRepeatAfter?_eq_none_iff {seen names : List String} :
    firstRepeatAfter? seen names = none ↔ names.Nodup ∧ ∀ x ∈ names, x ∉ seen := by
  induction names generalizing seen with
  | nil => simp [firstRepeatAfter?]
  | cons x xs ih =>
    by_cases h : x ∈ seen
    · simp [firstRepeatAfter?, h]
    · simp only [firstRepeatAfter?, h, ↓reduceIte, ih, List.mem_cons, not_or, List.nodup_cons,
        forall_eq_or_imp, not_false_eq_true, true_and]
      constructor
      · rintro ⟨hn, hx⟩
        exact ⟨⟨fun hmem => (hx x hmem).1 rfl, hn⟩, fun y hy => (hx y hy).2⟩
      · rintro ⟨⟨hx, hn⟩, hs⟩
        exact ⟨hn, fun y hy => ⟨fun e => hx (e ▸ hy), hs y hy⟩⟩

/-- No name is a repeated one exactly if all are distinct. -/
theorem firstRepeat?_eq_none_iff {names : List String} :
    firstRepeat? names = none ↔ names.Nodup := by
  simp [firstRepeat?, firstRepeatAfter?_eq_none_iff]

/-- A list of items with distinct names. -/
structure Roster (α : Type) [Named α] where
  toList : List α
  nodup : (toList.map name).Nodup

namespace Roster

variable {α : Type} [Named α]

/-- The roster without items. -/
def empty : Roster α := ⟨[], by simp⟩

instance : EmptyCollection (Roster α) := ⟨empty⟩
instance : Inhabited (Roster α) := ⟨empty⟩

/-- The roster of some items, or the first name that repeats an earlier one. -/
def ofList (items : List α) : Except String (Roster α) :=
  match h : firstRepeat? (items.map name) with
  | some repeated => .error repeated
  | none => .ok ⟨items, firstRepeat?_eq_none_iff.1 h⟩

/-- The item with a name. -/
def get? (r : Roster α) (n : String) : Option α := r.toList.find? fun a => name a == n

/-- Whether an item has a name. -/
def contains (r : Roster α) (n : String) : Bool := (r.get? n).isSome

/-- The names, in order. -/
def names (r : Roster α) : List String := r.toList.map name

/-- The number of items. -/
def size (r : Roster α) : Nat := r.toList.length

/-- Whether there are no items. -/
def isEmpty (r : Roster α) : Bool := r.toList.isEmpty

/-- The first item. -/
def first? (r : Roster α) : Option α := r.toList.head?

/-- The items as a function changes them, in order. -/
def map {β : Type} (f : α → β) (r : Roster α) : List β := r.toList.map f

/-- A roster keeps the items it is made of. -/
theorem toList_of_ofList_eq_ok {items : List α} {r : Roster α} (h : ofList items = .ok r) :
    r.toList = items := by
  unfold ofList at h
  split at h
  · simp at h
  · cases h
    rfl

theorem ext_toList {r s : Roster α} (h : r.toList = s.toList) : r = s := by
  obtain ⟨l₁, h₁⟩ := r
  obtain ⟨l₂, h₂⟩ := s
  simpa using h

instance [DecidableEq α] : DecidableEq (Roster α) := fun r s =>
  decidable_of_iff (r.toList = s.toList) ⟨ext_toList, congrArg toList⟩

end Roster

end Rollout
