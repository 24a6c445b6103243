import Mathlib.Data.List.Nodup
import Rollout.Roster

/-!
# Look-up in rosters

The names of a roster are distinct, so a name finds the one item that has it.

## Main results

* `Roster.get?_eq_some_iff` — look-up finds an item exactly if the item is there and has the name
* `Roster.filter_name_eq` — the items with a name are the one that look-up finds
* `Roster.ofList_eq_ok_iff` — the lists that a roster is made of
* `Roster.ofList_eq_error_iff` — the name that keeps a list from making up a roster
-/

namespace Rollout

/-! ### The first repeat -/

/-- An item is the first of a list that occurs a second time. -/
def RepeatsFirst {α : Type} (l : List α) (a : α) : Prop :=
  ∃ front back, l = front ++ a :: back ∧ front.Nodup ∧ a ∈ front

theorem firstRepeatAfter?_eq_some_iff {seen names : List String} {n : String} :
    firstRepeatAfter? seen names = some n ↔ ∃ front back, names = front ++ n :: back ∧
      (front.Nodup ∧ ∀ x ∈ front, x ∉ seen) ∧ (n ∈ front ∨ n ∈ seen) := by
  induction names generalizing seen with
  | nil => simp [firstRepeatAfter?]
  | cons x xs ih =>
    unfold firstRepeatAfter?
    split
    · -- the first name is a repetition, so nothing stands before the one that is looked for
      rename_i hseen
      rw [Option.some_inj]
      constructor
      · rintro rfl
        exact ⟨[], xs, rfl, by simp, .inr hseen⟩
      · rintro ⟨_ | ⟨y, front⟩, back, hsplit, ⟨-, hfresh⟩, -⟩
        · cases hsplit
          rfl
        · cases hsplit
          exact absurd hseen (hfresh _ List.mem_cons_self)
    · rename_i hseen
      rw [ih]
      constructor
      · rintro ⟨front, back, rfl, ⟨hnodup, hfresh⟩, hmem⟩
        refine ⟨x :: front, back, rfl, ⟨?_, ?_⟩, ?_⟩
        · exact List.nodup_cons.mpr ⟨fun hx => hfresh x hx List.mem_cons_self, hnodup⟩
        · rw [List.forall_mem_cons]
          exact ⟨hseen, fun y hy hy' => hfresh y hy (List.mem_cons_of_mem _ hy')⟩
        · simpa [or_assoc, or_left_comm] using hmem
      · rintro ⟨_ | ⟨y, front⟩, back, hsplit, ⟨hnodup, hfresh⟩, hmem⟩
        · cases hsplit
          exact absurd hmem (by simp [hseen])
        · cases hsplit
          obtain ⟨hx, hnodup⟩ := List.nodup_cons.mp hnodup
          rw [List.forall_mem_cons] at hfresh
          refine ⟨front, back, rfl, ⟨hnodup, fun z hz => ?_⟩, ?_⟩
          · rw [List.mem_cons, not_or]
            exact ⟨fun h => hx (h ▸ hz), hfresh.2 z hz⟩
          · simpa [or_assoc, or_left_comm] using hmem

/-- The first name that has occurred before is the first that repeats one. -/
theorem firstRepeat?_eq_some_iff {names : List String} {n : String} :
    firstRepeat? names = some n ↔ RepeatsFirst names n := by
  simp [firstRepeat?, firstRepeatAfter?_eq_some_iff, RepeatsFirst]

theorem repeatsFirst_map_iff {α β : Type} {f : α → β} (hf : Function.Injective f) {l : List α}
    {a : α} : RepeatsFirst (l.map f) (f a) ↔ RepeatsFirst l a := by
  constructor
  · rintro ⟨front, back, hsplit, hnodup, hmem⟩
    obtain ⟨front, rest, rfl, rfl, hrest⟩ := List.map_eq_append_iff.mp hsplit
    obtain ⟨b, back, rfl, hb, -⟩ := List.map_eq_cons_iff.mp hrest
    obtain rfl := hf hb
    exact ⟨front, back, rfl, hnodup.of_map, (List.mem_map_of_injective hf).mp hmem⟩
  · rintro ⟨front, back, rfl, hnodup, hmem⟩
    exact ⟨front.map f, back.map f, by simp, hnodup.map hf, List.mem_map_of_mem hmem⟩

/-! ### Rosters -/

namespace Roster

variable {α : Type} [Named α] {r : Roster α} {a b : α} {n : String}

theorem eq_of_name_eq (ha : a ∈ r.toList) (hb : b ∈ r.toList) (h : name a = name b) : a = b :=
  List.inj_on_of_nodup_map r.nodup ha hb h

/-- A name finds an item exactly if the item is in the roster and has that name. -/
theorem get?_eq_some_iff : r.get? n = some a ↔ a ∈ r.toList ∧ name a = n := by
  constructor
  · intro h
    exact ⟨List.mem_of_find?_eq_some h, by simpa using List.find?_some h⟩
  · rintro ⟨ha, rfl⟩
    cases h : r.get? (name a) with
    | none => exact absurd (List.find?_eq_none.mp h a ha) (by simp)
    | some b =>
      have same : name b = name a := by simpa using List.find?_some h
      rw [eq_of_name_eq (List.mem_of_find?_eq_some h) ha same]

/-- The items with a name are those that the name finds: one or none. -/
theorem filter_name_eq (r : Roster α) (n : String) :
    (r.toList.filter fun a => name a == n) = (r.get? n).toList := by
  cases h : r.get? n with
  | none =>
    rw [get?, List.find?_eq_none] at h
    simpa using h
  | some a =>
    obtain ⟨ha, rfl⟩ := get?_eq_some_iff.mp h
    have distinct : (r.toList.filter fun b => name b == name a).Nodup :=
      (List.Nodup.of_map _ r.nodup).filter _
    apply List.perm_singleton.mp
    rw [List.perm_ext_iff_of_nodup distinct (List.nodup_singleton a)]
    intro b
    simp only [List.mem_filter, beq_iff_eq, List.mem_singleton]
    constructor
    · rintro ⟨hb, same⟩
      exact eq_of_name_eq hb ha same
    · rintro rfl
      exact ⟨ha, rfl⟩

/-- A list makes up a roster exactly if the roster lists the same items. -/
theorem ofList_eq_ok_iff {items : List α} : ofList items = .ok r ↔ r.toList = items := by
  refine ⟨toList_of_ofList_eq_ok, ?_⟩
  rintro rfl
  unfold ofList
  split
  · rename_i repeated h
    rw [firstRepeat?_eq_none_iff.mpr r.nodup] at h
    cases h
  · rfl

/-- A list makes up no roster because of the first name that repeats another. -/
theorem ofList_eq_error_iff {items : List α} :
    ofList items = .error n ↔ RepeatsFirst (items.map name) n := by
  rw [← firstRepeat?_eq_some_iff]
  unfold ofList
  split
  · rename_i repeated h
    simp [h]
  · rename_i h
    simp [h]

end Roster

end Rollout
