import Rollout.Json.Reader
import Rollout.Proofs.Except

/-!
# Trees that have values

A tree whose text has a value holds no flaw, so all its parts have values, and every string in it
has an end. The last is nothing that a value asks for, since it counts only what a string says; it
is the reader that never gives a string without an end a content. Hence a value can be skipped over
as well, although skipping looks for the ends of strings.

## Main definitions

* `Json.Source.KeysDistinct` — no object of a text repeats a key
* `Json.Node.Means` — a tree without flaws and repeated keys, and its value
* `Json.Node.Skips` — a tree can be skipped over if it has a value

## Main results

* `Json.readNode_skips` — trees that are read can be skipped over if they have values
* `Json.root_means` — the tree of a text with a value is one without flaws
-/

namespace Rollout.Json

/-! ### Keys -/

/-- The keys of an object, as far as they say something, in the order of the text. -/
def Members.keys : Members → List String
  | .close _ | .stuck _ => []
  | .member key _ _ rest =>
    match key.content with
    | .ok k => k :: rest.keys
    | .error _ => rest.keys

mutual

/-- No object of a value repeats a key. -/
def Node.KeysDistinct : Node → Prop
  | .array _ items => items.KeysDistinct
  | .object _ members => members.keys.Nodup ∧ members.KeysDistinct
  | _ => True

/-- No object of the items repeats a key. -/
def Items.KeysDistinct : Items → Prop
  | .item node rest => node.KeysDistinct ∧ rest.KeysDistinct
  | _ => True

/-- No object among the values of the members repeats a key. -/
def Members.KeysDistinct : Members → Prop
  | .member _ _ node rest => node.KeysDistinct ∧ rest.KeysDistinct
  | _ => True

end

/-- No object of a text repeats a key. -/
structure Source.KeysDistinct (source : Source) : Prop where
  root : source.root.KeysDistinct

mutual

/-- Whether an object of a value repeats a key can be checked. -/
def Node.decidableKeysDistinct : (node : Node) → Decidable node.KeysDistinct
  | .array _ items => items.decidableKeysDistinct
  | .object _ members =>
    have := members.decidableKeysDistinct
    inferInstanceAs (Decidable (members.keys.Nodup ∧ members.KeysDistinct))
  | .null _ _ | .bool _ _ _ | .number _ _ _ | .string _ _ | .broken _ _ => .isTrue trivial

/-- Whether an object of the items repeats a key can be checked. -/
def Items.decidableKeysDistinct : (items : Items) → Decidable items.KeysDistinct
  | .item node rest =>
    have := node.decidableKeysDistinct
    have := rest.decidableKeysDistinct
    inferInstanceAs (Decidable (node.KeysDistinct ∧ rest.KeysDistinct))
  | .close _ | .stuck _ => .isTrue trivial

/-- Whether an object among the values of the members repeats a key can be checked. -/
def Members.decidableKeysDistinct : (members : Members) → Decidable members.KeysDistinct
  | .member _ _ node rest =>
    have := node.decidableKeysDistinct
    have := rest.decidableKeysDistinct
    inferInstanceAs (Decidable (node.KeysDistinct ∧ rest.KeysDistinct))
  | .close _ | .stuck _ => .isTrue trivial

end

instance (source : Source) : Decidable source.KeysDistinct :=
  have := source.root.decidableKeysDistinct
  decidable_of_iff source.root.KeysDistinct ⟨.mk, Source.KeysDistinct.root⟩

/-! ### What has a value -/

variable {depth start : Nat} {v : Json}

theorem Node.eq_of_value?_number {stop : Nat} {n : Except Flaw Number}
    (h : (Node.number start stop n).value? depth = .ok v) : ∃ m, n = .ok m ∧ v = .number m := by
  cases n with
  | error flaw => cases h
  | ok m =>
    cases h
    exact ⟨m, rfl, rfl⟩

theorem Node.eq_of_value?_string {w : Written} (h : (Node.string start w).value? depth = .ok v) :
    ∃ s, w.content = .ok s ∧ v = .string s := by
  cases hcontent : w.content with
  | error flaw => simp [Node.value?, hcontent, Except.map] at h
  | ok s =>
    rw [Node.value?, hcontent] at h
    cases h
    exact ⟨s, rfl, rfl⟩

theorem Node.eq_of_value?_array {items : Items} (h : (Node.array start items).value? depth = .ok v) :
    ∃ inner vs, depth = inner + 1 ∧ items.values? inner = .ok vs ∧ v = .array vs := by
  cases depth with
  | zero => cases h
  | succ inner =>
    cases hitems : items.values? inner with
    | error flaw => simp [Node.value?, hitems, Except.map] at h
    | ok vs =>
      rw [Node.value?, hitems] at h
      cases h
      exact ⟨inner, vs, rfl, hitems, rfl⟩

theorem Node.eq_of_value?_object {members : Members}
    (h : (Node.object start members).value? depth = .ok v) :
    ∃ inner ms, depth = inner + 1 ∧ members.values? inner = .ok ms ∧ v = .ofMembers ms := by
  cases depth with
  | zero => cases h
  | succ inner =>
    cases hmembers : members.values? inner with
    | error flaw => simp [Node.value?, hmembers, Except.map] at h
    | ok ms =>
      rw [Node.value?, hmembers] at h
      cases h
      exact ⟨inner, ms, rfl, hmembers, rfl⟩

theorem Items.values?_item_eq_ok_iff {node : Node} {rest : Items} {vs : List Json} :
    (Items.item node rest).values? depth = .ok vs ↔
      ∃ v more, node.value? depth = .ok v ∧ rest.values? depth = .ok more ∧ vs = v :: more := by
  simp only [Items.values?, bind_eq_ok_iff, pure, Except.pure, Except.ok.injEq, eq_comm (b := vs)]
  constructor
  · rintro ⟨v, hv, more, hmore, h⟩
    exact ⟨v, more, hv, hmore, h⟩
  · rintro ⟨v, more, hv, hmore, h⟩
    exact ⟨v, hv, more, hmore, h⟩

theorem Members.values?_member_eq_ok_iff {key : Written} {resume : Nat} {node : Node}
    {rest : Members} {ms : List (String × Json)} :
    (Members.member key resume node rest).values? depth = .ok ms ↔
      ∃ k v more, key.content = .ok k ∧ node.value? depth = .ok v ∧
        rest.values? depth = .ok more ∧ ms = (k, v) :: more := by
  simp only [Members.values?, bind_eq_ok_iff, pure, Except.pure, Except.ok.injEq, eq_comm (b := ms)]
  constructor
  · rintro ⟨k, hk, v, hv, more, hmore, h⟩
    exact ⟨k, v, more, hk, hv, hmore, h⟩
  · rintro ⟨k, v, more, hk, hv, hmore, h⟩
    exact ⟨k, hk, v, hv, more, hmore, h⟩

/-- The keys of an object whose members have values are those of the values. -/
theorem Members.keys_eq {members : Members} {ms : List (String × Json)}
    (h : members.values? depth = .ok ms) : members.keys = ms.map Prod.fst := by
  induction ms generalizing members with
  | nil =>
    cases members with
    | close stop => rfl
    | stuck flaw => cases h
    | member key resume node rest =>
      obtain ⟨_, _, _, -, -, -, hms⟩ := Members.values?_member_eq_ok_iff.mp h
      cases hms
  | cons m ms ih =>
    cases members with
    | close stop => cases h
    | stuck flaw => cases h
    | member key resume node rest =>
      obtain ⟨k, v, more, hk, -, hmore, hms⟩ := Members.values?_member_eq_ok_iff.mp h
      cases hms
      rw [Members.keys, hk, List.map_cons, ← ih hmore]

/-! ### Trees without flaws -/

mutual

/-- A node without flaws and repeated keys has a value, with room for `depth` levels of
containers. -/
inductive Node.Means : Node → Nat → Json → Prop
  | null {start stop depth : Nat} : Node.Means (.null start stop) depth .null
  | bool {start stop depth : Nat} {b : Bool} : Node.Means (.bool start stop b) depth (.bool b)
  | number {start stop depth : Nat} {n : Number} :
    Node.Means (.number start stop (.ok n)) depth (.number n)
  | string {start stop depth : Nat} {s : String} :
    Node.Means (.string start ⟨.ok s, .ok stop⟩) depth (.string s)
  | array {start depth : Nat} {items : Items} {vs : List Json} (hitems : items.Mean depth vs) :
    Node.Means (.array start items) (depth + 1) (.array vs)
  | object {start depth : Nat} {members : Members} {ms : List (String × Json)}
    (hmembers : members.Mean depth ms) (hkeys : (ms.map Prod.fst).Nodup) :
    Node.Means (.object start members) (depth + 1) (.ofMembers ms)

/-- The items of an array have values. -/
inductive Items.Mean : Items → Nat → List Json → Prop
  | close {stop depth : Nat} : Items.Mean (.close stop) depth []
  | item {node : Node} {rest : Items} {depth : Nat} {v : Json} {vs : List Json}
    (hnode : node.Means depth v) (hrest : rest.Mean depth vs) :
    Items.Mean (.item node rest) depth (v :: vs)

/-- The members of an object have values, in the order of the text. -/
inductive Members.Mean : Members → Nat → List (String × Json) → Prop
  | close {stop depth : Nat} : Members.Mean (.close stop) depth []
  | member {k : String} {stop resume depth : Nat} {node : Node} {rest : Members} {v : Json}
    {ms : List (String × Json)} (hnode : node.Means depth v) (hrest : rest.Mean depth ms) :
    Members.Mean (.member ⟨.ok k, .ok stop⟩ resume node rest) depth ((k, v) :: ms)

end

mutual

/-- Without flaws and repeated keys, a node that has a value means it. -/
theorem Node.means_of_value? {depth : Nat} {v : Json} (node : Node)
    (h : node.value? depth = .ok v) (hclean : node.skipFlaw? = none) (hkeys : node.KeysDistinct) :
    node.Means depth v := by
  cases node with
  | null start stop =>
    cases h
    exact .null
  | bool start stop b =>
    cases h
    exact .bool
  | number start stop n =>
    obtain ⟨m, rfl, rfl⟩ := Node.eq_of_value?_number h
    exact .number
  | string start w =>
    obtain ⟨s, hs, rfl⟩ := Node.eq_of_value?_string h
    obtain ⟨_, close⟩ := w
    cases hs
    -- a string without an end has a flaw when it is skipped over
    cases close with
    | error flaw => cases hclean
    | ok stop => exact .string
  | array start items =>
    obtain ⟨inner, vs, rfl, hitems, rfl⟩ := Node.eq_of_value?_array h
    exact .array (Items.mean_of_values? items hitems hclean hkeys)
  | object start members =>
    obtain ⟨inner, ms, rfl, hmembers, rfl⟩ := Node.eq_of_value?_object h
    refine .object (Members.mean_of_values? members hmembers hclean hkeys.2) ?_
    rw [← Members.keys_eq hmembers]
    exact hkeys.1
  | broken start flaw => cases h

theorem Items.mean_of_values? {depth : Nat} {vs : List Json} (items : Items)
    (h : items.values? depth = .ok vs) (hclean : items.skipFlaw? = none)
    (hkeys : items.KeysDistinct) : items.Mean depth vs := by
  cases items with
  | close stop =>
    cases h
    exact .close
  | stuck flaw => cases h
  | item node rest =>
    obtain ⟨v, more, hv, hmore, rfl⟩ := Items.values?_item_eq_ok_iff.mp h
    obtain ⟨hnode, hrest⟩ := Option.or_eq_none_iff.mp hclean
    exact .item (Node.means_of_value? node hv hnode hkeys.1)
      (Items.mean_of_values? rest hmore hrest hkeys.2)

theorem Members.mean_of_values? {depth : Nat} {ms : List (String × Json)} (members : Members)
    (h : members.values? depth = .ok ms) (hclean : members.skipFlaw? = none)
    (hkeys : members.KeysDistinct) : members.Mean depth ms := by
  cases members with
  | close stop =>
    cases h
    exact .close
  | stuck flaw => cases h
  | member key resume node rest =>
    obtain ⟨k, v, more, hk, hv, hmore, rfl⟩ := Members.values?_member_eq_ok_iff.mp h
    obtain ⟨_, close⟩ := key
    cases hk
    cases close with
    | error flaw => cases hclean
    | ok stop =>
      obtain ⟨hnode, hrest⟩ := Option.or_eq_none_iff.mp hclean
      exact .member (Node.means_of_value? node hv hnode hkeys.1)
        (Members.mean_of_values? rest hmore hrest hkeys.2)

end

mutual

/-- What a node means is its value. -/
theorem Node.Means.value?_eq {node : Node} {depth : Nat} {v : Json} (h : node.Means depth v) :
    node.value? depth = .ok v := by
  cases h with
  | array hitems => rw [Node.value?, hitems.values?_eq]; rfl
  | object hmembers hkeys => rw [Node.value?, hmembers.values?_eq]; rfl
  | _ => rfl

theorem Items.Mean.values?_eq {items : Items} {depth : Nat} {vs : List Json}
    (h : items.Mean depth vs) : items.values? depth = .ok vs := by
  cases h with
  | close => rfl
  | item hnode hrest =>
    exact Items.values?_item_eq_ok_iff.mpr ⟨_, _, hnode.value?_eq, hrest.values?_eq, rfl⟩

theorem Members.Mean.values?_eq {members : Members} {depth : Nat} {ms : List (String × Json)}
    (h : members.Mean depth ms) : members.values? depth = .ok ms := by
  cases h with
  | close => rfl
  | member hnode hrest =>
    exact Members.values?_member_eq_ok_iff.mpr
      ⟨_, _, _, rfl, hnode.value?_eq, hrest.values?_eq, rfl⟩

end

mutual

/-- What means a value can be skipped over. -/
theorem Node.Means.skipFlaw?_eq {node : Node} {depth : Nat} {v : Json} (h : node.Means depth v) :
    node.skipFlaw? = none := by
  cases h with
  | array hitems => exact hitems.skipFlaw?_eq
  | object hmembers hkeys => exact hmembers.skipFlaw?_eq
  | _ => rfl

theorem Items.Mean.skipFlaw?_eq {items : Items} {depth : Nat} {vs : List Json}
    (h : items.Mean depth vs) : items.skipFlaw? = none := by
  cases h with
  | close => rfl
  | item hnode hrest => rw [Items.skipFlaw?, hnode.skipFlaw?_eq, hrest.skipFlaw?_eq, Option.or_none]

theorem Members.Mean.skipFlaw?_eq {members : Members} {depth : Nat} {ms : List (String × Json)}
    (h : members.Mean depth ms) : members.skipFlaw? = none := by
  cases h with
  | close => rfl
  | member hnode hrest =>
    rw [Members.skipFlaw?]
    dsimp only
    rw [hnode.skipFlaw?_eq, hrest.skipFlaw?_eq, Option.or_none]

end

/-! ### Skipping -/

/-- A value that is skipped over has no flaw if it has a value. -/
def Node.Skips (node : Node) : Prop :=
  ∀ depth v, node.value? depth = .ok v → node.skipFlaw? = none

/-- The rest of an array has no flaw when it is skipped over, if it has values. -/
def Items.Skip (items : Items) : Prop :=
  ∀ depth vs, items.values? depth = .ok vs → items.skipFlaw? = none

/-- The rest of an object has no flaw when it is skipped over, if it has values. -/
def Members.Skip (members : Members) : Prop :=
  ∀ depth ms, members.values? depth = .ok ms → members.skipFlaw? = none

theorem Node.skips_broken (start : Nat) (flaw : Flaw) : (Node.broken start flaw).Skips := by
  intro depth v h
  cases h

theorem Items.skip_stuck (flaw : Flaw) : (Items.stuck flaw).Skip := by
  intro depth vs h
  cases h

theorem Members.skip_stuck (flaw : Flaw) : (Members.stuck flaw).Skip := by
  intro depth ms h
  cases h

theorem Items.skip_close (stop : Nat) : (Items.close stop).Skip := fun _ _ _ => rfl

theorem Members.skip_close (stop : Nat) : (Members.close stop).Skip := fun _ _ _ => rfl

theorem Node.skips_array {items : Items} (h : items.Skip) :
    (Node.array start items).Skips := by
  intro depth v hv
  obtain ⟨inner, vs, -, hitems, -⟩ := Node.eq_of_value?_array hv
  exact h inner vs hitems

theorem Node.skips_object {members : Members} (h : members.Skip) :
    (Node.object start members).Skips := by
  intro depth v hv
  obtain ⟨inner, ms, -, hmembers, -⟩ := Node.eq_of_value?_object hv
  exact h inner ms hmembers

theorem Items.skip_item {node : Node} {rest : Items} (hnode : node.Skips) (hrest : rest.Skip) :
    (Items.item node rest).Skip := by
  intro depth vs h
  obtain ⟨v, more, hv, hmore, -⟩ := Items.values?_item_eq_ok_iff.mp h
  rw [Items.skipFlaw?, hnode depth v hv, hrest depth more hmore, Option.or_none]

/-- A string that says something has an end. -/
def Written.Ends (w : Written) : Prop := ∀ s, w.content = .ok s → ∃ stop, w.close = .ok stop

theorem Node.skips_string {w : Written} (h : w.Ends) :
    (Node.string start w).Skips := by
  intro depth v hv
  obtain ⟨s, hcontent, -⟩ := Node.eq_of_value?_string hv
  obtain ⟨stop, hclose⟩ := h s hcontent
  rw [Node.skipFlaw?, hclose]

theorem Members.skip_member {key : Written} {resume : Nat} {node : Node} {rest : Members}
    (hkey : key.Ends) (hnode : node.Skips) (hrest : rest.Skip) :
    (Members.member key resume node rest).Skip := by
  intro depth ms h
  obtain ⟨k, v, more, hk, hv, hmore, -⟩ := Members.values?_member_eq_ok_iff.mp h
  obtain ⟨stop, hclose⟩ := hkey k hk
  rw [Members.skipFlaw?, hclose]
  rw [hnode depth v hv, hrest depth more hmore, Option.or_none]

/-! ### Trees that are read -/

/-- Pieces make up a content only if the string has an end. -/
theorem exists_ending_of_contentChars {ending : Ending} {ps : List Piece} {cs : List Char}
    (h : contentChars ending ps = .ok cs) : ∃ c, ending = .ok c := by
  have hmap : ∀ {ps : List Piece} {f : List Char → List Char} {cs : List Char},
      (contentChars ending ps).map f = .ok cs → ∃ inner, contentChars ending ps = .ok inner := by
    intro ps f cs h
    cases hinner : contentChars ending ps with
    | error flaw => simp [hinner, Except.map] at h
    | ok inner => exact ⟨inner, rfl⟩
  fun_induction contentChars ending ps generalizing cs with
  | case1 c hending => exact ⟨c, hending⟩
  | case2 => cases h
  | case3 c ps ih => exact (hmap h).elim fun _ => ih
  | case4 c ps ih => exact (hmap h).elim fun _ => ih
  | case5 => cases h
  | case6 => cases h
  | case7 => cases h
  | case8 => cases h
  | case9 _ _ _ _ _ _ _ _ ih => exact (hmap h).elim fun _ => ih
  | case10 => cases h
  | case11 _ _ _ _ _ ih => exact (hmap h).elim fun _ => ih

theorem readString_ends (c : Cursor) : (readString c).1.Ends := by
  intro s h
  unfold readString at h ⊢
  dsimp only at h ⊢
  cases hcontent : contentChars (pieces c.rest c.offset).2 (pieces c.rest c.offset).1 with
  | error flaw => simp [hcontent, Except.map] at h
  | ok cs =>
    obtain ⟨behind, hending⟩ := exists_ending_of_contentChars hcontent
    exact ⟨behind.offset, by rw [hending]; rfl⟩

theorem readWord_skips {node : Nat → Node} (h : ∀ stop, (node stop).Skips)
    (word : List Char) (c : Cursor) : (readWord start node word c).1.Skips := by
  induction word generalizing c with
  | nil => exact h c.offset
  | cons w word ih =>
    unfold readWord
    split
    · exact Node.skips_broken _ _
    · split
      · exact ih _
      · exact Node.skips_broken _ _

theorem numberNode_skips (c : Cursor) : (numberNode c).1.Skips := by
  unfold numberNode
  split
  · intro depth v h
    rfl
  · exact Node.skips_broken _ _

mutual

theorem readNode_skips (fuel : Nat) (c : Cursor) : (readNode fuel c).1.Skips := by
  cases fuel with
  | zero => exact Node.skips_broken _ _
  | succ fuel =>
    unfold readNode
    dsimp only
    split
    · exact Node.skips_broken _ _
    · exact readWord_skips (fun _ _ _ _ => rfl) _ _
    · exact readWord_skips (fun _ _ _ _ => rfl) _ _
    · exact readWord_skips (fun _ _ _ _ => rfl) _ _
    · exact Node.skips_string (readString_ends _)
    · exact Node.skips_array (readItems_skip fuel _)
    · exact Node.skips_object (readMembers_skip fuel _)
    · split
      · exact numberNode_skips _
      · exact Node.skips_broken _ _

theorem readItems_skip (fuel : Nat) (c : Cursor) : (readItems fuel c).1.Skip := by
  cases fuel with
  | zero => exact Items.skip_stuck _
  | succ fuel =>
    have hnode := readNode_skips fuel c.skipSpace
    unfold readItems
    dsimp only
    split
    · exact Items.skip_stuck _
    · exact Items.skip_close _
    · split
      · rename_i hread
        rw [hread] at hnode
        exact Items.skip_item hnode (Items.skip_stuck _)
      · rename_i hread
        rw [hread] at hnode
        exact Items.skip_item hnode (readMoreItems_skip fuel _)

theorem readMoreItems_skip (fuel : Nat) (c : Cursor) : (readMoreItems fuel c).1.Skip := by
  cases fuel with
  | zero => exact Items.skip_stuck _
  | succ fuel =>
    have hnode := readNode_skips fuel (c.skipSpace.skip 1).skipSpace
    unfold readMoreItems
    dsimp only
    split
    · exact Items.skip_close _
    · split
      · exact Items.skip_stuck _
      · exact Items.skip_stuck _
      · split
        · rename_i hread
          rw [hread] at hnode
          exact Items.skip_item hnode (Items.skip_stuck _)
        · rename_i hread
          rw [hread] at hnode
          exact Items.skip_item hnode (readMoreItems_skip fuel _)
    · exact Items.skip_stuck _

theorem readMembers_skip (fuel : Nat) (c : Cursor) : (readMembers fuel c).1.Skip := by
  cases fuel with
  | zero => exact Members.skip_stuck _
  | succ fuel =>
    unfold readMembers
    dsimp only
    split
    · exact Members.skip_close _
    · exact readMember_skip fuel _
    · exact Members.skip_stuck _

theorem readMoreMembers_skip (fuel : Nat) (c : Cursor) : (readMoreMembers fuel c).1.Skip := by
  cases fuel with
  | zero => exact Members.skip_stuck _
  | succ fuel =>
    unfold readMoreMembers
    dsimp only
    split
    · exact Members.skip_close _
    · split
      · exact readMember_skip fuel _
      · exact Members.skip_stuck _
      · exact Members.skip_stuck _
    · exact Members.skip_stuck _

theorem readMember_skip (fuel : Nat) (c : Cursor) : (readMember fuel c).1.Skip := by
  cases fuel with
  | zero => exact Members.skip_stuck _
  | succ fuel =>
    have hkey := readString_ends c
    unfold readMember
    split
    · rename_i hread
      rw [hread] at hkey
      exact Members.skip_member hkey (Node.skips_broken _ _) (Members.skip_stuck _)
    · rename_i behind hread
      rw [hread] at hkey
      have hnode := readNode_skips fuel (behind.skipSpace.skip 1)
      dsimp only
      split
      · split
        · rename_i hvalue
          rw [hvalue] at hnode
          exact Members.skip_member hkey hnode (Members.skip_stuck _)
        · rename_i hvalue
          rw [hvalue] at hnode
          exact Members.skip_member hkey hnode (readMoreMembers_skip fuel _)
      · exact Members.skip_member hkey (Node.skips_broken _ _) (Members.skip_stuck _)

end

theorem root_skips (text : String) : (Source.ofText text).root.Skips := by
  have h := readNode_skips (2 * text.toList.length + 2) ⟨text.toList, 0⟩
  unfold Source.ofText
  dsimp only
  split
  · rename_i hread
    rw [hread] at h
    exact h
  · rename_i hread
    rw [hread] at h
    exact h

/-- A text has a value if its tree has one and nothing follows it. -/
theorem Source.value?_eq_ok_iff {source : Source} {v : Json} :
    source.value? = .ok v ↔ source.root.value? maxDepth = .ok v ∧ source.trailing = none := by
  rw [Source.value?, bind_eq_ok_iff]
  cases source.trailing with
  | none => simp
  | some flaw => simp

/-- The tree of a text that has a value means it, unless an object repeats a key. -/
theorem root_means {text : String} {v : Json} (h : parse text = .ok v)
    (hkeys : (Source.ofText text).KeysDistinct) : (Source.ofText text).root.Means maxDepth v := by
  obtain ⟨hvalue, -⟩ := Source.value?_eq_ok_iff.mp h
  exact Node.means_of_value? _ hvalue (root_skips text _ _ hvalue) hkeys.root

end Rollout.Json
