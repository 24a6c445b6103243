import Rollout.Proofs.Dict
import Rollout.Proofs.Json.Lexeme

/-!
# Texts read back

The text of a value, one item or member a line, is read as a tree that shows the value, whatever
the offsets in the tree. Its numbers have to be integers of at most 64 bits. Where in addition the
keys of its objects ascend and it is not too deep, the value of the text is the value that was
written.

## Main definitions

* `Json.Integral` — every number of a value is an integer of at most 64 bits
* `Json.depth` — how many containers of a value stand inside each other
* `Json.Node.Shows` — a tree is a value with offsets

## Main results

* `Json.ofText_pretty` — the tree of a text that was written shows what was written
* `Json.Node.Shows.value?_eq` — a tree has the value that it shows
* `Json.parse_pretty` — the value of a text that was written is what was written
-/

namespace Rollout.Json

mutual

/-- Every number of the value is an integer of at most 64 bits. -/
def Integral : Json → Prop
  | .number (.integer n) => minInteger ≤ n ∧ n ≤ maxInteger
  | .number (.float _) => False
  | .array items => IntegralItems items
  | .object members => IntegralMembers members
  | _ => True

/-- The same of the values in a list. -/
def IntegralItems : List Json → Prop
  | [] => True
  | v :: vs => v.Integral ∧ IntegralItems vs

/-- The same of the values of a list of members. -/
def IntegralMembers : List (String × Json) → Prop
  | [] => True
  | (_, v) :: ms => v.Integral ∧ IntegralMembers ms

end

mutual

/-- How many containers of the value stand inside each other. -/
def depth : Json → Nat
  | .array items => depthItems items + 1
  | .object members => depthMembers members + 1
  | _ => 0

/-- The same for the values in a list. -/
def depthItems : List Json → Nat
  | [] => 0
  | v :: vs => max v.depth (depthItems vs)

/-- The same for the values of a list of members. -/
def depthMembers : List (String × Json) → Nat
  | [] => 0
  | (_, v) :: ms => max v.depth (depthMembers ms)

end

mutual

/-- A node shows a value: it is the value, with offsets. -/
inductive Node.Shows : Node → Json → Prop
  | null {start stop : Nat} : Node.Shows (.null start stop) .null
  | bool {start stop : Nat} {b : Bool} : Node.Shows (.bool start stop b) (.bool b)
  | number {start stop : Nat} {n : Number} : Node.Shows (.number start stop (.ok n)) (.number n)
  | string {start : Nat} {w : Written} {s : String} (hs : w.Says s) :
    Node.Shows (.string start w) (.string s)
  | array {start : Nat} {items : Items} {vs : List Json} (hitems : items.Show vs) :
    Node.Shows (.array start items) (.array vs)
  | object {start : Nat} {members : Members} {ms : List (String × Json)}
    (hmembers : members.Show ms) : Node.Shows (.object start members) (.object ms)

/-- The rest of an array shows some values. -/
inductive Items.Show : Items → List Json → Prop
  | close {stop : Nat} : Items.Show (.close stop) []
  | item {node : Node} {rest : Items} {v : Json} {vs : List Json} (hnode : node.Shows v)
    (hrest : rest.Show vs) : Items.Show (.item node rest) (v :: vs)

/-- The rest of an object shows some members. -/
inductive Members.Show : Members → List (String × Json) → Prop
  | close {stop : Nat} : Members.Show (.close stop) []
  | member {w : Written} {resume : Nat} {node : Node} {rest : Members} {k : String} {v : Json}
    {ms : List (String × Json)} (hkey : w.Says k) (hnode : node.Shows v) (hrest : rest.Show ms) :
    Members.Show (.member w resume node rest) ((k, v) :: ms)

end

/-- A reading ends where `rest` starts, with a part of which `p` holds. -/
def Gives {α : Type} (reading : Reading α) (rest : List Char) (p : α → Prop) : Prop :=
  ∃ part j, reading = (part, some ⟨rest, j⟩) ∧ p part

/-! ### Blanks -/

theorem skipSpace_cons {c : Char} (hc : isSpace c = false) (rest : List Char) (i : Nat) :
    Cursor.skipSpace ⟨c :: rest, i⟩ = ⟨c :: rest, i⟩ := by
  simp [Cursor.skipSpace, Cursor.skip, hc]

theorem skipSpace_append {blanks : List Char} (hblank : ∀ c ∈ blanks, isSpace c = true) {c : Char}
    (hc : isSpace c = false) (rest : List Char) (i : Nat) :
    Cursor.skipSpace ⟨blanks ++ c :: rest, i⟩ = ⟨c :: rest, i + blanks.length⟩ := by
  have hall : (blanks ++ c :: rest).takeWhile isSpace = blanks := by
    rw [List.takeWhile_append_of_pos hblank]
    simp [hc]
  simp [Cursor.skipSpace, Cursor.skip, hall]

theorem isSpace_of_mem_newline (level : Nat) : ∀ c ∈ newline level, isSpace c = true := by
  intro c hc
  rcases List.mem_cons.mp hc with rfl | hc
  · rfl
  · rw [List.eq_of_mem_replicate hc]
    rfl

theorem isSpace_of_isDigit {c : Char} (hc : c.isDigit = true) : isSpace c = false := by
  rw [Bool.eq_false_iff]
  intro hspace
  simp only [isSpace, Bool.or_eq_true, beq_iff_eq] at hspace
  rcases hspace with ((rfl | rfl) | rfl) | rfl <;> exact absurd hc (by decide)

/-- A value starts with a character that is neither a blank nor the end of an array. -/
theorem prettyChars_eq_cons (v : Json) (level : Nat) (h : v.Integral) :
    ∃ c cs, v.prettyChars level = c :: cs ∧ isSpace c = false ∧ c ≠ ']' := by
  cases v with
  | null => exact ⟨_, _, rfl, by decide, by decide⟩
  | bool b => cases b <;> exact ⟨_, _, rfl, by decide, by decide⟩
  | number n =>
    cases n with
    | float x => exact h.elim
    | integer n =>
      obtain ⟨c, cs, htext, hc⟩ := text_integer_eq_cons n
      refine ⟨c, cs, htext, ?_⟩
      rcases hc with rfl | hc
      · decide
      · exact ⟨isSpace_of_isDigit hc, by rintro rfl; exact absurd hc (by decide)⟩
  | string s => exact ⟨_, _, rfl, by decide, by decide⟩
  | array items =>
    cases items <;> exact ⟨_, _, rfl, by decide, by decide⟩
  | object members =>
    rcases members with _ | ⟨⟨k, v⟩, ms⟩ <;> exact ⟨_, _, rfl, by decide, by decide⟩

/-! ### Reading what was written -/

theorem readNode_blanks {blanks : List Char} (hblank : ∀ c ∈ blanks, isSpace c = true) {c : Char}
    (hc : isSpace c = false) (fuel : Nat) (rest : List Char) (i : Nat) :
    readNode (fuel + 1) ⟨blanks ++ c :: rest, i⟩ =
      readNode (fuel + 1) ⟨c :: rest, i + blanks.length⟩ := by
  rw [readNode, readNode, skipSpace_append hblank hc, skipSpace_cons hc]

theorem endsNumber_cons {c : Char} (hc : c = ',' ∨ c = '\n') (rest : List Char) :
    EndsNumber (c :: rest) := by
  rintro _ ⟨⟩
  rcases hc with rfl | rfl <;> decide

theorem endsNumber_prettyItems (level : Nat) (vs : List Json) (rest : List Char) :
    EndsNumber (prettyItems (level + 1) vs ++ newline level ++ rest) := by
  cases vs with
  | nil => exact endsNumber_cons (.inr rfl) _
  | cons v vs => exact endsNumber_cons (.inl rfl) _

theorem endsNumber_prettyMembers (level : Nat) (ms : List (String × Json)) (rest : List Char) :
    EndsNumber (prettyMembers (level + 1) ms ++ newline level ++ rest) := by
  cases ms with
  | nil => exact endsNumber_cons (.inr rfl) _
  | cons m ms => exact endsNumber_cons (.inl rfl) _

theorem readNode_number {d : Char} {ds : List Char} (hd : d = '-' ∨ d.isDigit = true)
    (fuel i : Nat) : readNode (fuel + 1) ⟨d :: ds, i⟩ = numberNode ⟨d :: ds, i⟩ := by
  have hspace : isSpace d = false := by
    rcases hd with rfl | hd
    · rfl
    · exact isSpace_of_isDigit hd
  rw [readNode, skipSpace_cons hspace]
  dsimp only
  split
  case h_1 h => cases h
  case h_8 h =>
    cases h
    rw [if_pos hd]
  -- none of the other characters starts a number
  all_goals
    rename_i h
    cases h
    exact absurd hd (by decide)

theorem readNode_scalar {v : Json} (hv : v.Integral) {rest : List Char} (hrest : EndsNumber rest)
    (i fuel : Nat) (hscalar : (∀ vs, v ≠ .array vs) ∧ ∀ ms, v ≠ .object ms) :
    Gives (readNode (fuel + 1) ⟨v.scalarText ++ rest, i⟩) rest (·.Shows v) := by
  cases v with
  | null => exact ⟨_, _, rfl, .null⟩
  | bool b => cases b <;> exact ⟨_, _, rfl, .bool⟩
  | number n =>
    cases n with
    | float x => exact hv.elim
    | integer n =>
      obtain ⟨parts, j, hread, hvalue⟩ := readNumber_integer hv.1 hv.2 hrest i
      obtain ⟨d, ds, htext, hd⟩ := text_integer_eq_cons n
      refine ⟨.number i parts.stop (.ok (.integer n)), j, ?_, .number⟩
      simp only [scalarText, htext, List.cons_append] at hread ⊢
      rw [readNode_number hd, numberNode, hread]
      simp only [hvalue]
  | string s =>
    obtain ⟨w, j, hread, hs⟩ := readString_quote s rest (i + 1)
    refine ⟨.string i w, j, ?_, .string hs⟩
    simp only [scalarText, quote, List.cons_append, List.append_assoc]
    rw [readNode, skipSpace_cons (by decide)]
    simp [Cursor.skip, hread]
  | array vs => exact absurd rfl (hscalar.1 vs)
  | object ms => exact absurd rfl (hscalar.2 ms)

/-! ### Containers

What is read of a container, given what is read of its parts. -/

section Containers

variable {blanks chars between rest : List Char} {c : Char} {v : Json} {vs : List Json} {k : String}
  {ms : List (String × Json)} {fuel : Nat}

theorem readItems_first (hblank : ∀ c ∈ blanks, isSpace c = true) (hc : isSpace c = false)
    (hend : c ≠ ']') (i : Nat)
    (hnode : ∀ i, Gives (readNode fuel ⟨c :: chars, i⟩) between (·.Shows v))
    (hmore : ∀ i, Gives (readMoreItems fuel ⟨between, i⟩) rest (·.Show vs)) :
    Gives (readItems (fuel + 1) ⟨blanks ++ c :: chars, i⟩) rest (·.Show (v :: vs)) := by
  obtain ⟨node, j, hread, hv⟩ := hnode (i + blanks.length)
  obtain ⟨items, stop, hread', hvs⟩ := hmore j
  refine ⟨.item node items, stop, ?_, .item hv hvs⟩
  rw [readItems, skipSpace_append hblank hc]
  simp [hend, hread, hread']

theorem readMoreItems_next (hblank : ∀ c ∈ blanks, isSpace c = true) (hc : isSpace c = false)
    (hend : c ≠ ']') (i : Nat)
    (hnode : ∀ i, Gives (readNode fuel ⟨c :: chars, i⟩) between (·.Shows v))
    (hmore : ∀ i, Gives (readMoreItems fuel ⟨between, i⟩) rest (·.Show vs)) :
    Gives (readMoreItems (fuel + 1) ⟨',' :: (blanks ++ c :: chars), i⟩) rest
      (·.Show (v :: vs)) := by
  obtain ⟨node, j, hread, hv⟩ := hnode (i + 1 + blanks.length)
  obtain ⟨items, stop, hread', hvs⟩ := hmore j
  refine ⟨.item node items, stop, ?_, .item hv hvs⟩
  have hskip : Cursor.skip ⟨',' :: (blanks ++ c :: chars), i⟩ 1 =
    ⟨blanks ++ c :: chars, i + 1⟩ := rfl
  rw [readMoreItems, skipSpace_cons (by decide)]
  simp [hskip, skipSpace_append hblank hc, hend, hread, hread']

/-- Reading a member after the quote that opens its key. -/
theorem readMember_of_value (k : String) (i : Nat)
    (hnode : ∀ i, Gives (readNode fuel ⟨' ' :: chars, i⟩) between (·.Shows v))
    (hmore : ∀ i, Gives (readMoreMembers fuel ⟨between, i⟩) rest (·.Show ms)) :
    Gives (readMember (fuel + 1)
        ⟨k.toList.flatMap escapeChar ++ '"' :: ':' :: ' ' :: chars, i⟩) rest
      (·.Show ((k, v) :: ms)) := by
  obtain ⟨w, behind, hkey, hk⟩ := readString_quote k (':' :: ' ' :: chars) i
  obtain ⟨node, j, hread, hv⟩ := hnode (behind + 1)
  obtain ⟨members, stop, hread', hms⟩ := hmore j
  refine ⟨.member w behind node members, stop, ?_, .member hk hv hms⟩
  have hskip : Cursor.skip ⟨':' :: ' ' :: chars, behind⟩ 1 = ⟨' ' :: chars, behind + 1⟩ := rfl
  rw [readMember, hkey]
  simp [skipSpace_cons (show isSpace ':' = false by decide), hskip, hread, hread']

theorem readMembers_first (hblank : ∀ c ∈ blanks, isSpace c = true) (i : Nat)
    (hmember : ∀ i, Gives (readMember fuel ⟨chars, i⟩) rest (·.Show ms)) :
    Gives (readMembers (fuel + 1) ⟨blanks ++ '"' :: chars, i⟩) rest (·.Show ms) := by
  rw [readMembers, skipSpace_append hblank (by decide)]
  exact hmember (i + blanks.length + 1)

theorem readMoreMembers_next (hblank : ∀ c ∈ blanks, isSpace c = true) (i : Nat)
    (hmember : ∀ i, Gives (readMember fuel ⟨chars, i⟩) rest (·.Show ms)) :
    Gives (readMoreMembers (fuel + 1) ⟨',' :: (blanks ++ '"' :: chars), i⟩) rest (·.Show ms) := by
  have hskip : Cursor.skip ⟨',' :: (blanks ++ '"' :: chars), i⟩ 1 =
    ⟨blanks ++ '"' :: chars, i + 1⟩ := rfl
  rw [readMoreMembers, skipSpace_cons (by decide)]
  simp only [hskip, skipSpace_append hblank (show isSpace '"' = false by decide)]
  exact hmember (i + 1 + blanks.length + 1)

theorem readNode_array (i : Nat)
    (hitems : ∀ i, Gives (readItems fuel ⟨chars, i⟩) rest (·.Show vs)) :
    Gives (readNode (fuel + 1) ⟨'[' :: chars, i⟩) rest (·.Shows (.array vs)) := by
  obtain ⟨items, j, hread, hvs⟩ := hitems (i + 1)
  have hskip : Cursor.skip ⟨'[' :: chars, i⟩ 1 = ⟨chars, i + 1⟩ := rfl
  refine ⟨.array i items, j, ?_, .array hvs⟩
  rw [readNode, skipSpace_cons (by decide)]
  simp [hskip, hread]

theorem readNode_object (i : Nat)
    (hmembers : ∀ i, Gives (readMembers fuel ⟨chars, i⟩) rest (·.Show ms)) :
    Gives (readNode (fuel + 1) ⟨'\x7b' :: chars, i⟩) rest (·.Shows (.object ms)) := by
  obtain ⟨members, j, hread, hms⟩ := hmembers (i + 1)
  have hskip : Cursor.skip ⟨'\x7b' :: chars, i⟩ 1 = ⟨chars, i + 1⟩ := rfl
  refine ⟨.object i members, j, ?_, .object hms⟩
  rw [readNode, skipSpace_cons (by decide)]
  simp [hskip, hread]

end Containers

/-! ### Whole values

The induction is on the fuel, as the readers recurse on it: twice the length of what is left to
read is always enough. -/

mutual

/-- A value that was written is read. -/
theorem readNode_pretty (v : Json) (level : Nat) (hv : v.Integral) {rest : List Char}
    (hrest : EndsNumber rest) (fuel : Nat) (hfuel : 2 * (v.prettyChars level).length ≤ fuel)
    (i : Nat) :
    Gives (readNode fuel ⟨v.prettyChars level ++ rest, i⟩) rest (·.Shows v) := by
  obtain ⟨c, cs, hchars, -⟩ := prettyChars_eq_cons v level hv
  obtain ⟨fuel, rfl⟩ : ∃ n, fuel = n + 1 := ⟨fuel - 1, by simp [hchars] at hfuel; omega⟩
  match v with
  | .array [] =>
    obtain ⟨fuel, rfl⟩ : ∃ n, fuel = n + 1 := ⟨fuel - 1, by simp [prettyChars] at hfuel; omega⟩
    exact readNode_array i fun i => ⟨_, _, rfl, .close⟩
  | .array (v :: vs) =>
    obtain ⟨c, cs, hchars, hspace, hend⟩ := prettyChars_eq_cons v (level + 1) hv.1
    simp only [prettyChars, List.length_append, List.length_cons] at hfuel
    obtain ⟨fuel, rfl⟩ : ∃ n, fuel = n + 1 := ⟨fuel - 1, by omega⟩
    have hnode := readNode_pretty v (level + 1) hv.1
      (endsNumber_prettyItems level vs (']' :: rest)) fuel (by omega)
    have hmore := readMoreItems_pretty vs level hv.2 rest fuel (by omega)
    rw [hchars, List.cons_append] at hnode
    have harray := readNode_array i fun i =>
      readItems_first (isSpace_of_mem_newline (level + 1)) hspace hend i hnode hmore
    simpa [prettyChars, hchars] using harray
  | .object [] =>
    obtain ⟨fuel, rfl⟩ : ∃ n, fuel = n + 1 := ⟨fuel - 1, by simp [prettyChars] at hfuel; omega⟩
    exact readNode_object i fun i => ⟨_, _, rfl, .close⟩
  | .object ((k, v) :: ms) =>
    simp only [prettyChars, quote, List.length_append, List.length_cons] at hfuel
    obtain ⟨fuel, rfl⟩ : ∃ n, fuel = n + 1 := ⟨fuel - 1, by omega⟩
    have hmember := readMember_pretty k v ms level hv.1 hv.2 rest fuel (by omega)
    have hobject := readNode_object i fun i =>
      readMembers_first (isSpace_of_mem_newline (level + 1)) i hmember
    simpa [prettyChars, quote] using hobject
  | .null => exact readNode_scalar hv hrest i fuel (by simp)
  | .bool b => exact readNode_scalar hv hrest i fuel (by simp)
  | .number n => exact readNode_scalar hv hrest i fuel (by simp)
  | .string s => exact readNode_scalar hv hrest i fuel (by simp)
termination_by fuel

theorem readMoreItems_pretty (vs : List Json) (level : Nat) (hvs : IntegralItems vs)
    (rest : List Char) (fuel : Nat) (hfuel : 2 * (prettyItems (level + 1) vs).length < fuel)
    (i : Nat) :
    Gives (readMoreItems fuel ⟨prettyItems (level + 1) vs ++ newline level ++ ']' :: rest, i⟩)
      rest (·.Show vs) := by
  obtain ⟨fuel, rfl⟩ : ∃ n, fuel = n + 1 := ⟨fuel - 1, by omega⟩
  match vs with
  | [] =>
    rw [readMoreItems, prettyItems, List.nil_append,
      skipSpace_append (isSpace_of_mem_newline level) (by decide)]
    exact ⟨_, _, rfl, .close⟩
  | v :: vs =>
    obtain ⟨c, cs, hchars, hspace, hend⟩ := prettyChars_eq_cons v (level + 1) hvs.1
    simp only [prettyItems, List.length_append, List.length_cons] at hfuel
    have hnode := readNode_pretty v (level + 1) hvs.1
      (endsNumber_prettyItems level vs (']' :: rest)) fuel (by omega)
    have hmore := readMoreItems_pretty vs level hvs.2 rest fuel (by omega)
    rw [hchars, List.cons_append] at hnode
    have hitems := readMoreItems_next (isSpace_of_mem_newline (level + 1)) hspace hend i hnode hmore
    simpa [prettyItems, hchars] using hitems
termination_by fuel

theorem readMember_pretty (k : String) (v : Json) (ms : List (String × Json)) (level : Nat)
    (hv : v.Integral) (hms : IntegralMembers ms) (rest : List Char) (fuel : Nat)
    (hfuel : 2 * ((v.prettyChars (level + 1)).length + (prettyMembers (level + 1) ms).length) + 1 <
      fuel) (i : Nat) :
    Gives (readMember fuel ⟨k.toList.flatMap escapeChar ++ '"' :: ':' :: ' ' ::
      (v.prettyChars (level + 1) ++ (prettyMembers (level + 1) ms ++ newline level ++
        '\x7d' :: rest)), i⟩) rest (·.Show ((k, v) :: ms)) := by
  obtain ⟨fuel, rfl⟩ : ∃ n, fuel = n + 2 := ⟨fuel - 2, by omega⟩
  refine readMember_of_value k i (fun i => ?_)
    (readMoreMembers_pretty ms level hms rest (fuel + 1) (by omega))
  obtain ⟨c, cs, hchars, hspace, -⟩ := prettyChars_eq_cons v (level + 1) hv
  have hnode := readNode_pretty v (level + 1) hv
    (endsNumber_prettyMembers level ms ('\x7d' :: rest)) (fuel + 1) (by omega)
  rw [hchars, List.cons_append] at hnode ⊢
  have hblank : ∀ c ∈ [' '], isSpace c = true := by
    intro c hc
    rw [List.mem_singleton.mp hc]
    rfl
  rw [← List.singleton_append, readNode_blanks hblank hspace]
  exact hnode _
termination_by fuel

theorem readMoreMembers_pretty (ms : List (String × Json)) (level : Nat) (hms : IntegralMembers ms)
    (rest : List Char) (fuel : Nat) (hfuel : 2 * (prettyMembers (level + 1) ms).length < fuel)
    (i : Nat) :
    Gives (readMoreMembers fuel
      ⟨prettyMembers (level + 1) ms ++ newline level ++ '\x7d' :: rest, i⟩) rest (·.Show ms) := by
  obtain ⟨fuel, rfl⟩ : ∃ n, fuel = n + 1 := ⟨fuel - 1, by omega⟩
  match ms with
  | [] =>
    rw [readMoreMembers, prettyMembers, List.nil_append,
      skipSpace_append (isSpace_of_mem_newline level) (by decide)]
    exact ⟨_, _, rfl, .close⟩
  | (k, v) :: ms =>
    simp only [prettyMembers, quote, List.length_append, List.length_cons] at hfuel
    have hmember := readMember_pretty k v ms level hms.1 hms.2 rest fuel (by omega)
    have hmembers := readMoreMembers_next (isSpace_of_mem_newline (level + 1)) i hmember
    simpa [prettyMembers, quote] using hmembers
termination_by fuel

end

/-! ### The values of what was read -/

theorem sortedItems_iff {vs : List Json} : SortedItems vs ↔ ∀ v ∈ vs, v.SortedKeys := by
  induction vs with
  | nil => simp [SortedItems]
  | cons v vs ih => simp [SortedItems, ih]

theorem sortedMembers_iff {ms : List (String × Json)} :
    SortedMembers ms ↔ ∀ m ∈ ms, m.2.SortedKeys := by
  induction ms with
  | nil => simp [SortedMembers]
  | cons m ms ih => simp [SortedMembers, ih]

theorem depthItems_le_iff {vs : List Json} {n : Nat} :
    depthItems vs ≤ n ↔ ∀ v ∈ vs, v.depth ≤ n := by
  induction vs with
  | nil => simp [depthItems]
  | cons v vs ih => simp [depthItems, ih]

theorem depthMembers_le_iff {ms : List (String × Json)} {n : Nat} :
    depthMembers ms ≤ n ↔ ∀ m ∈ ms, m.2.depth ≤ n := by
  induction ms with
  | nil => simp [depthMembers]
  | cons m ms ih => simp [depthMembers, ih]

theorem ofMembers_of_pairwise {ms : List (String × Json)}
    (h : ms.Pairwise fun a b => a.1 < b.1) : ofMembers ms = .object ms := by
  rw [ofMembers, Dict.ofList_entries ⟨ms, h⟩, ofDict]

mutual

/-- A node has the value that it shows. -/
theorem Node.Shows.value?_eq {node : Node} {v : Json} {room : Nat} (h : node.Shows v)
    (hsorted : v.SortedKeys) (hdepth : v.depth ≤ room) : node.value? room = .ok v := by
  cases h with
  | null => rfl
  | bool => rfl
  | number => rfl
  | string hs => simp [Node.value?, hs.1, Except.map]
  | array hitems =>
    rw [depth] at hdepth
    obtain ⟨room, rfl⟩ : ∃ n, room = n + 1 := ⟨room - 1, by omega⟩
    rw [Nat.add_le_add_iff_right] at hdepth
    have hvs := hitems.values?_eq hsorted hdepth
    simp [Node.value?, hvs, Except.map]
  | object hmembers =>
    rw [depth] at hdepth
    obtain ⟨room, rfl⟩ : ∃ n, room = n + 1 := ⟨room - 1, by omega⟩
    rw [Nat.add_le_add_iff_right] at hdepth
    have hms := hmembers.values?_eq hsorted.2 hdepth
    simp [Node.value?, hms, Except.map, ofMembers_of_pairwise hsorted.1]

theorem Items.Show.values?_eq {items : Items} {vs : List Json} {room : Nat} (h : items.Show vs)
    (hsorted : SortedItems vs) (hdepth : depthItems vs ≤ room) : items.values? room = .ok vs := by
  cases h with
  | close => rfl
  | item hnode hrest =>
    simp only [depthItems, Nat.max_le] at hdepth
    have hv := hnode.value?_eq hsorted.1 hdepth.1
    have hvs := hrest.values?_eq hsorted.2 hdepth.2
    simp [Items.values?, hv, hvs, bind, Except.bind, pure, Except.pure]

theorem Members.Show.values?_eq {members : Members} {ms : List (String × Json)} {room : Nat}
    (h : members.Show ms) (hsorted : SortedMembers ms) (hdepth : depthMembers ms ≤ room) :
    members.values? room = .ok ms := by
  cases h with
  | close => rfl
  | member hkey hnode hrest =>
    simp only [depthMembers, Nat.max_le] at hdepth
    have hv := hnode.value?_eq hsorted.1 hdepth.1
    have hms := hrest.values?_eq hsorted.2 hdepth.2
    simp [Members.values?, hkey.1, hv, hms, bind, Except.bind, pure, Except.pure]

end

/-- The tree of a written text shows what was written, with nothing behind it. -/
theorem ofText_pretty {v : Json} (hv : v.Integral) :
    ∃ root, Source.ofText (v.pretty ++ "\n") = ⟨root, none⟩ ∧ root.Shows v := by
  have hchars : (v.pretty ++ "\n").toList = v.prettyChars 0 ++ ['\n'] := by
    simp [pretty]
  obtain ⟨root, j, hread, hroot⟩ := readNode_pretty v 0 hv (endsNumber_cons (.inr rfl) [])
    (2 * (v.prettyChars 0 ++ ['\n']).length + 2) (by simp; omega) 0
  refine ⟨root, ?_, hroot⟩
  simp only [Source.ofText, hchars, hread]
  rfl

/-- A value that was written is the value of its text. -/
theorem parse_pretty {v : Json} (hv : v.Integral) (hsorted : v.SortedKeys)
    (hdepth : v.depth ≤ maxDepth) : parse (v.pretty ++ "\n") = .ok v := by
  obtain ⟨root, hread, hroot⟩ := ofText_pretty hv
  simp [parse, hread, Source.value?, hroot.value?_eq hsorted hdepth, bind, Except.bind]

end Rollout.Json
