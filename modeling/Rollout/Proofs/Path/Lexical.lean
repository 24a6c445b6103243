import Rollout.Proofs.Path

/-!
# Resolving is reading components

A path is resolved against a directory by reading the components of the directory and then those of
the path onto a stack; a path that starts at the root leaves the directory out. The stack, from its
bottom up, is what the result consists of. So the result is known from the rules for single
components alone, it stays where it is when it is resolved again, and resolving twice is resolving
once, against the first path with the second one behind it.

## Main definitions

* `Path.components` — what stands between the slashes of a path, where something does
* `Path.Reads` — the rules for single components
* `Path.IsReading` — a path consists of what is on the stack after reading

## Main results

* `Path.reads_iff` — the rules leave no choice
* `Path.resolve_resolve` — resolving twice
* `Path.resolve_exact` — the path that resolving gives, and how it is resolved again
-/

namespace Rollout.Path

/-- The components of a path that are not empty. -/
def components (p : String) : List (List Char) := (segments p).filter (· ≠ [])

/-- The components that are read to resolve a path: those of the directory and then those of the
path, which alone count if the path starts at the root. -/
def segmentsFrom (dir raw : String) : List (List Char) :=
  (if isAbsolute raw then [] else segments dir) ++ segments raw

/-- Reading components, one after the other, turns one stack into another; the top of a stack comes
first. An empty component and `.` do nothing, `..` takes the topmost name away, if there is one, and
any other component is a name, which goes onto the stack. -/
inductive Reads : List (List Char) → List (List Char) → List (List Char) → Prop
  | done {stack} : Reads stack [] stack
  | stay {stack segment rest result} (blank : segment = [] ∨ segment = ['.'])
    (reads : Reads stack rest result) : Reads stack (segment :: rest) result
  | up {top stack rest result} (reads : Reads stack rest result) :
    Reads (top :: stack) (['.', '.'] :: rest) result
  | upFromRoot {rest result} (reads : Reads [] rest result) :
    Reads [] (['.', '.'] :: rest) result
  | name {stack segment rest result} (isName : IsName segment)
    (reads : Reads (segment :: stack) rest result) : Reads stack (segment :: rest) result

/-- A path starts at the root and consists of what is on the stack after reading the components of a
directory and those of a path seen from there. -/
structure IsReading (dir raw p : String) : Prop where
  absolute : isAbsolute p = true
  isName : ∀ s ∈ components p, IsName s
  written : p.toList = '/' :: ['/'].intercalate (components p)
  noSlashBehind : p ≠ "/" → p.toList.getLast? ≠ some '/'
  reads : Reads [] (segmentsFrom dir raw) (components p).reverse

variable {p q dir raw : String} {stack names result : List (List Char)}

/-! ### The rules -/

/-- Reading a component without slashes is a step of the walk. -/
theorem reads_cons_iff {segment : List Char} {rest : List (List Char)} (h : '/' ∉ segment) :
    Reads stack (segment :: rest) result ↔ Reads (step stack segment) rest result := by
  unfold step
  split
  case isTrue blank =>
    constructor
    · intro reads
      cases reads with
      | stay _ reads => exact reads
      | up | upFromRoot => simp at blank
      | name isName _ => exact absurd blank (not_or.mpr ⟨isName.ne_nil, isName.ne_dot⟩)
    · exact .stay blank
  case isFalse shown =>
    split
    case isTrue up =>
      subst up
      constructor
      · intro reads
        cases reads with
        | stay blank _ => exact absurd blank shown
        | up reads => exact reads
        | upFromRoot reads => exact reads
        | name isName _ => exact absurd rfl isName.ne_up
      · intro reads
        cases stack with
        | nil => exact .upFromRoot reads
        | cons top stack => exact .up reads
    case isFalse notUp =>
      constructor
      · intro reads
        cases reads with
        | stay blank _ => exact absurd blank shown
        | up | upFromRoot => exact absurd rfl notUp
        | name _ reads => exact reads
      · exact .name ⟨(not_or.mp shown).1, (not_or.mp shown).2, notUp, h⟩

/-- The rules for single components leave no choice: what is read is what is walked. -/
theorem reads_iff {segments : List (List Char)} (h : ∀ s ∈ segments, '/' ∉ s) :
    Reads stack segments result ↔ result = walk stack segments := by
  induction segments generalizing stack with
  | nil =>
    constructor
    · rintro ⟨⟩
      rfl
    · rintro rfl
      exact .done
  | cons segment rest ih =>
    obtain ⟨hsegment, hrest⟩ := List.forall_mem_cons.mp h
    rw [reads_cons_iff hsegment, ih hrest]
    rfl

/-! ### Names written down -/

theorem components_render (h : ∀ name ∈ names, IsName name) :
    components (render true names) = names := by
  have filled : names.filter (fun s => decide (s ≠ [])) = names :=
    List.filter_eq_self.mpr fun name hname => by simpa using (h name hname).ne_nil
  rw [components, segments_render fun name hname => (h name hname).no_slash]
  split
  · rename_i hnil
    rw [hnil]
    rfl
  · simpa using filled

/-- Names that are written down do not end in a slash. -/
theorem getLast?_render_ne (h : ∀ name ∈ names, IsName name) (hne : names ≠ []) :
    (render true names).toList.getLast? ≠ some '/' := by
  intro hslash
  obtain ⟨front, hfront⟩ := List.getLast?_eq_some_iff.mp hslash
  have hsegments : [] :: names = front.splitOn '/' ++ [[]] := by
    calc
      [] :: names = segments (render true names) := by
        rw [segments_render fun name hname => (h name hname).no_slash, if_neg hne]
      _ = front.splitOn '/' ++ [[]] := by
        rw [segments, hfront, List.splitOn_append_cons_self, List.splitOn_nil]
  -- then the last name would be the empty component behind the slash
  have hlast : names.getLast? = some [] := by
    have := congrArg List.getLast? hsegments
    rwa [List.getLast?_concat, List.getLast?_cons_of_ne_nil hne] at this
  exact (h [] (List.mem_of_getLast? hlast)).ne_nil rfl

/-! ### Resolving -/

theorem no_slash_of_mem_segmentsFrom : ∀ s ∈ segmentsFrom dir raw, '/' ∉ s := by
  intro s hs
  rcases List.mem_append.mp hs with hs | hs
  · split at hs
    · cases hs
    · exact no_slash_of_mem_segments s hs
  · exact no_slash_of_mem_segments s hs

theorem walk_segmentsFrom (h : isAbsolute dir = true) (raw : String) :
    walk [] (segmentsFrom dir raw) = walk [] (segments (join dir raw)) := by
  unfold segmentsFrom
  cases hraw : isAbsolute raw with
  | true => rw [join, if_pos hraw, if_pos rfl, List.nil_append]
  | false => rw [walk_segments_join h hraw, if_neg (by decide), walk_append]

/-- Resolving gives a path that consists of what is on the stack after reading. -/
theorem isReading_resolve (h : isAbsolute dir = true) (raw : String) :
    IsReading dir raw (resolve dir raw) := by
  have habs := isAbsolute_join h raw
  have hnames := isName_of_mem_walk_segments (p := join dir raw)
  have hresolve := normalize_eq_render habs
  have hcomponents : components (resolve dir raw) = (walk [] (segments (join dir raw))).reverse := by
    rw [resolve, hresolve, components_render hnames]
  constructor
  · exact (isResolved_resolve h raw).absolute
  · rw [hcomponents]
    exact hnames
  · rw [hcomponents, resolve, hresolve]
    simp [render]
  · intro hne
    rw [resolve, hresolve] at hne ⊢
    refine getLast?_render_ne hnames fun hnil => hne ?_
    rw [hnil]
    rfl
  · rw [hcomponents, List.reverse_reverse, reads_iff no_slash_of_mem_segmentsFrom,
      walk_segmentsFrom h]

/-- Reading leaves no choice for the path. -/
theorem IsReading.unique (h : IsReading dir raw p) (h' : IsReading dir raw q) : p = q := by
  have hstack : (components p).reverse = (components q).reverse := by
    rw [(reads_iff no_slash_of_mem_segmentsFrom).mp h.reads,
      (reads_iff no_slash_of_mem_segmentsFrom).mp h'.reads]
  rw [← String.toList_inj, h.written, h'.written, List.reverse_inj.mp hstack]

/-- Where a path starts is up to its front, if there is one. -/
theorem isAbsolute_append_eq (h : p ≠ "") (q : String) : isAbsolute (p ++ q) = isAbsolute p := by
  obtain ⟨first, rest, hp⟩ : ∃ first rest, p.toList = first :: rest :=
    List.exists_cons_of_ne_nil (by simpa using h)
  simp [isAbsolute, hp]

/-- The components of a path that is put behind another one are read after those of that one. -/
theorem segmentsFrom_append (hne : p ≠ "") (dir q : String) :
    segmentsFrom dir (p ++ "/" ++ q) = segmentsFrom dir p ++ segments q := by
  have hslash : (p ++ "/" ++ q).toList = p.toList ++ '/' :: q.toList := by simp
  have hsegments : segments (p ++ "/" ++ q) = segments p ++ segments q := by
    rw [segments, hslash, List.splitOn_append_cons_self, segments, segments]
  rw [segmentsFrom, segmentsFrom, String.append_assoc, isAbsolute_append_eq hne,
    ← String.append_assoc, hsegments, List.append_assoc]

/-- A path that is resolved, and a relative one that is resolved against what this gives, are
resolved together: the second one is put behind the first. -/
theorem resolve_resolve (h : isAbsolute dir = true) (hne : p ≠ "") (hq : isAbsolute q = false) :
    resolve (resolve dir p) q = resolve dir (p ++ "/" ++ q) := by
  have hwalk : walk [] (segments (join (join dir p) q)) =
      walk [] (segments (join dir (p ++ "/" ++ q))) := by
    rw [walk_segments_join (isAbsolute_join h p) hq, ← walk_segmentsFrom h, ← walk_segmentsFrom h,
      segmentsFrom_append hne, walk_append]
  calc
    resolve (resolve dir p) q = resolve (join dir p) q := resolve_normalize (isAbsolute_join h p) q
    _ = render true (walk [] (segments (join (join dir p) q))).reverse :=
      normalize_eq_render (isAbsolute_join (isAbsolute_join h p) q)
    _ = render true (walk [] (segments (join dir (p ++ "/" ++ q)))).reverse := by rw [hwalk]
    _ = resolve dir (p ++ "/" ++ q) := (normalize_eq_render (isAbsolute_join h _)).symm

/-- Against an absolute directory, resolving gives the one path that consists of what is on the
stack after reading. Resolved again, against whatever directory, that path stays as it is, and a
relative path that is resolved against it could as well have been put behind the first one, if that
had something in it. -/
theorem resolve_exact {base : String} (hbase : isAbsolute base = true) :
    (∀ raw p, resolve base raw = p ↔ IsReading base raw p) ∧
      (∀ raw dir, resolve dir (resolve base raw) = resolve base raw) ∧
      ∀ a b, a ≠ "" → isAbsolute b = false →
        resolve (resolve base a) b = resolve base (a ++ "/" ++ b) := by
  refine ⟨fun raw p => ⟨?_, fun h => (isReading_resolve hbase raw).unique h⟩, ?_, ?_⟩
  · rintro rfl
    exact isReading_resolve hbase raw
  · intro raw dir
    exact (isResolved_resolve hbase raw).resolve_eq dir
  · intro a b hne hb
    exact resolve_resolve hbase hne hb

/-- More steps up than there are directories end at the root, and the path goes on from there. -/
theorem resolve_beyond_root :
    isAbsolute "/srv//deploy/" = true ∧
      IsReading "/srv//deploy/" "./../../../app/." "/app" ∧
      resolve "tmp" "/app" = "/app" ∧
      resolve "/srv//deploy/" ("./../../../app/." ++ "/" ++ "../etc/") = "/etc" := by
  have hbase : isAbsolute "/srv//deploy/" = true := by decide
  obtain ⟨hreading, hagain, htogether⟩ := resolve_exact hbase
  have happ : resolve "/srv//deploy/" "./../../../app/." = "/app" := by rfl
  refine ⟨hbase, (hreading _ _).mp happ, ?_, ?_⟩
  · rw [← happ]
    exact hagain _ _
  · rw [← htogether _ _ (by decide) (by decide), happ]
    rfl

end Rollout.Path
