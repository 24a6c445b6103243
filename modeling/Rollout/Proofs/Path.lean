import Mathlib.Data.List.TakeWhile
import Rollout.Path

/-!
# Resolved paths

Normalising leaves of a path only the names in it: components that are not empty, not `.` and not
`..`. Writing names down and reading them back gives the same names, so a path that has been
normalised is its own normal form. An absolute path keeps no trace of the directory against which
it is resolved, and one that is more than slashes and dots lies in some directory.

## Main definitions

* `Path.IsName` — components that stay when a path is normalised
* `Path.IsResolved` — absolute paths in normal form

## Main results

* `Path.isName_of_mem_walk` — only names stay
* `Path.isResolved_resolve` — what has been resolved against an absolute directory is resolved
* `Path.IsResolved.resolve_eq` — what is resolved stays so, against any directory
* `Path.resolve_normalize` — a directory may be normalised before a path is resolved against it
* `Path.exists_parent?` — which paths have a directory part
* `Path.exists_parent?_join` — the directory part of a file in a directory
-/

namespace Rollout.Path

/-- A component that stays when a path is normalised. -/
structure IsName (segment : List Char) : Prop where
  ne_nil : segment ≠ []
  ne_dot : segment ≠ ['.']
  ne_up : segment ≠ ['.', '.']
  no_slash : '/' ∉ segment

/-- An absolute path without `.`, `..` and empty components. -/
structure IsResolved (p : String) : Prop where
  absolute : isAbsolute p = true
  normal : normalize p = p

variable {p dir : String} {names stack : List (List Char)} {c : Char}

/-! ### Components -/

/-- A slash starts a new component, and any other character makes the first one longer. -/
theorem splitOn_cons_cases (d : Char) (cs : List Char) :
    (d = '/' ∧ (d :: cs).splitOn '/' = [] :: cs.splitOn '/') ∨
      (d ≠ '/' ∧ ∃ head rest, cs.splitOn '/' = head :: rest ∧
        (d :: cs).splitOn '/' = (d :: head) :: rest) := by
  rw [List.splitOn_cons_eq_if_modifyHead]
  by_cases hd : d = '/'
  · exact .inl ⟨hd, if_pos (by simpa using hd)⟩
  · obtain ⟨head, rest, hcs⟩ := List.exists_cons_of_ne_nil (List.splitOn_ne_nil '/' cs)
    rw [if_neg (by simpa using hd), hcs, List.modifyHead_cons]
    exact .inr ⟨hd, head, rest, rfl, rfl⟩

theorem no_slash_of_mem_splitOn (cs : List Char) : ∀ s ∈ cs.splitOn '/', '/' ∉ s := by
  induction cs with
  | nil => simp [List.splitOn_nil]
  | cons d cs ih =>
    intro s hs
    obtain ⟨-, hsplit⟩ | ⟨hd, head, rest, hcs, hsplit⟩ := splitOn_cons_cases d cs
    · rw [hsplit] at hs
      rcases List.mem_cons.mp hs with rfl | hs
      · simp
      · exact ih s hs
    · rw [hsplit] at hs
      rw [hcs] at ih
      rcases List.mem_cons.mp hs with rfl | hs
      · simp [hd.symm, ih head List.mem_cons_self]
      · exact ih s (List.mem_cons_of_mem _ hs)

theorem no_slash_of_mem_segments : ∀ s ∈ segments p, '/' ∉ s :=
  no_slash_of_mem_splitOn p.toList

/-- Each character but the slashes is in some component. -/
theorem exists_mem_splitOn {cs : List Char} (h : c ∈ cs) (hc : c ≠ '/') :
    ∃ s ∈ cs.splitOn '/', c ∈ s := by
  induction cs with
  | nil => cases h
  | cons d cs ih =>
    obtain ⟨hd, hsplit⟩ | ⟨-, head, rest, hcs, hsplit⟩ := splitOn_cons_cases d cs
    · rw [hsplit]
      rcases List.mem_cons.mp h with rfl | h
      · exact absurd hd hc
      · obtain ⟨s, hs, hmem⟩ := ih h
        exact ⟨s, List.mem_cons_of_mem _ hs, hmem⟩
    · rw [hsplit]
      rw [hcs] at ih
      rcases List.mem_cons.mp h with rfl | h
      · exact ⟨c :: head, List.mem_cons_self, List.mem_cons_self⟩
      · obtain ⟨s, hs, hmem⟩ := ih h
        rcases List.mem_cons.mp hs with rfl | hs
        · exact ⟨d :: s, List.mem_cons_self, List.mem_cons_of_mem _ hmem⟩
        · exact ⟨s, List.mem_cons_of_mem _ hs, hmem⟩

/-- A name goes onto the stack. -/
theorem step_of_isName {name : List Char} (h : IsName name) : step stack name = name :: stack := by
  simp [step, h.ne_nil, h.ne_dot, h.ne_up]

/-- Names pile up. -/
theorem walk_of_isName (h : ∀ name ∈ names, IsName name) :
    walk stack names = names.reverse ++ stack := by
  induction names generalizing stack with
  | nil => rfl
  | cons name names ih =>
    have hrest : walk (name :: stack) names = names.reverse ++ name :: stack :=
      ih fun n hn => h n (List.mem_cons_of_mem _ hn)
    calc
      walk stack (name :: names) = walk (step stack name) names := rfl
      _ = walk (name :: stack) names := by rw [step_of_isName (h name List.mem_cons_self)]
      _ = (name :: names).reverse ++ stack := by simp [hrest]

/-- On the stack there are only names. -/
theorem isName_of_mem_walk {segments : List (List Char)} (hstack : ∀ s ∈ stack, IsName s)
    (hsegments : ∀ s ∈ segments, '/' ∉ s) : ∀ s ∈ walk stack segments, IsName s := by
  induction segments generalizing stack with
  | nil => exact hstack
  | cons segment rest ih =>
    have hrest : ∀ s ∈ rest, '/' ∉ s := fun s hs => hsegments s (List.mem_cons_of_mem _ hs)
    refine ih ?_ hrest
    unfold step
    split
    · exact hstack
    · rename_i hstay
      obtain ⟨hnil, hdot⟩ := not_or.mp hstay
      split
      · -- `..` takes from the stack and puts nothing there
        exact fun s hs => hstack s (List.mem_of_mem_tail hs)
      · rename_i hup
        intro s hs
        rcases List.mem_cons.mp hs with rfl | hs
        · exact ⟨hnil, hdot, hup, hsegments s List.mem_cons_self⟩
        · exact hstack s hs

/-! ### Absolute paths -/

theorem isAbsolute_render (names : List (List Char)) : isAbsolute (render true names) = true := by
  simp [isAbsolute, render]

/-- The components of the path with given names are the names, after an empty one for the root. -/
theorem segments_render (h : ∀ name ∈ names, '/' ∉ name) :
    segments (render true names) = [] :: if names = [] then [[]] else names := by
  have hroot : (render true names).toList = '/' :: ['/'].intercalate names := by simp [render]
  rw [segments, hroot, List.splitOn_cons_eq_if_modifyHead, if_pos (by simp)]
  split
  · -- the root has the empty component behind its slash as well
    rename_i hnil
    rw [hnil]
    rfl
  · rename_i hne
    rw [List.splitOn_intercalate '/' h hne]

/-- Components that are written down are read back as they were. -/
theorem walk_segments_render_eq (h : ∀ name ∈ names, '/' ∉ name) :
    walk [] (segments (render true names)) = walk [] names := by
  rw [segments_render h]
  split
  · rename_i hnil
    rw [hnil]
    rfl
  · rfl

/-- Names that are written down are read back onto the stack. -/
theorem walk_segments_render (h : ∀ name ∈ names, IsName name) :
    walk [] (segments (render true names)) = names.reverse := by
  rw [walk_segments_render_eq fun name hname => (h name hname).no_slash, walk_of_isName h,
    List.append_nil]

/-- The path with given names is in normal form. -/
theorem normalize_render (h : ∀ name ∈ names, IsName name) :
    normalize (render true names) = render true names := by
  rw [normalize, walk_segments_render h, isAbsolute_render, List.reverse_reverse]

theorem isName_of_mem_walk_segments : ∀ name ∈ (walk [] (segments p)).reverse, IsName name :=
  fun name hname =>
    isName_of_mem_walk (by simp) no_slash_of_mem_segments name (List.mem_reverse.mp hname)

theorem normalize_eq_render (h : isAbsolute p = true) :
    normalize p = render true (walk [] (segments p)).reverse := by
  rw [normalize, h]

theorem isResolved_normalize (h : isAbsolute p = true) : IsResolved (normalize p) := by
  rw [normalize_eq_render h]
  exact ⟨isAbsolute_render _, normalize_render isName_of_mem_walk_segments⟩

theorem isAbsolute_append (h : isAbsolute dir = true) (p : String) :
    isAbsolute (dir ++ p) = true := by
  simp only [isAbsolute, beq_iff_eq, List.head?_eq_some_iff] at h ⊢
  obtain ⟨rest, hrest⟩ := h
  exact ⟨rest ++ p.toList, by simp [hrest]⟩

theorem isAbsolute_join (h : isAbsolute dir = true) (p : String) :
    isAbsolute (join dir p) = true := by
  unfold join
  split
  · assumption
  · split
    · exact isAbsolute_append h p
    · exact isAbsolute_append (isAbsolute_append h "/") p

theorem mem_join (h : c ∈ p.toList) : c ∈ (join dir p).toList := by
  unfold join
  split
  · assumption
  · split
    · simp [h]
    · simp [h]

/-- What has been resolved against an absolute directory is resolved. -/
theorem isResolved_resolve (h : isAbsolute dir = true) (p : String) :
    IsResolved (resolve dir p) :=
  isResolved_normalize (isAbsolute_join h p)

/-- A resolved path stays as it is, whatever directory it is resolved against. -/
theorem IsResolved.resolve_eq (h : IsResolved p) (dir : String) : resolve dir p = p := by
  rw [resolve, join, if_pos h.absolute, h.normal]

theorem segments_of_isAbsolute (h : isAbsolute p = true) :
    ∃ names, names ≠ [] ∧ segments p = [] :: names := by
  obtain ⟨rest, hrest⟩ : ∃ rest, p.toList = '/' :: rest := by
    simpa [isAbsolute, List.head?_eq_some_iff] using h
  refine ⟨rest.splitOn '/', List.splitOn_ne_nil _ _, ?_⟩
  rw [segments, hrest, List.splitOn_cons_eq_if_modifyHead, if_pos (by simp)]

/-! ### Directory parts -/

theorem trimSegments_eq_nil_iff {segments : List (List Char)} :
    trimSegments segments = [] ↔ ∀ s ∈ segments, s = [] ∨ s = ['.'] := by
  simp [trimSegments, List.dropWhile_eq_nil_iff]

/-- An absolute path that is more than slashes and dots has a directory part, an absolute one. -/
theorem exists_parent? (h : isAbsolute p = true) (hmem : c ∈ p.toList) (hslash : c ≠ '/')
    (hdot : c ≠ '.') : ∃ dir, parent? p = some dir ∧ isAbsolute dir = true := by
  obtain ⟨names, -, hnames⟩ := segments_of_isAbsolute h
  have hstays : trimSegments names ≠ [] := by
    intro htrim
    obtain ⟨s, hs, hc⟩ : ∃ s ∈ segments p, c ∈ s := exists_mem_splitOn hmem hslash
    rw [hnames] at hs
    rcases List.mem_cons.mp hs with rfl | hs
    · cases hc
    · rcases trimSegments_eq_nil_iff.mp htrim s hs with rfl | rfl
      · cases hc
      · exact hdot (List.mem_singleton.mp hc)
  refine ⟨render true (trimSegments (trimSegments names).dropLast), ?_, isAbsolute_render _⟩
  simp [parent?, h, hnames, hstays]

/-! ### Paths seen from directories -/

theorem walk_append (stack front back : List (List Char)) :
    walk stack (front ++ back) = walk (walk stack front) back :=
  List.foldl_append

theorem exists_join_eq_append (dir : String) (hp : isAbsolute p = false) :
    ∃ back, join dir p = dir ++ back := by
  rw [join, if_neg (by simp [hp])]
  split
  · exact ⟨p, rfl⟩
  · exact ⟨"/" ++ p, String.append_assoc ..⟩

theorem ne_empty_of_isAbsolute (h : isAbsolute p = true) : p ≠ "" := by
  rintro rfl
  exact absurd h (by decide)

/-- Only the empty path has nothing but an empty component. -/
theorem segments_ne_of_ne_empty (h : p ≠ "") : segments p ≠ [[]] := by
  intro hempty
  apply h
  rw [← String.toList_inj]
  calc
    p.toList = ['/'].intercalate (segments p) := (List.intercalate_splitOn '/').symm
    _ = "".toList := by rw [hempty]; rfl

/-- Seen from a directory, a relative path has its components after those of the directory, without
the empty one behind a slash at the end of the directory. -/
theorem segments_join (h : dir ≠ "") (hp : isAbsolute p = false) :
    ∃ front, (segments dir = front ∨ segments dir = front ++ [[]]) ∧
      segments (join dir p) = front ++ segments p := by
  rw [join, if_neg (by simp [hp])]
  split
  · -- a directory that ends in a slash has an empty component at its end
    rename_i hslash
    have hne : dir.toList ≠ [] := by simpa using h
    obtain ⟨front, hfront⟩ : ∃ front, dir.toList = front ++ ['/'] := by
      rw [List.getLast?_eq_some_getLast hne, Option.all_some, beq_iff_eq] at hslash
      exact ⟨dir.toList.dropLast, by rw [← hslash, List.dropLast_concat_getLast]⟩
    refine ⟨front.splitOn '/', .inr ?_, ?_⟩
    · rw [segments, hfront, List.splitOn_append_cons_self, List.splitOn_nil]
    · rw [segments, String.toList_append, hfront, List.append_assoc, List.singleton_append,
        List.splitOn_append_cons_self, segments]
  · have hslash : (dir ++ "/" ++ p).toList = dir.toList ++ '/' :: p.toList := by simp
    refine ⟨segments dir, .inl rfl, ?_⟩
    rw [segments, hslash, List.splitOn_append_cons_self, segments, segments]

/-- Seen from an absolute directory, a relative path is walked after the directory. -/
theorem walk_segments_join (h : isAbsolute dir = true) (hp : isAbsolute p = false) :
    walk [] (segments (join dir p)) = walk (walk [] (segments dir)) (segments p) := by
  obtain ⟨front, hdir | hdir, hjoin⟩ := segments_join (ne_empty_of_isAbsolute h) hp
  · rw [hjoin, hdir, walk_append]
  · rw [hjoin, hdir, walk_append, walk_append]
    rfl

theorem walk_segments_normalize (h : isAbsolute dir = true) :
    walk [] (segments (normalize dir)) = walk [] (segments dir) := by
  rw [normalize_eq_render h, walk_segments_render isName_of_mem_walk_segments,
    List.reverse_reverse]

/-- A path is resolved against a directory as against the normal form of the directory. -/
theorem resolve_normalize (h : isAbsolute dir = true) (p : String) :
    resolve (normalize dir) p = resolve dir p := by
  have hnormal : isAbsolute (normalize dir) = true := (isResolved_normalize h).absolute
  cases hp : isAbsolute p with
  | true => simp [resolve, join, hp]
  | false =>
    rw [resolve, resolve, normalize_eq_render (isAbsolute_join hnormal p),
      normalize_eq_render (isAbsolute_join h p), walk_segments_join hnormal hp,
      walk_segments_join h hp, walk_segments_normalize h]

/-! ### Files in directories -/

theorem walk_of_blank {segments : List (List Char)} (h : ∀ s ∈ segments, s = [] ∨ s = ['.']) :
    walk stack segments = stack := by
  induction segments with
  | nil => rfl
  | cons segment rest ih =>
    obtain ⟨hsegment, hrest⟩ := List.forall_mem_cons.mp h
    calc
      walk stack (segment :: rest) = walk (step stack segment) rest := rfl
      _ = walk stack rest := by rw [step, if_pos hsegment]
      _ = stack := ih hrest

/-- What is cut off the end of a path does nothing when it is walked. -/
theorem walk_trimSegments (stack segments : List (List Char)) :
    walk stack (trimSegments segments) = walk stack segments := by
  obtain ⟨blank, hsplit, hblank⟩ : ∃ blank, segments = trimSegments segments ++ blank ∧
      ∀ s ∈ blank, s = [] ∨ s = ['.'] := by
    refine ⟨(segments.reverse.takeWhile fun s => s = [] ∨ s = ['.']).reverse, ?_, ?_⟩
    · rw [trimSegments, ← List.reverse_append, List.takeWhile_append_dropWhile,
        List.reverse_reverse]
    · intro s hs
      simpa using List.mem_takeWhile_imp (List.mem_reverse.mp hs)
  calc
    walk stack (trimSegments segments) =
        walk (walk stack (trimSegments segments)) blank := (walk_of_blank hblank).symm
    _ = walk stack (trimSegments segments ++ blank) := (walk_append ..).symm
    _ = walk stack segments := by rw [← hsplit]

theorem mem_of_mem_trimSegments {segment : List Char} {segments : List (List Char)}
    (h : segment ∈ trimSegments segments) : segment ∈ segments :=
  List.mem_reverse.mp ((List.dropWhile_sublist _).subset (List.mem_reverse.mp h))

theorem trimSegments_concat {name : List Char} (h : IsName name) (segments : List (List Char)) :
    trimSegments (segments ++ [name]) = segments ++ [name] := by
  simp [trimSegments, h.ne_nil, h.ne_dot]

/-- The directory part of a file in an absolute directory is that directory, up to the way it is
written. -/
theorem exists_parent?_join {name : String} (h : isAbsolute dir = true)
    (hname : IsName name.toList) : ∃ d, parent? (join dir name) = some d ∧
      isAbsolute d = true ∧ normalize d = normalize dir := by
  have hrelative : isAbsolute name = false := by
    rw [isAbsolute, beq_eq_false_iff_ne]
    exact fun hslash => hname.no_slash (List.mem_of_mem_head? hslash)
  have hsingle : segments name = [name.toList] := List.splitOn_eq_singleton hname.no_slash
  obtain ⟨front, hdir, hjoin⟩ := segments_join (ne_empty_of_isAbsolute h) hrelative
  rw [hsingle] at hjoin
  -- the first component is the empty one before the slash at the start
  obtain ⟨rest, rfl⟩ : ∃ rest, front = [] :: rest := by
    obtain ⟨names, -, hnames⟩ := segments_of_isAbsolute (isAbsolute_join h name)
    rw [hjoin] at hnames
    cases front with
    | nil => exact absurd (List.cons.inj hnames).1 hname.ne_nil
    | cons first rest =>
      obtain ⟨rfl, -⟩ := List.cons.inj hnames
      exact ⟨rest, rfl⟩
  have hslash : ∀ s ∈ trimSegments rest, '/' ∉ s := by
    intro s hs
    apply no_slash_of_mem_segments (p := join dir name)
    rw [hjoin]
    simp [mem_of_mem_trimSegments hs]
  have hwalk : walk [] (segments dir) = walk [] rest := by
    rcases hdir with hdir | hdir
    · rw [hdir]
      rfl
    · rw [hdir, walk_append]
      rfl
  refine ⟨render true (trimSegments rest), ?_, isAbsolute_render _, ?_⟩
  · simp [parent?, isAbsolute_join h, hjoin, trimSegments_concat hname]
  · rw [normalize_eq_render (isAbsolute_render _), normalize_eq_render h,
      walk_segments_render_eq hslash, walk_trimSegments, hwalk]

theorem IsResolved.ne_empty (h : IsResolved p) : p ≠ "" :=
  ne_empty_of_isAbsolute h.absolute

end Rollout.Path
