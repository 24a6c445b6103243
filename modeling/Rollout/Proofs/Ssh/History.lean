import Rollout.Proofs.Text.Lines
import Rollout.Ssh.Answer

/-!
# Histories written down and read back

The command for a history prints what the link to the current release shows, a mark, and the names
of the releases, each on a line of its own. Reading that gives back the names, however they look,
and the last component of the link, unless the mark occurs in the link itself. Then the link ends
there for the reader, and the line of the real mark is taken for a release.

## Main definitions

* `Ssh.IsLine` — texts that are lines, and keep their ends when they are trimmed
* `Ssh.lastComponent?` — the last component of a path that is not empty
* `Ssh.historyOutput` — what the command for a history prints

## Main results

* `Ssh.linkName?_eq` — the name that is read off a link is its last component
* `Ssh.parseHistory_historyOutput_iff` — when a history is read back
-/

namespace Rollout.Ssh

open Text (IsTrimmed ended splitOnce filledLines trim)

/-- A text that is a line: it does not end one, and has no white space at its own ends. -/
structure IsLine (s : String) : Prop where
  trimmed : IsTrimmed s.toList
  single : '\n' ∉ s.toList

instance (s : String) : Decidable (IsLine s) :=
  decidable_of_iff (IsTrimmed s.toList ∧ '\n' ∉ s.toList)
    ⟨fun h => ⟨h.1, h.2⟩, fun h => ⟨h.trimmed, h.single⟩⟩

/-- The last of the components of a path that are not empty. -/
def lastComponent? (path : List Char) : Option String :=
  ((path.splitOn '/').filter fun s => !s.isEmpty).getLast?.map String.ofList

/-- What the command for a history prints for a link, or no link, and the names of releases. -/
def historyOutput (link : String) (names : List String) : String :=
  (if link = "" then "" else link ++ "\n") ++ sectionMark ++ "\n" ++
    String.join (names.map (· ++ "\n"))

variable {link : String} {names : List String}

/-! ### The name of the current release -/

/-- The last part of a text that is split is what stands behind the last separator. -/
theorem splitOn_eq_append_rtakeWhile (c : Char) (cs : List Char) :
    ∃ front, cs.splitOn c = front ++ [cs.rtakeWhile (· != c)] := by
  have hparts : cs.rdropWhile (· != c) ++ cs.rtakeWhile (· != c) = cs :=
    List.rdropWhile_append_rtakeWhile
  have hlast : c ∉ cs.rtakeWhile (· != c) := by
    intro hc
    simpa using List.mem_rtakeWhile_imp hc
  by_cases hfront : cs.rdropWhile (· != c) = []
  · -- without a separator the text is its only part
    rw [hfront, List.nil_append] at hparts
    refine ⟨[], ?_⟩
    rw [List.nil_append, hparts, List.splitOn_eq_singleton]
    rwa [hparts] at hlast
  · have hseparator := List.rdropWhile_last_not _ _ hfront
    rw [bne_iff_ne, ne_eq, not_not] at hseparator
    refine ⟨(cs.rdropWhile (· != c)).dropLast.splitOn c, ?_⟩
    calc
      cs.splitOn c
        = ((cs.rdropWhile (· != c)).dropLast ++ c :: cs.rtakeWhile (· != c)).splitOn c := by
          conv_lhs => rw [← hparts, ← List.dropLast_concat_getLast hfront, hseparator]
          rw [List.append_assoc, List.singleton_append]
      _ = (cs.rdropWhile (· != c)).dropLast.splitOn c ++ [cs.rtakeWhile (· != c)] := by
          rw [List.splitOn_append_cons_self, List.splitOn_eq_singleton hlast]

/-- The name that is read off a link is its last component. -/
theorem linkName?_eq (path : List Char) : linkName? path = lastComponent? path := by
  induction path using List.reverseRecOn with
  | nil => rfl
  | append_singleton front c ih =>
    by_cases hc : c = '/'
    · -- a slash at the end makes a difference to neither
      have hpath : Text.dropWhileEnd (· == '/') (front ++ [c]) =
          Text.dropWhileEnd (· == '/') front := by
        rw [Text.dropWhileEnd_eq_rdropWhile, List.rdropWhile_concat_pos]
        · rfl
        · simpa using hc
      have hname : linkName? (front ++ [c]) = linkName? front := by
        rw [linkName?, hpath, ← linkName?]
      have hcomponent : lastComponent? (front ++ [c]) = lastComponent? front := by
        rw [lastComponent?, hc, List.splitOn_append_cons_self, List.splitOn_nil]
        simp [lastComponent?]
      rw [hname, hcomponent, ih]
    · -- any other character belongs to the last component
      obtain ⟨others, hothers⟩ := splitOn_eq_append_rtakeWhile '/' (front ++ [c])
      have hpath : Text.dropWhileEnd (· == '/') (front ++ [c]) = front ++ [c] := by
        rw [Text.dropWhileEnd_eq_rdropWhile, List.rdropWhile_concat_neg]
        simpa using hc
      have hfilled : (front ++ [c]).rtakeWhile (· != '/') ≠ [] := by
        rw [List.rtakeWhile_concat_pos _ _ _ (by simpa using hc)]
        simp
      have hname : linkName? (front ++ [c]) =
          some (String.ofList ((front ++ [c]).rtakeWhile (· != '/'))) := by
        rw [linkName?, hpath, ← List.rtakeWhile]
        simp [hfilled]
      rw [hname, lastComponent?, hothers, List.filter_append]
      simp [hfilled]

/-! ### Reading back -/

theorem toList_historyOutput (link : String) (names : List String) :
    (historyOutput link names).toList =
      (if link = "" then [] else link.toList ++ ['\n']) ++ (sectionMark.toList ++ '\n' ::
        ended (names.map String.toList)) := by
  unfold historyOutput
  split <;> simp [String.toList_join, List.flatMap_map, ended]

/-- Names that are written down are read as they are. -/
theorem filledLines_names (h : ∀ n ∈ names, n ≠ "" ∧ IsLine n) :
    filledLines (ended (names.map String.toList)) = names.map String.toList := by
  apply Text.filledLines_ended
  intro line hline
  obtain ⟨n, hn, rfl⟩ := List.mem_map.mp hline
  obtain ⟨hne, hn⟩ := h n hn
  exact ⟨by simpa using hne, hn.trimmed, hn.single⟩

theorem parseHistory_of_splitOnce {stdout : String} {before after : List Char}
    (h : splitOnce sectionMark.toList stdout.toList = some (before, after)) :
    parseHistory stdout =
      some ⟨linkName? (trim before), (filledLines after).map String.ofList⟩ := by
  rw [parseHistory, h]
  rfl

/-- Where the link does not have the mark, the mark is found behind the line of the link. -/
theorem parseHistory_of_not_infix (hlink : IsLine link)
    (hmark : ¬ sectionMark.toList <:+: link.toList) (hnames : ∀ n ∈ names, n ≠ "" ∧ IsLine n) :
    parseHistory (historyOutput link names) = some ⟨lastComponent? link.toList, names⟩ := by
  have htext := toList_historyOutput link names
  have hhere : splitOnce sectionMark.toList
      (sectionMark.toList ++ '\n' :: ended (names.map String.toList)) =
        some ([], '\n' :: ended (names.map String.toList)) := by
    rw [Text.splitOnce_of_startsWith (List.prefix_append _ _), List.drop_left]
  have hread : (filledLines ('\n' :: ended (names.map String.toList))).map String.ofList =
      names := by
    rw [Text.filledLines_newline, filledLines_names hnames]
    simp
  by_cases hempty : link = ""
  · rw [if_pos hempty, List.nil_append] at htext
    rw [← htext] at hhere
    rw [parseHistory_of_splitOnce hhere, hread, hempty]
    rfl
  · rw [if_neg hempty, List.append_assoc, List.singleton_append] at htext
    -- the mark does not go over the end of the line, since it has no such end in it
    have hmarkLine : '\n' ∉ sectionMark.toList := by decide
    have hbeyond := Text.splitOnce_beyond (Text.splitOnce_eq_none_iff.mpr hmark) hmarkLine
      (sectionMark.toList ++ '\n' :: ended (names.map String.toList))
    rw [hhere, ← htext] at hbeyond
    rw [parseHistory_of_splitOnce hbeyond, hread, hlink.trimmed.trim_concat (by decide),
      linkName?_eq]

/-- Where the link has the mark, the line of the mark is read as one release more. -/
theorem exists_parseHistory_of_infix (hmark : sectionMark.toList <:+: link.toList)
    (hnames : ∀ n ∈ names, n ≠ "" ∧ IsLine n) :
    ∃ current others, parseHistory (historyOutput link names) =
      some ⟨current, others ++ sectionMark :: names⟩ := by
  have hfound : splitOnce sectionMark.toList link.toList ≠ none := by
    rw [ne_eq, Text.splitOnce_eq_none_iff, not_not]
    exact hmark
  obtain ⟨⟨before, after⟩, hsplit⟩ := Option.ne_none_iff_exists'.mp hfound
  have hempty : link ≠ "" := by
    intro hempty
    rw [hempty] at hmark
    exact absurd hmark (by decide)
  have htext := toList_historyOutput link names
  rw [if_neg hempty, List.append_assoc, List.singleton_append] at htext
  have houtput := Text.splitOnce_append hsplit
    ('\n' :: (sectionMark.toList ++ '\n' :: ended (names.map String.toList)))
  rw [← htext] at houtput
  have hmarkLine : filledLines sectionMark.toList = [sectionMark.toList] := by decide
  refine ⟨linkName? (trim before), (filledLines after).map String.ofList, ?_⟩
  rw [parseHistory_of_splitOnce houtput, Text.filledLines_append, Text.filledLines_append,
    hmarkLine, filledLines_names hnames]
  simp

/-- When a history is read back: exactly if the mark does not occur in the link. -/
theorem parseHistory_historyOutput_iff (hlink : IsLine link)
    (hnames : ∀ n ∈ names, n ≠ "" ∧ IsLine n) :
    parseHistory (historyOutput link names) = some ⟨lastComponent? link.toList, names⟩ ↔
      ¬ sectionMark.toList <:+: link.toList := by
  constructor
  · -- the reader finds more releases than there are
    intro hread hmark
    obtain ⟨current, front, hmore⟩ := exists_parseHistory_of_infix hmark hnames
    rw [hmore, Option.some.injEq, ReleaseList.mk.injEq] at hread
    have hlength := congrArg List.length hread.2
    simp at hlength
    omega
  · exact fun hmark => parseHistory_of_not_infix hlink hmark hnames

/-- A release may be called like the mark, but a directory on the way to the current one may not. -/
theorem markedRelease_read_back :
    IsLine "/opt/shop/releases/r2/" ∧ (∀ n ∈ ["--releases--", "r 1"], n ≠ "" ∧ IsLine n) ∧
      parseHistory (historyOutput "/opt/shop/releases/r2/" ["--releases--", "r 1"]) =
        some ⟨some "r2", ["--releases--", "r 1"]⟩ ∧
      IsLine "/opt/--releases--/r2" ∧
      parseHistory (historyOutput "/opt/--releases--/r2" ["--releases--", "r 1"]) ≠
        some ⟨some "r2", ["--releases--", "r 1"]⟩ := by
  have hnames : ∀ n ∈ ["--releases--", "r 1"], n ≠ "" ∧ IsLine n := by decide
  have hlink : IsLine "/opt/shop/releases/r2/" := by decide
  have hcurrent : lastComponent? "/opt/shop/releases/r2/".toList = some "r2" := by decide
  have hclear : splitOnce sectionMark.toList "/opt/shop/releases/r2/".toList = none := by decide
  have hmarked : IsLine "/opt/--releases--/r2" := by decide
  have hmarkedCurrent : lastComponent? "/opt/--releases--/r2".toList = some "r2" := by decide
  have hfound : splitOnce sectionMark.toList "/opt/--releases--/r2".toList ≠ none := by decide
  refine ⟨hlink, hnames, ?_, hmarked, ?_⟩
  · rw [← hcurrent, parseHistory_historyOutput_iff hlink hnames]
    exact Text.splitOnce_eq_none_iff.mp hclear
  · rw [← hmarkedCurrent, ne_eq, parseHistory_historyOutput_iff hmarked hnames,
      ← Text.splitOnce_eq_none_iff]
    exact hfound

end Rollout.Ssh
