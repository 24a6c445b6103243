import Rollout.Proofs.Document.Reading
import Rollout.Proofs.FileTree.Widening
import Rollout.Proofs.Json.Pretty
import Rollout.Proofs.Path
import Rollout.Workspace

/-!
# Configurations from files

What a file means is what the value of its text means in the directory of the file. The text is read
part by part and the value field by field, and the directory is cut off the path of the file;
neither makes a difference, as long as no object of the text repeats a key.

## Main results

* `Document.compile_eq_of_normalize_eq` — how a directory is written does not matter
* `Workspace.loadDocument_eq_ok_iff` — the document in a file is that of its text
* `Workspace.loadConfig_eq_ok_iff` — the configuration in a file is that of the value of its text
-/

namespace Rollout

open Json (Source)

/-- A document means the same in absolute directories of the same normal form. -/
theorem Document.compile_eq_of_normalize_eq {dir dir' : String}
    (hdir : Path.isAbsolute dir = true) (hdir' : Path.isAbsolute dir' = true)
    (h : Path.normalize dir = Path.normalize dir') (doc : Document) (around : Surroundings) :
    doc.compile dir around = doc.compile dir' around := by
  have habsolute : around.absolute dir = around.absolute dir' := by
    rw [Surroundings.absolute, Surroundings.absolute, if_pos hdir, if_pos hdir', h]
  rw [compile, compile, habsolute]

/-- A file that can be read as a text is there. -/
theorem FileTree.contains_of_readText {root : FileTree} {workingDir : Standpoint}
    {path text : String} (h : root.readText workingDir path = .ok text) :
    root.contains workingDir path = true := by
  obtain ⟨s, hway, hread⟩ := bind_eq_ok_iff.mp h
  cases hseen : root.seenFrom s with
  | none =>
    rw [hseen] at hread
    cases hread
  | some found => simp [contains, at?, hway, hseen]

namespace Workspace

variable {w : Workspace} {path text : String} {v : Json}

/-- The document in a file is the one that its text stands for. -/
theorem loadDocument_eq_ok_iff (h : w.files.readText w.workingDir path = .ok text)
    {doc : Document} : w.loadDocument path = .ok doc ↔ Document.ofText text = .ok doc := by
  have hthere := FileTree.contains_of_readText h
  cases hdoc : Document.ofText text with
  | error problem => simp [loadDocument, hthere, h, hdoc]
  | ok found => simp [loadDocument, hthere, h, hdoc]

/-- The configuration in a file of an absolute directory is what the value of its text means there,
if no object of the text repeats a key. -/
theorem loadConfig_eq_ok_iff {dir name : String} (hdir : Path.isAbsolute dir = true)
    (hname : Path.IsName name.toList)
    (hfile : w.files.readText w.workingDir (Path.join dir name) = .ok text)
    (hvalue : Json.parse text = .ok v) (hkeys : (Source.ofText text).KeysDistinct)
    (fallback : Option String) (c : Config) :
    w.loadConfig (Path.join dir name) fallback = .ok c ↔
      ∃ doc, Document.ofJson v = .ok doc ∧
        (doc.orEnvironment fallback).compile dir w.surroundings = .ok c := by
  obtain ⟨d, hparent, habsolute, hnormal⟩ := Path.exists_parent?_join hdir hname
  have hplace : ∀ doc : Document, doc.compile ((Path.parent? (Path.join dir name)).getD ".")
      w.surroundings = doc.compile dir w.surroundings := by
    intro doc
    rw [hparent]
    exact Document.compile_eq_of_normalize_eq habsolute hdir hnormal doc w.surroundings
  simp only [loadConfig, bind_eq_ok_iff, loadDocument_eq_ok_iff hfile,
    Document.ofText_eq_ok_iff_ofJson hvalue hkeys, hplace]

end Workspace

/-- A document without hosts that does not name its environment. The section about the application
is an array, and a note is no field. -/
def notedValue : Json :=
  .object [("app", .array [.string "shop", .string "../app"]), ("hosts", .array []),
    ("note", .ofNat 0)]

/-- The text of the document, one item or member a line. -/
def notedText : String := notedValue.pretty ++ "\n"

/-- A directory with the document. -/
def notedSite : Workspace where
  files := .directory [("srv", .directory [("staging.flotilla.json", .file notedText.toUTF8)])]
  workingDir := ⟨[], 0⟩
  home := "/home/me"
  deploySetting := none
  colours := false
  ssh := none

theorem notedSite_readText : notedSite.files.readText notedSite.workingDir
    (Path.join "/srv" "staging.flotilla.json") = .ok notedText := by
  have hway : notedSite.files.locate notedSite.workingDir
      (Path.join "/srv" "staging.flotilla.json") = .ok ⟨["srv", "staging.flotilla.json"], 0⟩ := by
    decide +kernel
  have hseen : notedSite.files.seenFrom ⟨["srv", "staging.flotilla.json"], 0⟩ =
      some (.file notedText.toUTF8) := rfl
  simp [FileTree.readText, hway, bind, Except.bind, hseen, FileTree.fromUTF8?_toByteArray]

theorem notedText_value : Json.parse notedText = .ok notedValue := by
  apply Json.parse_pretty
  · simp [notedValue, Json.Integral, Json.IntegralItems, Json.IntegralMembers, Json.ofNat,
      Json.minInteger, Json.maxInteger]
  · simp only [notedValue, Json.SortedKeys, Json.SortedMembers, Json.SortedItems, Json.ofNat,
      List.pairwise_cons, List.Pairwise.nil, List.mem_cons, List.not_mem_nil, or_false,
      forall_eq_or_imp, forall_eq, String.reduceLT, IsEmpty.forall_iff, implies_true, and_self]
  · decide

/-- The document is read alike from its file and from its value. -/
theorem notedSite_loadConfig :
    ∃ c, notedSite.loadConfig (Path.join "/srv" "staging.flotilla.json") (some "staging") = .ok c ∧
      (∃ doc, Document.ofJson notedValue = .ok doc ∧
        (doc.orEnvironment (some "staging")).compile "/srv" notedSite.surroundings = .ok c) ∧
      c.app = ⟨"shop", "/app"⟩ ∧ c.environment = "staging" := by
  have hdir : Path.isAbsolute "/srv" = true := by decide
  have hname : Path.IsName "staging.flotilla.json".toList :=
    ⟨by decide, by decide, by decide, by decide⟩
  have hkeys : (Source.ofText notedText).KeysDistinct := by decide +kernel
  obtain ⟨c, hc, happ, henvironment⟩ : ∃ c, (∃ doc, Document.ofJson notedValue = .ok doc ∧
      (doc.orEnvironment (some "staging")).compile "/srv" notedSite.surroundings = .ok c) ∧
      c.app = ⟨"shop", "/app"⟩ ∧ c.environment = "staging" :=
    ⟨_, ⟨_, rfl, rfl⟩, by decide, by decide⟩
  have hload := Workspace.loadConfig_eq_ok_iff hdir hname notedSite_readText notedText_value hkeys
    (some "staging") c
  exact ⟨c, hload.mpr hc, hc, happ, henvironment⟩

end Rollout
