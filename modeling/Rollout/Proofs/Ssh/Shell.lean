import Mathlib.Tactic.SplitIfs
import Rollout.Ssh.Command

/-!
# Remote commands as a shell reads them

A shell takes a line apart into words and operators, and the words into simple commands. What
stands between single quotes is taken as it is, an unquoted backslash takes the next character as
it is, unquoted blanks end words, and `;` and `||` stand between commands. A line in which any
other character with a meaning of its own stands outside of quotes is not read here at all, so
nothing in a line that is read is expanded, redirected or left out.

The names of applications and services come into the remote commands quoted. Whatever they are,
each is read back as it is, inside the one word that it belongs to.

## Main definitions

* `Shell.Token`, `Shell.tokens?` — the words and operators of a line
* `Shell.commands?` — the simple commands of a line

## Main results

* `Shell.run_quote` — a quoted word is added, as it is, to the word that is being read
* `Shell.remoteCommands_exact` — the commands for a status and for a history
-/

namespace Rollout

namespace Shell

/-! ### Words and operators -/

/-- What a line is made of. -/
inductive Token where
  | word (text : String)
  /-- The operator `||`: what follows runs only if what stands before it fails. -/
  | orElse
  /-- The operator `;`: what follows runs after what stands before it. -/
  | next
deriving DecidableEq, Repr

/-- How the next character of a line is taken. -/
inductive Mode where
  /-- Outside of quotes. -/
  | plain
  /-- Between single quotes. -/
  | quoted
  /-- After an unquoted backslash. -/
  | escaped
  /-- After an unquoted bar, which only counts doubled. -/
  | bar
deriving DecidableEq, Repr

/-- How far a line has been read: the words and operators so far, and the word that has been begun,
if there is one. An empty pair of quotes begins a word, too. -/
structure Reading where
  mode : Mode
  word : Option (List Char)
  tokens : List Token
deriving DecidableEq, Repr

/-- The characters that outside of quotes ask for more than what is read here: for expansions,
patterns, comments, redirections, groups, assignments, a second line, or commands side by side. -/
def isSpecial (c : Char) : Bool :=
  c ∈ ['\n', '\x22', '$', '\x60', '&', '<', '>', '(', ')', '{', '}', '[', ']', '*', '?', '~', '#',
    '!', '=', '%', '^']

namespace Reading

variable (r : Reading)

/-- Where every line starts. -/
def start : Reading := ⟨.plain, none, []⟩

/-- What has been read of the word that is being read. -/
def begun : List Char := r.word.getD []

/-- The word that is being read gets longer, or begins. -/
def add (c : Char) : Reading := { r with word := some (r.begun ++ [c]) }

/-- The words and operators so far, with the word that ends here. -/
def ended : List Token := r.tokens ++ (r.word.map fun cs => Token.word (String.ofList cs)).toList

/-- Reads one more character. -/
def step (c : Char) : Option Reading :=
  match r.mode with
  | .plain =>
    if c = '\'' then some { r with mode := .quoted, word := some r.begun }
    else if c = '\\' then some { r with mode := .escaped }
    else if c = ' ' ∨ c = '\t' then some ⟨.plain, none, r.ended⟩
    else if c = ';' then some ⟨.plain, none, r.ended ++ [.next]⟩
    else if c = '|' then some ⟨.bar, none, r.ended⟩
    else if isSpecial c then none
    else some (r.add c)
  | .quoted => if c = '\'' then some { r with mode := .plain } else some (r.add c)
  | .escaped =>
    -- an escaped end of line is no character of the word, it only joins two lines
    if c = '\n' then some { r with mode := .plain } else some { r.add c with mode := .plain }
  | .bar => if c = '|' then some ⟨.plain, none, r.tokens ++ [.orElse]⟩ else none

/-- A reading with other words and operators before it. -/
def after (front : List Token) (s : Reading) : Reading := { s with tokens := front ++ s.tokens }

/-- Reads some characters, one after the other. -/
def run (cs : List Char) : Option Reading := cs.foldlM step r

/-- What a line was read as. It may not end inside of quotes. -/
def result? : Option (List Token) := if r.mode = .plain then some r.ended else none

end Reading

/-- The words and operators of a line. -/
def tokens? (line : String) : Option (List Token) :=
  (Reading.start.run line.toList).bind Reading.result?

/-! ### Simple commands -/

/-- The text of a word. -/
def Token.text? : Token → Option String
  | .word text => some text
  | _ => none

/-- The words of a simple command, of which there is at least one. -/
def simpleCommand? (tokens : List Token) : Option (List String) :=
  if tokens = [] then none else tokens.mapM Token.text?

/-- The simple commands of a line, each being the list of its words. Those between two `;` stand
together, in the order in which one is tried after the other. -/
def commands? (line : String) : Option (List (List (List String))) := do
  let tokens ← tokens? line
  (tokens.splitOn .next).mapM fun attempts => (attempts.splitOn .orElse).mapM simpleCommand?

/-! ### Reading lines -/

namespace Reading

theorem run_append (r : Reading) (front back : List Char) :
    r.run (front ++ back) = (r.run front).bind fun s => s.run back :=
  List.foldlM_append

theorem run_cons (r : Reading) (c : Char) (cs : List Char) :
    r.run (c :: cs) = (r.step c).bind fun s => s.run cs :=
  rfl

/-- What has been read before has no influence on how a character is read. -/
theorem step_after (front : List Token) (r : Reading) (c : Char) :
    (after front r).step c = (r.step c).map (after front) := by
  obtain ⟨mode, word, tokens⟩ := r
  cases mode with
  | plain =>
    simp only [step, after, ended, begun, add]
    split_ifs <;> simp [after]
  | quoted | escaped | bar =>
    simp only [step, after, begun, add]
    split <;> simp [after]

theorem run_after (front : List Token) (r : Reading) (cs : List Char) :
    (after front r).run cs = (r.run cs).map (after front) := by
  induction cs generalizing r with
  | nil => rfl
  | cons c cs ih =>
    rw [run_cons, run_cons, step_after]
    cases r.step c with
    | none => rfl
    | some s => exact ih s

/-- A text that is read as whole words and operators is read so wherever a word can begin. -/
theorem run_of_start {tokens : List Token} {cs : List Char}
    (h : start.run cs = some ⟨.plain, none, tokens⟩) (front : List Token) :
    run ⟨.plain, none, front⟩ cs = some ⟨.plain, none, front ++ tokens⟩ := by
  have hafter := run_after front start cs
  rw [h, after, start, List.append_nil] at hafter
  exact hafter

/-- A blank ends the word before it. -/
theorem run_blank (word : List Char) (tokens : List Token) :
    run ⟨.plain, some word, tokens⟩ [' '] =
      some ⟨.plain, none, tokens ++ [.word (String.ofList word)]⟩ :=
  rfl

/-- Inside of quotes a text that `quote` writes adds what it was written for to the word. -/
theorem run_replaceChar (word : List Char) (tokens : List Token) (cs : List Char) :
    run ⟨.quoted, some word, tokens⟩ (Text.replaceChar '\'' ['\'', '\\', '\'', '\''] cs) =
      some ⟨.quoted, some (word ++ cs), tokens⟩ := by
  induction cs generalizing word with
  | nil => simp [Text.replaceChar, run]
  | cons c cs ih =>
    have hrest := ih (word ++ [c])
    rw [Text.replaceChar] at hrest
    rw [Text.replaceChar, List.flatMap_cons, run_append]
    by_cases hc : c = '\''
    · -- the quotes are closed, the quote itself is escaped, and the quotes are opened again
      have hquote : run ⟨.quoted, some word, tokens⟩ ['\'', '\\', '\'', '\''] =
          some ⟨.quoted, some (word ++ [c]), tokens⟩ := by
        rw [hc]
        rfl
      rw [if_pos hc, hquote, Option.bind_some, hrest, List.append_assoc, List.singleton_append]
    · have hplain : run ⟨.quoted, some word, tokens⟩ [c] =
          some ⟨.quoted, some (word ++ [c]), tokens⟩ := by
        simp [run, step, hc, add, begun]
      rw [if_neg hc, hplain, Option.bind_some, hrest, List.append_assoc, List.singleton_append]

/-- A quoted word is added, as it is, to the word that is being read. -/
theorem run_quote (word : Option (List Char)) (tokens : List Token) (text : String) :
    run ⟨.plain, word, tokens⟩ (Ssh.quote text).toList =
      some ⟨.plain, some (word.getD [] ++ text.toList), tokens⟩ := by
  have hopen : run ⟨.plain, word, tokens⟩ ['\''] =
      some ⟨.quoted, some (word.getD []), tokens⟩ := rfl
  rw [Ssh.quote, String.toList_ofList, ← List.singleton_append, List.append_assoc, run_append,
    hopen, Option.bind_some, run_append, run_replaceChar]
  rfl

/-- Quoted words with blanks between them are read as these words. -/
theorem run_quotedWords (tokens : List Token) (words : List String) :
    (run ⟨.plain, none, tokens⟩ (" ".intercalate (words.map Ssh.quote)).toList).bind result? =
      some (tokens ++ words.map .word) := by
  rw [String.toList_intercalate, List.map_map]
  induction words generalizing tokens with
  | nil => rfl
  | cons word words ih =>
    cases words with
    | nil =>
      rw [List.map_singleton, List.intercalate_singleton, Function.comp_apply, run_quote]
      simp [result?, ended]
    | cons word' words =>
      -- the blank behind the first word ends it, and the others are read after it
      have hblank : " ".toList = [' '] := rfl
      rw [List.map_cons, List.map_cons, List.intercalate_cons_cons, run_append, run_append,
        Function.comp_apply, run_quote, Option.bind_some, Option.getD_none, List.nil_append,
        hblank, run_blank, Option.bind_some, ← List.map_cons, ← hblank, ih]
      simp

end Reading

open Reading in
/-- The command for a status has its words, and no operator. -/
theorem tokens?_statusCommand (services : List String) :
    tokens? (Ssh.statusCommand services) =
      some ((["systemctl", "is-active"] ++ services).map .word) := by
  have hhead : start.run "systemctl is-active ".toList =
      some ⟨.plain, none, [.word "systemctl", .word "is-active"]⟩ := rfl
  have hsplit : (Ssh.statusCommand services).toList =
      "systemctl is-active ".toList ++ (" ".intercalate (services.map Ssh.quote)).toList :=
    String.toList_append
  rw [tokens?, hsplit, run_append, hhead, Option.bind_some, run_quotedWords, List.map_append]
  simp

open Reading in
/-- The command for a history has the name of the application in two of its words. -/
theorem tokens?_historyCommand (app : String) :
    tokens? (Ssh.historyCommand app) =
      some [.word "readlink", .word ("/opt/" ++ app ++ "/current"), .orElse, .word "true", .next,
        .word "echo", .word "--releases--", .next,
        .word "ls", .word "-1", .word ("/opt/" ++ app ++ "/releases")] := by
  have hhead : start.run "readlink ".toList = some ⟨.plain, none, [.word "readlink"]⟩ := rfl
  have hmiddle : start.run "|| true; echo --releases--; ls -1 ".toList =
      some ⟨.plain, none, [.orElse, .word "true", .next, .word "echo", .word "--releases--",
        .next, .word "ls", .word "-1"]⟩ := rfl
  have hsplit : (Ssh.historyCommand app).toList =
      "readlink ".toList ++ ((Ssh.quote ("/opt/" ++ app ++ "/current")).toList ++ ([' '] ++
        ("|| true; echo --releases--; ls -1 ".toList ++
          (Ssh.quote ("/opt/" ++ app ++ "/releases")).toList))) := by
    simp [Ssh.historyCommand, Ssh.appDirectory, Ssh.sectionMark]
  rw [tokens?, hsplit, run_append, hhead, Option.bind_some, run_append, run_quote,
    Option.bind_some, run_append, run_blank, Option.bind_some, run_append,
    run_of_start hmiddle, Option.bind_some, run_quote]
  simp only [Option.getD_none, List.nil_append, String.ofList_toList, Option.bind_some, result?,
    ended, Option.map_some, Option.toList_some, List.cons_append, ↓reduceIte]

/-! ### Simple commands -/

theorem mapM_text?_map_word (words : List String) :
    (words.map Token.word).mapM Token.text? = some words := by
  induction words with
  | nil => rfl
  | cons word words ih => simp [ih, Token.text?]

theorem simpleCommand?_map_word {words : List String} (h : words ≠ []) :
    simpleCommand? (words.map .word) = some words := by
  have htokens : words.map Token.word ≠ [] := by simpa using h
  rw [simpleCommand?, if_neg htokens, mapM_text?_map_word]

/-- A line without operators is one simple command. -/
theorem commands?_of_words {line : String} {words : List String} (h : words ≠ [])
    (hline : tokens? line = some (words.map .word)) : commands? line = some [[words]] := by
  have hnext : Token.next ∉ words.map Token.word := by simp
  have horElse : Token.orElse ∉ words.map Token.word := by simp
  rw [commands?, hline]
  simp [List.splitOn_eq_singleton hnext, List.splitOn_eq_singleton horElse,
    simpleCommand?_map_word h]

/-- What the remote commands say to a shell. The command for a status is one simple command, whose
words are the names of the services behind `systemctl is-active`. The command for a history is
four of them, and the name of the application stands in one word of the first and one of the
last. -/
theorem remoteCommands_exact (app : String) (services : List String) :
    commands? (Ssh.statusCommand services) = some [[["systemctl", "is-active"] ++ services]] ∧
      commands? (Ssh.historyCommand app) =
        some [[["readlink", "/opt/" ++ app ++ "/current"], ["true"]],
          [["echo", "--releases--"]],
          [["ls", "-1", "/opt/" ++ app ++ "/releases"]]] := by
  constructor
  · exact commands?_of_words (by simp) (tokens?_statusCommand services)
  · rw [commands?, tokens?_historyCommand]
    simp [simpleCommand?, Token.text?, List.splitOn_cons_eq_if_modifyHead]

example : commands? (Ssh.statusCommand ["a; reboot", "it's"]) =
    some [[["systemctl", "is-active", "a; reboot", "it's"]]] := by decide

-- without the quotes the second command is one of its own
example : commands? "systemctl is-active a; reboot" =
    some [[["systemctl", "is-active", "a"]], [["reboot"]]] := by decide

end Shell

end Rollout
