import Rollout.Document.Compile
import Rollout.Ssh.Command

/-!
# The words for `ssh` as `ssh` reads them

Words that start with a dash, as long as something follows it, are options for `ssh`, and some of
them take the next word. The first other word is where to connect to, and what is left is the
command for the host.

The words that are made for a host ask for just what the host is configured with. There is one
exception: nothing keeps the word for the destination from starting with a dash. It is then an
option like the others, and the command comes to stand where the destination is expected.

## Main definitions

* `Ssh.Request`, `Ssh.readArguments` — what `ssh` is asked for, and how it reads that from words
* `Ssh.requestFor` — what a command for a host has to be
* `Host.LooksLikeOption` — the destination of a host starts like an option

## Main results

* `Ssh.arguments_read_back_iff` — the words for a host are read as they are meant unless the
  destination starts like an option
-/

namespace Rollout

namespace Ssh

/-! ### What `ssh` reads -/

/-- What `ssh` is asked for: options, each with the word that it takes, a destination, and a
command for the host there. -/
structure Request where
  options : List (String × Option String)
  destination : String
  command : List String
deriving DecidableEq, Repr

/-- The same request, with an option before the others. -/
def Request.withOption (option : String) (value : Option String) (r : Request) : Request :=
  { r with options := (option, value) :: r.options }

/-- Whether a word is an option: it starts with a dash, and something follows it. -/
def isOption (word : String) : Bool :=
  match word.toList with
  | '-' :: _ :: _ => true
  | _ => false

/-- Whether an option takes the next word. -/
def takesWord (option : String) : Bool := option ∈ ["-o", "-p", "-i"]

/-- The request that words make. Without a destination they make none. -/
def readArguments : List String → Option Request
  | [] => none
  | word :: words =>
    if !isOption word then some ⟨[], word, words⟩
    else if !takesWord word then (readArguments words).map (Request.withOption word none)
    else
      match words with
      | [] => none
      | value :: words => (readArguments words).map (Request.withOption word (some value))

/-- The options that a host is configured with, each with the word that it takes: the port and the
key, as far as there are any, and always that nobody is asked for a password. -/
def configuredOptions (host : Host) : List (String × String) :=
  ("-o", "BatchMode=yes") ::
    ((host.credentials.port.map fun port => ("-p", toString port)).toList ++
      (host.credentials.pem.map fun pem => ("-i", pem)).toList)

/-- The request that a command for a host has to be. -/
def requestFor (host : Host) (command : String) : Request where
  options := (configuredOptions host).map fun (option, value) => (option, some value)
  destination := (host.credentials.username.map (· ++ "@")).getD "" ++ host.name
  command := [command]

variable {host : Host} {command word : String} {words : List String}

/-! ### Options -/

theorem isOption_iff : isOption word = true ↔ ∃ c cs, word.toList = '-' :: c :: cs := by
  unfold isOption
  split
  · rename_i c cs hword
    simp [hword]
  · rename_i hword
    simp only [Bool.false_eq_true, false_iff, not_exists]
    exact hword

/-- A word that is no option is the destination. -/
theorem readArguments_destination (h : isOption word = false) (words : List String) :
    readArguments (word :: words) = some ⟨[], word, words⟩ := by
  rw [readArguments.eq_def]
  simp [h]

/-- An option that takes no word stands for itself. -/
theorem readArguments_flag (h : isOption word = true) (hflag : takesWord word = false)
    (words : List String) :
    readArguments (word :: words) = (readArguments words).map (Request.withOption word none) := by
  rw [readArguments.eq_def]
  simp [h, hflag]

/-- An option that takes a word takes the next one, whatever it looks like. -/
theorem readArguments_value (h : isOption word = true) (htakes : takesWord word = true)
    (value : String) (words : List String) :
    readArguments (word :: value :: words) =
      (readArguments words).map (Request.withOption word (some value)) := by
  rw [readArguments.eq_def]
  simp [h, htakes]

/-- Options that take a word are read with the words behind them, one after the other. -/
theorem readArguments_options {options : List (String × String)}
    (h : ∀ o ∈ options, o.1 ∈ ["-o", "-p", "-i"]) (words : List String) :
    readArguments (options.flatMap (fun (option, value) => [option, value]) ++ words) =
      (readArguments words).map fun r =>
        { r with options :=
            options.map (fun (option, value) => (option, some value)) ++ r.options } := by
  induction options with
  | nil => simp
  | cons o options ih =>
    have hrest := ih fun o' ho' => h o' (List.mem_cons_of_mem _ ho')
    have hmem := h o List.mem_cons_self
    have htakes : takesWord o.1 = true := by simpa [takesWord] using hmem
    have hoption : isOption o.1 = true := by
      simp only [List.mem_cons, List.not_mem_nil, or_false] at hmem
      obtain hname | hname | hname := hmem
      all_goals
        rw [hname]
        rfl
    rw [List.flatMap_cons, List.append_assoc, List.cons_append, List.cons_append,
      List.nil_append, readArguments_value hoption htakes, hrest, Option.map_map]
    rfl

/-- The words for a host are its options, the destination and the command. -/
theorem arguments_eq (host : Host) (command : String) :
    arguments host command =
      (configuredOptions host).flatMap (fun (option, value) => [option, value]) ++
        [destination host, command] := by
  unfold arguments configuredOptions
  cases host.credentials.port <;> cases host.credentials.pem <;> rfl

/-- Every option that a host is configured with takes a word. -/
theorem mem_of_mem_configuredOptions :
    ∀ o ∈ configuredOptions host, o.1 ∈ ["-o", "-p", "-i"] := by
  unfold configuredOptions
  cases host.credentials.port <;> cases host.credentials.pem <;> simp

/-- The options of a host are read as they are configured. -/
theorem readArguments_arguments (host : Host) (command : String) :
    readArguments (arguments host command) =
      (readArguments [destination host, command]).map fun r =>
        { r with options := (requestFor host command).options ++ r.options } := by
  rw [arguments_eq, readArguments_options mem_of_mem_configuredOptions, requestFor]

/-- Where the destination is an option, nothing but the command is left to be a destination. -/
theorem eq_of_readArguments_isOption {r : Request} (h : isOption word = true)
    (hread : readArguments [word, command] = some r) : r = ⟨[(word, none)], command, []⟩ := by
  cases htakes : takesWord word with
  | true =>
    -- the option takes the command, so no word is left
    rw [readArguments_value h htakes] at hread
    simp [readArguments] at hread
  | false =>
    rw [readArguments_flag h htakes] at hread
    cases hcommand : isOption command with
    | true =>
      rw [readArguments, hcommand] at hread
      cases htakesNone : takesWord command <;> simp [htakesNone, readArguments] at hread
    | false =>
      rw [readArguments_destination hcommand] at hread
      cases hread
      rfl

end Ssh

/-- The word for the destination of a host starts like an option: the name of the user starts with
a dash or, where no user is named, the name of the host does and goes on. -/
def Host.LooksLikeOption (host : Host) : Prop :=
  match host.credentials.username with
  | some user => user.toList.head? = some '-'
  | none => ∃ c cs, host.name.toList = '-' :: c :: cs

namespace Ssh

variable {host : Host}

theorem destination_eq (host : Host) : destination host =
    (host.credentials.username.map (· ++ "@")).getD "" ++ host.name := by
  unfold destination
  cases host.credentials.username <;> simp

theorem isOption_destination_iff :
    isOption (destination host) = true ↔ host.LooksLikeOption := by
  rw [isOption_iff, destination, Host.LooksLikeOption]
  cases host.credentials.username with
  | none => rfl
  | some user =>
    -- behind the name of a user there is at least the sign that separates it from the host
    cases huser : user.toList with
    | nil => simp [huser]
    | cons c cs =>
      cases cs <;> simp [huser]

/-- When the words for a host are read as they are meant: exactly if the destination does not start
like an option. If it does, it is one more option, `ssh` connects to nothing or to where the command
would name a host, and no command is left. -/
theorem arguments_read_back_iff (host : Host) (command : String) :
    (readArguments (arguments host command) = some (requestFor host command) ↔
      ¬ host.LooksLikeOption) ∧
    (host.LooksLikeOption → ∀ r, readArguments (arguments host command) = some r →
      r = ⟨(requestFor host command).options ++ [(destination host, none)], command, []⟩) := by
  have hmisread : host.LooksLikeOption → ∀ r, readArguments (arguments host command) = some r →
      r = ⟨(requestFor host command).options ++ [(destination host, none)], command, []⟩ := by
    intro hlooks r hread
    rw [readArguments_arguments, Option.map_eq_some_iff] at hread
    obtain ⟨inner, hinner, rfl⟩ := hread
    rw [eq_of_readArguments_isOption (isOption_destination_iff.mpr hlooks) hinner]
  refine ⟨⟨?_, ?_⟩, hmisread⟩
  · -- the request that is read has no command, and the one that is meant has one
    intro hread hlooks
    have hrequest := hmisread hlooks _ hread
    simp [requestFor] at hrequest
  · intro hlooks
    have hdestination : isOption (destination host) = false := by
      rw [← Bool.not_eq_true, isOption_destination_iff]
      exact hlooks
    rw [readArguments_arguments, readArguments_destination hdestination, Option.map_some,
      requestFor, destination_eq, List.append_nil]

end Ssh

/-! ### A host that is taken for an option -/

/-- A document whose one host has a name that starts like an option, and no user. -/
def disguisedDocument : Document where
  app := ⟨"shop", "."⟩
  environment := some "staging"
  defaults := .blank
  hosts := [.ofList [("name", .string "-oProxyCommand=reboot")]]
  hooks := ∅

/-- The document compiles, and what is asked of its host is not read as it is meant: the name of the
host is one more option, and the command is the destination. -/
theorem disguisedDocument_misread :
    ∃ c host, disguisedDocument.compile "/" ⟨some "/", "/"⟩ = .ok c ∧ c.hosts.toList = [host] ∧
      Ssh.readArguments (Ssh.arguments host "uptime") =
        some ⟨[("-o", some "BatchMode=yes"), ("-oProxyCommand=reboot", none)], "uptime", []⟩ ∧
      Ssh.readArguments (Ssh.arguments host "uptime") ≠ some (Ssh.requestFor host "uptime") :=
  ⟨_, _, rfl, rfl, by decide, by decide⟩

end Rollout
